import DataMethods.Text.Blank
import DataMethods.Text.Affix

/-!
# The chunks of a template

The source of a template is plain text with two kinds of tags: slots, between double braces, and
blocks, between braces with percent signs inside them. A tag ends at the first possible
closing; nothing inside it counts as an opening.

A block that stands alone on its line, apart from spaces and tabs, is written so for the eye only:
`withoutBlockLines` drops the white space around it and the end of the line. `chunks` then cuts the
text into tags and the text between them. `chunksOf` refuses a text with an opening that belongs to
no tag.
-/

namespace DataMethods.Template

/-- A tag with the text inside it, or the text between two tags. -/
inductive Chunk where
  | text (s : List Char)
  | slot (inside : List Char)
  | block (inside : List Char)
deriving Repr, DecidableEq

namespace Chunk

/-- The chunk as it stands in the source. -/
def source : Chunk → List Char
  | .text s => s
  | .slot inside => '{' :: '{' :: inside ++ ['}', '}']
  | .block inside => '{' :: '%' :: inside ++ ['%', '}']

end Chunk

/-- The source of a row of chunks. -/
def sourceOf (cs : List Chunk) : List Char :=
  cs.flatMap Chunk.source

/-! ## Blocks alone on a line -/

/-- The white space that may stand beside a block alone on its line. -/
def isLineBlank (c : Char) : Bool :=
  c == ' ' || c == '\t'

/-- Takes a line off the text that holds a single block, without any percent sign inside it. The
result is the block, as it stands in the source, and the text after the line. -/
def blockLine? (s : List Char) : Option (List Char × List Char) :=
  match s.dropWhile isLineBlank with
  | '{' :: '%' :: afterOpen =>
    match afterOpen.dropWhile (· ≠ '%') with
    | '%' :: '}' :: afterTag =>
      match afterTag.dropWhile isLineBlank with
      | '\n' :: rest => some ((Chunk.block (afterOpen.takeWhile (· ≠ '%'))).source, rest)
      | _ => none
    | _ => none
  | _ => none

theorem length_of_blockLine? {s tag rest : List Char} (h : blockLine? s = some (tag, rest)) :
    rest.length < s.length := by
  unfold blockLine? at h
  split at h <;> try contradiction
  next r h1 =>
  split at h <;> try contradiction
  next r' h2 =>
  split at h <;> try contradiction
  next r'' h3 =>
  cases h
  have e1 := (List.dropWhile_sublist isLineBlank (l := s)).length_le
  have e2 := (List.dropWhile_sublist (· ≠ '%') (l := r)).length_le
  have e3 := (List.dropWhile_sublist isLineBlank (l := r')).length_le
  rw [h1] at e1
  rw [h2] at e2
  rw [h3] at e3
  simp only [List.length_cons] at e1 e2 e3
  omega

/-- The text in which a block alone on its line stands for the whole line. The flag says whether the
text begins at the start of a line. -/
def withoutBlockLines (atStart : Bool) : List Char → List Char
  | [] => []
  | c :: s =>
    match h : if atStart then blockLine? (c :: s) else none with
    | some (tag, rest) =>
      have : rest.length < (c :: s).length := by
        split at h
        · exact length_of_blockLine? h
        · contradiction
      tag ++ withoutBlockLines true rest
    | none => c :: withoutBlockLines (c == '\n') s
termination_by s => s.length
decreasing_by
  · assumption
  · exact Nat.lt_succ_self _

@[simp] theorem withoutBlockLines_nil (atStart : Bool) : withoutBlockLines atStart [] = [] := by
  rw [withoutBlockLines]

theorem withoutBlockLines_of_blockLine? {s tag rest : List Char}
    (h : blockLine? s = some (tag, rest)) :
    withoutBlockLines true s = tag ++ withoutBlockLines true rest := by
  cases s with
  | nil => simp [blockLine?] at h
  | cons c s =>
  rw [withoutBlockLines]
  split
  · next h' => rw [if_pos rfl, h] at h'; cases h'; rfl
  · next h' => rw [if_pos rfl, h] at h'; cases h'

theorem withoutBlockLines_cons {atStart : Bool} {c : Char} {s : List Char}
    (h : atStart = false ∨ blockLine? (c :: s) = none) :
    withoutBlockLines atStart (c :: s) = c :: withoutBlockLines (c == '\n') s := by
  rw [withoutBlockLines]
  split
  · next h' =>
    rcases h with rfl | h
    · simp at h'
    · simp [h] at h'
  · rfl

/-! ## Tags -/

/-- Splits a text at the first `mark` that a closing brace follows. -/
def splitAtClose? (mark : Char) : List Char → Option (List Char × List Char)
  | c :: d :: s =>
    if c = mark ∧ d = '}' then some ([], s)
    else (splitAtClose? mark (d :: s)).map fun (inside, rest) => (c :: inside, rest)
  | _ => none

/-- Takes a tag off the beginning of a text. -/
def tag? : List Char → Option (Chunk × List Char)
  | '{' :: '{' :: s => (splitAtClose? '}' s).map fun (inside, rest) => (.slot inside, rest)
  | '{' :: '%' :: s => (splitAtClose? '%' s).map fun (inside, rest) => (.block inside, rest)
  | _ => none

theorem eq_of_splitAtClose? {mark : Char} {s inside rest : List Char}
    (h : splitAtClose? mark s = some (inside, rest)) : s = inside ++ mark :: '}' :: rest := by
  induction s generalizing inside with
  | nil => simp [splitAtClose?] at h
  | cons c s ih =>
    cases s with
    | nil => simp [splitAtClose?] at h
    | cons d s =>
      unfold splitAtClose? at h
      split at h
      · next hc =>
        cases h
        simp [hc]
      · obtain ⟨⟨i, r⟩, hi, he⟩ := Option.map_eq_some_iff.1 h
        cases he
        simp [ih hi]

/-- The source of a tag and the text after it make up the text. -/
theorem eq_of_tag? {s rest : List Char} {tag : Chunk} (h : tag? s = some (tag, rest)) :
    s = tag.source ++ rest := by
  unfold tag? at h
  split at h
  · obtain ⟨⟨i, r⟩, hi, he⟩ := Option.map_eq_some_iff.1 h
    cases he
    simp [Chunk.source, eq_of_splitAtClose? hi]
  · obtain ⟨⟨i, r⟩, hi, he⟩ := Option.map_eq_some_iff.1 h
    cases he
    simp [Chunk.source, eq_of_splitAtClose? hi]
  · contradiction

theorem Chunk.source_ne_nil_of_tag? {s rest : List Char} {tag : Chunk}
    (h : tag? s = some (tag, rest)) : tag.source ≠ [] := by
  unfold tag? at h
  split at h
  · obtain ⟨⟨i, r⟩, hi, he⟩ := Option.map_eq_some_iff.1 h
    cases he
    simp [Chunk.source]
  · obtain ⟨⟨i, r⟩, hi, he⟩ := Option.map_eq_some_iff.1 h
    cases he
    simp [Chunk.source]
  · contradiction

theorem length_of_tag? {s rest : List Char} {tag : Chunk} (h : tag? s = some (tag, rest)) :
    rest.length < s.length := by
  have hs := congrArg List.length (eq_of_tag? h)
  have := List.length_pos_iff.2 (Chunk.source_ne_nil_of_tag? h)
  rw [List.length_append] at hs
  omega

/-- Puts a character in front of a row of chunks, into its first text if it begins with one. -/
def addChar (c : Char) : List Chunk → List Chunk
  | .text s :: cs => .text (c :: s) :: cs
  | cs => .text [c] :: cs

/-- Cuts a text into its tags, from left to right, and the text between them. -/
def chunks (s : List Char) : List Chunk :=
  match h : tag? s with
  | some (tag, rest) =>
    have := length_of_tag? h
    tag :: chunks rest
  | none =>
    match s with
    | [] => []
    | c :: s => addChar c (chunks s)
termination_by s.length

theorem chunks_of_tag? {s rest : List Char} {tag : Chunk} (h : tag? s = some (tag, rest)) :
    chunks s = tag :: chunks rest := by
  rw [chunks]
  split
  · next h' => rw [h] at h'; cases h'; rfl
  · next h' => rw [h] at h'; cases h'

@[simp] theorem chunks_nil : chunks [] = [] := by
  rw [chunks]
  simp [tag?]

theorem chunks_cons {c : Char} {s : List Char} (h : tag? (c :: s) = none) :
    chunks (c :: s) = addChar c (chunks s) := by
  rw [chunks]
  split
  · next h' => rw [h] at h'; cases h'
  · rfl

/-- Does the text hold the opening of a tag? -/
def hasOpening : List Char → Bool
  | c :: d :: s => c == '{' && (d == '{' || d == '%') || hasOpening (d :: s)
  | _ => false

/-- Is the chunk a text that holds the opening of a tag? -/
def Chunk.isUnclosed : Chunk → Bool
  | .text s => hasOpening s
  | _ => false

end DataMethods.Template
