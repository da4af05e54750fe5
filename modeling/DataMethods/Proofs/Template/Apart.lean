import DataMethods.Proofs.Template.Chunks
import Mathlib.Data.List.Chain

/-!
# Telling chunks apart

A tag goes from its opening to the first closing of its kind behind that, whatever stands in
between. `CutsInto` says what a text is cut into from left to right: the first place at which a
complete tag begins ends the text in front of it, and what follows the tag is cut likewise. Where no
text that is left holds an opening, the first two characters of each piece tell what it is.
Otherwise the source is refused.

## Key results

- `tag?_eq_some_iff`: what is taken off a text is a complete tag
- `cutsInto_iff`: the chunks of a text are what it is cut into from left to right
- `CutsInto.toldApart`: without a lone opening the pieces can be told apart by themselves
- `chunksOf_tellsApart`: which sources are cut into chunks, and what is known of these
-/

namespace DataMethods.Template

/-! ## Complete tags -/

/-- The kinds of tags. -/
inductive TagKind where
  | slot
  | block
deriving Repr, DecidableEq

namespace TagKind

/-- What a tag begins with. -/
def opening : TagKind → List Char
  | .slot => ['{', '{']
  | .block => ['{', '%']

/-- The first character of what a tag ends with. -/
def mark : TagKind → Char
  | .slot => '}'
  | .block => '%'

/-- What a tag ends with. -/
def closing (k : TagKind) : List Char :=
  [k.mark, '}']

/-- The tag with this text inside it. -/
def chunk : TagKind → List Char → Chunk
  | .slot => .slot
  | .block => .block

/-- The text is one tag: it begins with the opening and ends with the first closing behind that. -/
structure Complete (k : TagKind) (s : List Char) : Prop where
  closed : ∃ inside, s = k.opening ++ inside ++ k.closing
  first : ∀ inside rest, s = k.opening ++ inside ++ k.closing ++ rest → rest = []

theorem source_chunk (k : TagKind) (inside : List Char) :
    (k.chunk inside).source = k.opening ++ inside ++ k.closing := by
  cases k <;> rfl

theorem opening_prefix_source (k : TagKind) (inside : List Char) :
    k.opening <+: (k.chunk inside).source :=
  ⟨inside ++ k.closing, by rw [source_chunk, List.append_assoc]⟩

/-- A text begins with one opening at most. -/
theorem eq_of_opening_prefix {k k' : TagKind} {s : List Char} (h : k.opening <+: s)
    (h' : k'.opening <+: s) : k = k' := by
  have hlength : k.opening.length = k'.opening.length := by cases k <;> cases k' <;> rfl
  have heq := (List.prefix_of_prefix_length_le h h' (Nat.le_of_eq hlength)).eq_of_length hlength
  cases k <;> cases k' <;> first | rfl | contradiction

theorem tag?_opening (k : TagKind) (s : List Char) :
    tag? (k.opening ++ s) =
      (splitAtClose? k.mark s).map fun (inside, rest) => (k.chunk inside, rest) := by
  cases k <;> rfl

end TagKind

/-! ### The first closing -/

section

variable {mark : Char} {s inside rest : List Char}

theorem splitAtClose?_append_of_some (h : splitAtClose? mark s = some (inside, rest))
    (more : List Char) : splitAtClose? mark (s ++ more) = some (inside, rest ++ more) := by
  induction s generalizing inside with
  | nil => simp [splitAtClose?] at h
  | cons c s ih =>
    cases s with
    | nil => simp [splitAtClose?] at h
    | cons d s =>
      rw [List.cons_append, List.cons_append, splitAtClose?]
      rw [splitAtClose?] at h
      split at h
      · next hclose =>
        cases h
        rw [if_pos hclose]
      · next hopen =>
        obtain ⟨⟨i, r⟩, hi, heq⟩ := Option.map_eq_some_iff.mp h
        cases heq
        rw [if_neg hopen, ← List.cons_append, ih hi]
        rfl

/-- A text with a closing is split there or further in front. -/
theorem exists_splitAtClose? (mark : Char) (before after : List Char) :
    ∃ inside rest, splitAtClose? mark (before ++ mark :: '}' :: after) = some (inside, rest) ∧
      after.length ≤ rest.length := by
  induction before with
  | nil =>
    refine ⟨[], after, ?_, Nat.le_refl _⟩
    rw [List.nil_append, splitAtClose?]
    simp
  | cons c before ih =>
    obtain ⟨inside, rest, hsplit, hlength⟩ := ih
    obtain ⟨d, s, hd⟩ : ∃ d s, before ++ mark :: '}' :: after = d :: s :=
      List.exists_cons_of_ne_nil (by simp)
    rw [List.cons_append, hd, splitAtClose?]
    split
    · -- A closing further in front leaves more of the text behind it.
      have hshorter := congrArg List.length hd
      simp only [List.length_append, List.length_cons] at hshorter
      exact ⟨[], s, rfl, by omega⟩
    · rw [← hd, hsplit]
      exact ⟨c :: inside, rest, rfl, hlength⟩

end

/-! ### Tags at the beginning of a text -/

section

variable {s rest : List Char} {tag : Chunk}

theorem exists_split_of_tag? (h : tag? s = some (tag, rest)) :
    ∃ (k : TagKind) (inside after : List Char), s = k.opening ++ after ∧ tag = k.chunk inside ∧
      splitAtClose? k.mark after = some (inside, rest) := by
  unfold tag? at h
  split at h
  · obtain ⟨⟨inside, r⟩, hsplit, heq⟩ := Option.map_eq_some_iff.mp h
    cases heq
    exact ⟨.slot, inside, _, rfl, rfl, hsplit⟩
  · obtain ⟨⟨inside, r⟩, hsplit, heq⟩ := Option.map_eq_some_iff.mp h
    cases heq
    exact ⟨.block, inside, _, rfl, rfl, hsplit⟩
  · contradiction

/-- What was taken off is closed at the first closing. -/
theorem complete_of_split {k : TagKind} {inside after : List Char}
    (h : splitAtClose? k.mark after = some (inside, rest)) :
    k.Complete (k.chunk inside).source := by
  refine ⟨⟨inside, k.source_chunk inside⟩, ?_⟩
  intro inside' rest' hsource
  rw [k.source_chunk, List.append_assoc, List.append_assoc, List.append_assoc] at hsource
  have hinside : inside ++ k.closing = inside' ++ (k.closing ++ rest') :=
    List.append_cancel_left hsource
  -- An earlier closing would have split the whole text further in front.
  have hafter : after = inside' ++ k.mark :: '}' :: (rest' ++ rest) := by
    rw [eq_of_splitAtClose? h]
    simpa [TagKind.closing] using congrArg (· ++ rest) hinside
  obtain ⟨i, r, hsplit, hlength⟩ := exists_splitAtClose? k.mark inside' (rest' ++ rest)
  rw [← hafter, h] at hsplit
  cases hsplit
  rw [List.length_append] at hlength
  exact List.length_eq_zero_iff.mp (by omega)

/-- A complete tag is split at its end, whatever follows it. -/
theorem TagKind.Complete.split {k : TagKind} {inside : List Char}
    (h : k.Complete (k.chunk inside).source) (rest : List Char) :
    splitAtClose? k.mark (inside ++ k.closing ++ rest) = some (inside, rest) := by
  obtain ⟨i, r, hsplit, -⟩ := exists_splitAtClose? k.mark inside []
  have hinside : inside ++ k.closing = i ++ (k.closing ++ r) := eq_of_splitAtClose? hsplit
  have hsource : (k.chunk inside).source = k.opening ++ i ++ k.closing ++ r := by
    rw [k.source_chunk, List.append_assoc, hinside]
    simp
  -- The tag ends where it was split, so nothing is left of it.
  obtain rfl := h.first i r hsource
  obtain rfl : inside = i := by simpa using hinside
  exact splitAtClose?_append_of_some hsplit rest

/-- What is taken off the beginning of a text is a complete tag, and every such tag is. -/
theorem tag?_eq_some_iff :
    tag? s = some (tag, rest) ↔ ∃ (k : TagKind) (inside : List Char), tag = k.chunk inside ∧
      k.Complete tag.source ∧ s = tag.source ++ rest := by
  constructor
  · intro h
    obtain ⟨k, inside, after, -, rfl, hsplit⟩ := exists_split_of_tag? h
    exact ⟨k, inside, rfl, complete_of_split hsplit, eq_of_tag? h⟩
  · rintro ⟨k, inside, rfl, hcomplete, rfl⟩
    rw [k.source_chunk, List.append_assoc, List.append_assoc, k.tag?_opening,
      ← List.append_assoc, hcomplete.split rest]
    rfl

end

/-! ## From left to right -/

/-- A complete tag stands at the beginning of the text. -/
def BeginsWithTag (s : List Char) : Prop :=
  ∃ (k : TagKind) (tag : List Char), k.Complete tag ∧ tag <+: s

/-- No complete tag begins in the text `before`, which `after` follows. -/
def TagFree (before after : List Char) : Prop :=
  ∀ a c b, before = a ++ c :: b → ¬BeginsWithTag (c :: b ++ after)

/-- What a text is cut into when the complete tags are cut out of it from left to right: these tags
and the texts between them that are not empty. -/
inductive CutsInto : List Char → List Chunk → Prop where
  | rest {s : List Char} : TagFree s [] → CutsInto s (textRow s)
  | tag {k : TagKind} {before inside after : List Char} {cs : List Chunk} :
      TagFree before ((k.chunk inside).source ++ after) → k.Complete (k.chunk inside).source →
      CutsInto after cs →
      CutsInto (before ++ ((k.chunk inside).source ++ after))
        (textRow before ++ k.chunk inside :: cs)

theorem tag?_eq_none_iff {s : List Char} : tag? s = none ↔ ¬BeginsWithTag s := by
  rw [Option.eq_none_iff_forall_ne_some]
  constructor
  · rintro hnone ⟨k, tag, hcomplete, rest, rfl⟩
    obtain ⟨inside, htag⟩ := hcomplete.closed
    obtain rfl : (k.chunk inside).source = tag := (k.source_chunk inside).trans htag.symm
    exact hnone (k.chunk inside, rest) (tag?_eq_some_iff.mpr ⟨k, inside, rfl, hcomplete, rfl⟩)
  · rintro hbegins ⟨tag, rest⟩ htag
    obtain ⟨k, inside, rfl, hcomplete, rfl⟩ := tag?_eq_some_iff.mp htag
    exact hbegins ⟨k, _, hcomplete, List.prefix_append _ rest⟩

namespace TagFree

variable {c : Char} {before after : List Char}

theorem nil : TagFree [] after := by
  intro a c b hnil
  simp at hnil

theorem cons (hc : tag? (c :: (before ++ after)) = none) (h : TagFree before after) :
    TagFree (c :: before) after := by
  intro a d b hsplit
  cases a with
  | nil =>
    obtain ⟨rfl, rfl⟩ := List.cons.inj hsplit
    exact tag?_eq_none_iff.mp hc
  | cons d' a =>
    obtain ⟨-, rfl⟩ := List.cons.inj hsplit
    exact h a d b rfl

theorem chunks_append (h : TagFree before after) (hafter : startsWithText (chunks after) = false) :
    chunks (before ++ after) = textRow before ++ chunks after :=
  Template.chunks_append (fun a c b hsplit => tag?_eq_none_iff.mpr (h a c b hsplit)) hafter

end TagFree

theorem startsWithText_chunk (k : TagKind) (inside : List Char) (cs : List Chunk) :
    startsWithText (k.chunk inside :: cs) = false := by
  cases k <;> rfl

theorem addChar_textRow_append (c : Char) (s : List Char) {cs : List Chunk}
    (h : startsWithText cs = false) : addChar c (textRow s ++ cs) = textRow (c :: s) ++ cs := by
  cases s with
  | nil => exact addChar_of_startsWithText h c
  | cons d s => rfl

namespace CutsInto

variable {s : List Char} {cs : List Chunk}

/-- A character at which no tag begins belongs to the text in front of the first tag. -/
theorem cons {c : Char} (h : CutsInto s cs) (hc : tag? (c :: s) = none) :
    CutsInto (c :: s) (addChar c cs) := by
  cases h with
  | rest hfree =>
    have hrow : addChar c (textRow s ++ []) = textRow (c :: s) ++ [] :=
      addChar_textRow_append c s rfl
    rw [List.append_nil, List.append_nil] at hrow
    rw [hrow]
    exact .rest (hfree.cons (by rwa [List.append_nil]))
  | tag hfree hcomplete hafter =>
    rw [addChar_textRow_append c _ (startsWithText_chunk _ _ _)]
    exact .tag (hfree.cons hc) hcomplete hafter

theorem of_chunks (s : List Char) : CutsInto s (chunks s) := by
  -- As the text is read: a tag is taken off, or a character at which none begins.
  induction s using chunks.induct with
  | case1 s tag rest htag _ ih =>
    rw [chunks_of_tag? htag]
    obtain ⟨k, inside, rfl, hcomplete, rfl⟩ := tag?_eq_some_iff.mp htag
    exact .tag .nil hcomplete ih
  | case2 _ =>
    rw [chunks_nil]
    exact .rest .nil
  | case3 c s hnone ih =>
    rw [chunks_cons hnone]
    exact ih.cons hnone

theorem chunks_eq (h : CutsInto s cs) : chunks s = cs := by
  induction h with
  | @rest s hfree =>
    -- This is the text in front of nothing at all.
    have hchunks := hfree.chunks_append (by rw [chunks_nil]; rfl)
    simpa using hchunks
  | @tag k before inside after cs hfree hcomplete _ ih =>
    have htag : chunks ((k.chunk inside).source ++ after) = k.chunk inside :: cs := by
      rw [chunks_of_tag? (tag?_eq_some_iff.mpr ⟨k, inside, rfl, hcomplete, rfl⟩), ih]
    rw [hfree.chunks_append (by rw [htag, startsWithText_chunk]), htag]

end CutsInto

/-- The chunks of a text are what it is cut into from left to right, and nothing else is. -/
theorem cutsInto_iff {s : List Char} {cs : List Chunk} : CutsInto s cs ↔ chunks s = cs :=
  ⟨CutsInto.chunks_eq, fun h => h ▸ CutsInto.of_chunks s⟩

/-! ## The pieces of a text -/

/-- The text begins like a tag. -/
def OpensTag (s : List Char) : Prop :=
  ∃ k : TagKind, k.opening <+: s

/-- The text holds the opening of a tag. -/
def HoldsOpening (s : List Char) : Prop :=
  ∃ k : TagKind, k.opening <:+: s

/-- No text of the row holds the opening of a tag. -/
def PlainTexts (cs : List Chunk) : Prop :=
  ∀ t, .text t ∈ cs → ¬HoldsOpening t

/-- The chunk that a piece of a text is taken for by its first two characters. -/
def Chunk.ofPiece : List Char → Chunk
  | '{' :: '{' :: s => .slot s.dropLast.dropLast
  | '{' :: '%' :: s => .block s.dropLast.dropLast
  | s => .text s

/-- The pieces make up the text, and the first two characters of each tell what it is: a complete
tag, or a text without an opening, of which no two meet. -/
structure ToldApart (text : List Char) (cs : List Chunk) : Prop where
  flatten : (cs.map Chunk.source).flatten = text
  ne_nil : ∀ c ∈ cs, c.source ≠ []
  complete : ∀ c ∈ cs, ∀ k : TagKind, k.opening <+: c.source → k.Complete c.source
  plain : ∀ c ∈ cs, ¬OpensTag c.source → ¬HoldsOpening c.source
  apart : cs.IsChain fun c d => OpensTag c.source ∨ OpensTag d.source
  told : ∀ c ∈ cs, Chunk.ofPiece c.source = c

theorem OpensTag.holdsOpening {s : List Char} : OpensTag s → HoldsOpening s :=
  fun ⟨k, h⟩ => ⟨k, h.isInfix⟩

theorem opensTag_chunk (k : TagKind) (inside : List Char) : OpensTag (k.chunk inside).source :=
  ⟨k, k.opening_prefix_source inside⟩

theorem hasOpening_iff {s : List Char} : hasOpening s = true ↔ HoldsOpening s := by
  rw [hasOpening_eq, Bool.or_eq_true, Text.occursIn_iff, Text.occursIn_iff]
  constructor
  · rintro (⟨before, after, h⟩ | ⟨before, after, h⟩)
    · exact ⟨.slot, before, after, h.symm⟩
    · exact ⟨.block, before, after, h.symm⟩
  · rintro ⟨k, before, after, h⟩
    cases k with
    | slot => exact .inl ⟨before, after, h.symm⟩
    | block => exact .inr ⟨before, after, h.symm⟩

theorem Chunk.isUnclosed_iff {c : Chunk} :
    c.isUnclosed = true ↔ ∃ s, c = .text s ∧ HoldsOpening s := by
  cases c with
  | text s => simp [isUnclosed, hasOpening_iff]
  | slot inside => simp [isUnclosed]
  | block inside => simp [isUnclosed]

theorem Chunk.ofPiece_chunk (k : TagKind) (inside : List Char) :
    Chunk.ofPiece (k.chunk inside).source = k.chunk inside := by
  cases k <;> simp [TagKind.chunk, Chunk.source, Chunk.ofPiece]

theorem Chunk.ofPiece_text {s : List Char} (h : ¬OpensTag s) : Chunk.ofPiece s = .text s := by
  unfold ofPiece
  split
  · next r => exact absurd ⟨.slot, r, rfl⟩ h
  · next r => exact absurd ⟨.block, r, rfl⟩ h
  · rfl

theorem mem_textRow {c : Chunk} {s : List Char} : c ∈ textRow s ↔ s ≠ [] ∧ c = .text s := by
  cases s <;> simp [textRow]

theorem sourceOf_textRow (s : List Char) : sourceOf (textRow s) = s := by
  cases s <;> simp [textRow, sourceOf, Chunk.source]

namespace CutsInto

variable {s : List Char} {cs : List Chunk}

theorem sourceOf_eq (h : CutsInto s cs) : sourceOf cs = s := by
  induction h with
  | rest => exact sourceOf_textRow _
  | tag _ _ _ ih =>
    rw [sourceOf_append, sourceOf_textRow, sourceOf_cons, ih]

/-- A row consists of complete tags and of texts that are not empty. -/
theorem cases_of_mem (h : CutsInto s cs) {c : Chunk} (hc : c ∈ cs) :
    (∃ (k : TagKind) (inside : List Char), c = k.chunk inside ∧ k.Complete c.source) ∨
      ∃ t, t ≠ [] ∧ c = .text t := by
  induction h with
  | rest => exact .inr ⟨_, mem_textRow.mp hc⟩
  | @tag k before inside _ _ _ hcomplete _ ih =>
    rcases List.mem_append.mp hc with hc | hc
    · exact .inr ⟨_, mem_textRow.mp hc⟩
    · rcases List.mem_cons.mp hc with rfl | hc
      · exact .inl ⟨k, inside, rfl, hcomplete⟩
      · exact ih hc

/-- Between any two texts there is a tag. -/
theorem isChain (h : CutsInto s cs) :
    cs.IsChain fun c d => OpensTag c.source ∨ OpensTag d.source := by
  induction h with
  | @rest s _ => cases s <;> simp [textRow]
  | @tag k before inside _ cs _ _ _ ih =>
    have htag : (k.chunk inside :: cs).IsChain fun c d => OpensTag c.source ∨ OpensTag d.source :=
      List.isChain_cons.mpr ⟨fun _ _ => .inl (opensTag_chunk k inside), ih⟩
    cases before with
    | nil => exact htag
    | cons c before => exact List.isChain_cons_cons.mpr ⟨.inr (opensTag_chunk k inside), htag⟩

/-- Where no text holds an opening, the pieces can be told apart. -/
theorem toldApart (h : CutsInto s cs) (hplain : PlainTexts cs) : ToldApart s cs := by
  have hsource : (cs.map Chunk.source).flatten = s := by
    rw [← List.flatMap_def]
    exact h.sourceOf_eq
  refine ⟨hsource, ?ne_nil, ?complete, ?plain, h.isChain, ?told⟩
  -- A piece is a tag, which begins with an opening, or a text, which holds none.
  all_goals
    intro c hc
    obtain ⟨k, inside, rfl, hcomplete⟩ | ⟨t, hne, rfl⟩ := h.cases_of_mem hc
  case ne_nil.inl =>
    intro hnil
    have hprefix := k.opening_prefix_source inside
    rw [hnil, List.prefix_nil] at hprefix
    cases k <;> contradiction
  case ne_nil.inr => exact hne
  case complete.inl =>
    intro k' hk'
    rwa [TagKind.eq_of_opening_prefix hk' (k.opening_prefix_source inside)]
  case complete.inr =>
    intro k' hk'
    exact absurd ⟨k', hk'.isInfix⟩ (hplain t hc)
  case plain.inl => exact fun hnot => absurd (opensTag_chunk k inside) hnot
  case plain.inr => exact fun _ => hplain t hc
  case told.inl => exact Chunk.ofPiece_chunk k inside
  case told.inr => exact Chunk.ofPiece_text fun hopens => hplain t hc hopens.holdsOpening

end CutsInto

/-! ## The chunks of a source -/

theorem find?_isUnclosed_eq_none_iff {cs : List Chunk} :
    cs.find? Chunk.isUnclosed = none ↔ PlainTexts cs := by
  rw [List.find?_eq_none]
  constructor
  · intro h t ht hholds
    exact h _ ht (Chunk.isUnclosed_iff.mpr ⟨t, rfl, hholds⟩)
  · intro h c hc hunclosed
    obtain ⟨t, rfl, hholds⟩ := Chunk.isUnclosed_iff.mp hunclosed
    exact h t hc hholds

/-- The first text of a row that holds an opening is found. -/
theorem find?_isUnclosed_eq_some_iff {cs : List Chunk} {bad : Chunk} :
    cs.find? Chunk.isUnclosed = some bad ↔ ∃ front t back, cs = front ++ .text t :: back ∧
      PlainTexts front ∧ HoldsOpening t ∧ bad = .text t := by
  have hfront : ∀ front : List Chunk, (∀ c ∈ front, (!c.isUnclosed) = true) ↔ PlainTexts front := by
    intro front
    rw [← find?_isUnclosed_eq_none_iff, List.find?_eq_none]
    simp
  rw [List.find?_eq_some_iff_append]
  constructor
  · rintro ⟨hbad, front, back, rfl, hplain⟩
    obtain ⟨t, rfl, hholds⟩ := Chunk.isUnclosed_iff.mp hbad
    exact ⟨front, t, back, rfl, (hfront front).mp hplain, hholds, rfl⟩
  · rintro ⟨front, t, back, rfl, hplain, hholds, rfl⟩
    exact ⟨Chunk.isUnclosed_iff.mpr ⟨t, rfl, hholds⟩, front, back, rfl, (hfront front).mpr hplain⟩

section

variable {source : List Char}

theorem chunksOf_of_find?_none
    (h : (chunks (withoutBlockLines true source)).find? Chunk.isUnclosed = none) :
    chunksOf source = .ok (chunks (withoutBlockLines true source)) := by
  rw [chunksOf]
  simp only [h]

theorem chunksOf_of_find?_some {bad : Chunk}
    (h : (chunks (withoutBlockLines true source)).find? Chunk.isUnclosed = some bad) :
    chunksOf source = .error (.unclosedTag (String.ofList ((Text.trim bad.source).take 40))) := by
  rw [chunksOf]
  simp only [h]

/-- A source is cut into chunks if no text between its tags holds an opening. -/
theorem chunksOf_eq_ok_iff {cs : List Chunk} :
    chunksOf source = .ok cs ↔
      CutsInto (withoutBlockLines true source) cs ∧ PlainTexts cs := by
  rw [cutsInto_iff]
  cases hfind : (chunks (withoutBlockLines true source)).find? Chunk.isUnclosed with
  | none =>
    rw [chunksOf_of_find?_none hfind, Except.ok.injEq]
    refine (and_iff_left_of_imp ?_).symm
    rintro rfl
    exact find?_isUnclosed_eq_none_iff.mp hfind
  | some bad =>
    rw [chunksOf_of_find?_some hfind]
    refine iff_of_false nofun ?_
    rintro ⟨rfl, hplain⟩
    rw [find?_isUnclosed_eq_none_iff.mpr hplain] at hfind
    contradiction

/-- A source is refused for the first text between its tags that holds an opening. -/
theorem chunksOf_eq_error_iff {e : CompileError} :
    chunksOf source = .error e ↔ ∃ front t back,
      CutsInto (withoutBlockLines true source) (front ++ .text t :: back) ∧
      PlainTexts front ∧ HoldsOpening t ∧
      e = .unclosedTag (String.ofList ((Text.trim t).take 40)) := by
  simp only [cutsInto_iff]
  constructor
  · intro h
    cases hfind : (chunks (withoutBlockLines true source)).find? Chunk.isUnclosed with
    | none =>
      rw [chunksOf_of_find?_none hfind] at h
      contradiction
    | some bad =>
      rw [chunksOf_of_find?_some hfind] at h
      cases h
      obtain ⟨front, t, back, hrow, hplain, hholds, rfl⟩ :=
        find?_isUnclosed_eq_some_iff.mp hfind
      exact ⟨front, t, back, hrow, hplain, hholds, rfl⟩
  · rintro ⟨front, t, back, hrow, hplain, hholds, rfl⟩
    exact chunksOf_of_find?_some
      (find?_isUnclosed_eq_some_iff.mpr ⟨front, t, back, hrow, hplain, hholds, rfl⟩)

end

/-- A source, in which blocks alone on a line stand for the line, is cut from left to right. If no
text that is left between the tags holds an opening, the pieces can be told apart by their first two
characters. Otherwise the source is refused for the first text that holds one. -/
theorem chunksOf_tellsApart (source : List Char) :
    (∀ cs, chunksOf source = .ok cs ↔
      CutsInto (withoutBlockLines true source) cs ∧ PlainTexts cs) ∧
    (∀ cs, chunksOf source = .ok cs → ToldApart (withoutBlockLines true source) cs) ∧
    (∀ e, chunksOf source = .error e ↔ ∃ front t back,
      CutsInto (withoutBlockLines true source) (front ++ .text t :: back) ∧
      PlainTexts front ∧ HoldsOpening t ∧
      e = .unclosedTag (String.ofList ((Text.trim t).take 40))) := by
  refine ⟨fun cs => chunksOf_eq_ok_iff, ?_, fun e => chunksOf_eq_error_iff⟩
  intro cs h
  obtain ⟨hcuts, hplain⟩ := chunksOf_eq_ok_iff.mp h
  exact hcuts.toldApart hplain

/-- A block alone on a line, a slot with the marks of a block inside it, a block with a brace inside
it, and a source in which a slot is not closed. -/
theorem chunksOf_tellsApart_overlapping :
    let source := " \x7b% else %\x7d\t\na\x7b\x7b% if x %\x7d\x7d\x7d\x7b%\x7d%\x7d".toList
    let cs : List Chunk :=
      [.block " else ".toList, .text ['a'], .slot "% if x %".toList, .text ['}'], .block ['}']]
    chunksOf source = .ok cs ∧
      ToldApart "\x7b% else %\x7da\x7b\x7b% if x %\x7d\x7d\x7d\x7b%\x7d%\x7d".toList cs ∧
      chunksOf "\x7b\x7b \x7b% x %\x7d".toList = .error (.unclosedTag "\x7b\x7b") ∧
      ∃ front t back, CutsInto "\x7b\x7b \x7b% x %\x7d".toList (front ++ .text t :: back) ∧
        HoldsOpening t := by
  intro source cs
  have hchunks : chunksOf source = .ok cs := by decide +kernel
  have hlines : withoutBlockLines true source =
      "\x7b% else %\x7da\x7b\x7b% if x %\x7d\x7d\x7d\x7b%\x7d%\x7d".toList := by decide +kernel
  have hrefused : chunksOf "\x7b\x7b \x7b% x %\x7d".toList = .error (.unclosedTag "\x7b\x7b") := by
    decide +kernel
  have hsame : withoutBlockLines true "\x7b\x7b \x7b% x %\x7d".toList =
      "\x7b\x7b \x7b% x %\x7d".toList := by decide +kernel
  obtain ⟨front, t, back, hcuts, -, hholds, -⟩ := ((chunksOf_tellsApart _).2.2 _).mp hrefused
  rw [hsame] at hcuts
  refine ⟨hchunks, ?_, hrefused, front, t, back, hcuts, hholds⟩
  rw [← hlines]
  exact (chunksOf_tellsApart source).2.1 cs hchunks

end DataMethods.Template
