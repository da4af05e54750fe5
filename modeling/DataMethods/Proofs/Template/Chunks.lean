import DataMethods.Template.Basic

/-!
# Cutting a source into its chunks

A row of chunks is `Separated` if it can be told from its source where one chunk ends and the next
one begins: no two texts meet, no text holds an opening or makes one with what follows it, and the
inside of a tag is free of the characters that tags begin and end with. The source of such a row is
cut into the row again, provided that no block in it stands alone on a line.

## Key results

- `chunks_sourceOf`: the source of a separated row is cut into the row
- `hasBlockLine_iff`: which rows have a block alone on a line
- `withoutBlockLines_sourceOf`: where no block stands alone on a line, no line is dropped
- `chunksOf_sourceOf`: both together, for the chunks of a whole source
-/

namespace DataMethods.Template

/-! ## Separated rows -/

/-- The characters that tags begin and end with. -/
def isMark (c : Char) : Bool :=
  c == '{' || c == '}' || c == '%'

/-- Does the row begin with a text? -/
def startsWithText : List Chunk → Bool
  | .text _ :: _ => true
  | _ => false

/-- The chunks of the row can be told apart in its source. -/
def Separated : List Chunk → Prop
  | [] => True
  | .text s :: cs =>
    s ≠ [] ∧ hasOpening s = false ∧ (cs = [] ∨ s.getLast? ≠ some '{') ∧
      startsWithText cs = false ∧ Separated cs
  | .slot inside :: cs => inside.any isMark = false ∧ Separated cs
  | .block inside :: cs => inside.any isMark = false ∧ Separated cs

instance decidableSeparated : (cs : List Chunk) → Decidable (Separated cs)
  | [] => inferInstanceAs (Decidable True)
  | .text _ :: cs =>
    have := decidableSeparated cs
    inferInstanceAs (Decidable (_ ∧ _ ∧ (_ ∨ _) ∧ _ ∧ Separated cs))
  | .slot _ :: cs =>
    have := decidableSeparated cs
    inferInstanceAs (Decidable (_ ∧ Separated cs))
  | .block _ :: cs =>
    have := decidableSeparated cs
    inferInstanceAs (Decidable (_ ∧ Separated cs))

theorem Separated.of_cons {chunk : Chunk} {cs : List Chunk} (h : Separated (chunk :: cs)) :
    Separated cs := by
  cases chunk with
  | text s => exact h.2.2.2.2
  | slot inside => exact h.2
  | block inside => exact h.2

theorem sourceOf_cons (c : Chunk) (cs : List Chunk) :
    sourceOf (c :: cs) = c.source ++ sourceOf cs :=
  List.flatMap_cons

theorem sourceOf_append (as bs : List Chunk) : sourceOf (as ++ bs) = sourceOf as ++ sourceOf bs :=
  List.flatMap_append

theorem not_mem_of_any_isMark {inside : List Char} {c : Char} (h : inside.any isMark = false)
    (hc : isMark c = true) : c ∉ inside := by
  intro hmem
  have hany : inside.any isMark = true := List.any_eq_true.mpr ⟨c, hmem, hc⟩
  rw [h] at hany
  contradiction

/-! ## Tags -/

/-- A tag is closed at the first closing, which is the one behind an inside without marks. -/
theorem splitAtClose?_append {mark : Char} {inside : List Char} (h : mark ∉ inside)
    (rest : List Char) :
    splitAtClose? mark (inside ++ mark :: '}' :: rest) = some (inside, rest) := by
  induction inside with
  | nil =>
    rw [List.nil_append, splitAtClose?]
    simp
  | cons c inside ih =>
    have hc : c ≠ mark := fun heq => h (heq ▸ List.mem_cons_self)
    have hrest := ih fun hmem => h (List.mem_cons_of_mem c hmem)
    obtain ⟨d, s, hd⟩ : ∃ d s, inside ++ mark :: '}' :: rest = d :: s :=
      List.exists_cons_of_ne_nil (by simp)
    rw [List.cons_append, hd, splitAtClose?, if_neg fun hand => hc hand.1, ← hd, hrest]
    rfl

theorem tag?_slot {inside : List Char} (h : inside.any isMark = false) (rest : List Char) :
    tag? ((Chunk.slot inside).source ++ rest) = some (.slot inside, rest) := by
  have hsource : (Chunk.slot inside).source ++ rest =
      '{' :: '{' :: (inside ++ '}' :: '}' :: rest) := by simp [Chunk.source]
  rw [hsource, tag?, splitAtClose?_append (not_mem_of_any_isMark h rfl)]
  rfl

theorem tag?_block {inside : List Char} (h : inside.any isMark = false) (rest : List Char) :
    tag? ((Chunk.block inside).source ++ rest) = some (.block inside, rest) := by
  have hsource : (Chunk.block inside).source ++ rest =
      '{' :: '%' :: (inside ++ '%' :: '}' :: rest) := by simp [Chunk.source]
  rw [hsource, tag?, splitAtClose?_append (not_mem_of_any_isMark h rfl)]
  rfl

/-- A tag begins with an opening. -/
theorem tag?_eq_none {c : Char} {s : List Char}
    (h : c = '{' → s.head? ≠ some '{' ∧ s.head? ≠ some '%') : tag? (c :: s) = none := by
  unfold tag?
  split
  · next heq =>
    cases heq
    exact absurd rfl (h rfl).1
  · next heq =>
    cases heq
    exact absurd rfl (h rfl).2
  · rfl

/-! ## Texts -/

theorem addChar_of_startsWithText {cs : List Chunk} (h : startsWithText cs = false) (c : Char) :
    addChar c cs = .text [c] :: cs := by
  cases cs with
  | nil => rfl
  | cons chunk cs =>
    cases chunk with
    | text s => contradiction
    | slot inside => rfl
    | block inside => rfl

/-- A text as a row, which is empty if the text is. -/
def textRow : List Char → List Chunk
  | [] => []
  | c :: s => [.text (c :: s)]

/-- A text in which no tag begins is kept together up to what follows it. -/
theorem chunks_append {before after : List Char}
    (hnone : ∀ a c b, before = a ++ c :: b → tag? (c :: b ++ after) = none)
    (hafter : startsWithText (chunks after) = false) :
    chunks (before ++ after) = textRow before ++ chunks after := by
  induction before with
  | nil => rfl
  | cons c before ih =>
    have hrest : chunks (before ++ after) = textRow before ++ chunks after := by
      refine ih ?_
      rintro a d b rfl
      exact hnone (c :: a) d b rfl
    have hfirst : tag? (c :: (before ++ after)) = none := hnone [] c before rfl
    rw [List.cons_append, chunks_cons hfirst, hrest]
    cases before with
    | nil => exact addChar_of_startsWithText hafter c
    | cons d before => rfl

theorem hasOpening_of_append {before after : List Char} (h : hasOpening (before ++ after) = false) :
    hasOpening after = false := by
  induction before with
  | nil => exact h
  | cons c before ih =>
    apply ih
    cases hs : before ++ after with
    | nil => rfl
    | cons d s =>
      rw [List.cons_append, hs, hasOpening, Bool.or_eq_false_iff] at h
      exact h.2

/-- A text without an opening is kept together, if no opening begins at its end. -/
theorem chunks_text {s rest : List Char} (hne : s ≠ []) (hopening : hasOpening s = false)
    (hlast : rest = [] ∨ s.getLast? ≠ some '{') (hrest : startsWithText (chunks rest) = false) :
    chunks (s ++ rest) = .text s :: chunks rest := by
  have hnone : ∀ a c b, s = a ++ c :: b → tag? (c :: b ++ rest) = none := by
    rintro a c b rfl
    refine tag?_eq_none ?_
    rintro rfl
    cases b with
    | nil =>
      -- The last character opens no tag, for it is no brace or there is nothing behind it.
      rcases hlast with rfl | hlast
      · simp
      · simp at hlast
    | cons d b =>
      have hpair : hasOpening ('{' :: d :: b) = false := hasOpening_of_append hopening
      simp only [hasOpening, Bool.or_eq_false_iff, Bool.and_eq_false_iff] at hpair
      simpa using hpair.1
  obtain ⟨c, s, rfl⟩ := List.exists_cons_of_ne_nil hne
  exact chunks_append hnone hrest

/-- The source of a separated row is cut into the row. -/
theorem chunks_sourceOf {cs : List Chunk} (h : Separated cs) : chunks (sourceOf cs) = cs := by
  induction cs with
  | nil => exact chunks_nil
  | cons chunk cs ih =>
    rw [sourceOf_cons]
    cases chunk with
    | text s =>
      obtain ⟨hne, hopening, hlast, hstart, hcs⟩ := h
      have hrest := ih hcs
      have hend : sourceOf cs = [] ∨ s.getLast? ≠ some '{' :=
        hlast.imp_left fun hnil => by rw [hnil]; rfl
      have htext : chunks (s ++ sourceOf cs) = .text s :: chunks (sourceOf cs) :=
        chunks_text hne hopening hend (by rw [hrest]; exact hstart)
      rw [Chunk.source, htext, hrest]
    | slot inside =>
      obtain ⟨hinside, hcs⟩ := h
      rw [chunks_of_tag? (tag?_slot hinside _), ih hcs]
    | block inside =>
      obtain ⟨hinside, hcs⟩ := h
      rw [chunks_of_tag? (tag?_block hinside _), ih hcs]

/-- No text of a separated row holds an opening. -/
theorem find?_isUnclosed {cs : List Chunk} (h : Separated cs) :
    cs.find? Chunk.isUnclosed = none := by
  induction cs with
  | nil => rfl
  | cons chunk cs ih =>
    cases chunk with
    | text s =>
      obtain ⟨-, hopening, -, -, hcs⟩ := h
      have hclosed : (Chunk.text s).isUnclosed = false := hopening
      rw [List.find?_cons_of_neg (by simp [hclosed]), ih hcs]
    | slot inside => exact ih h.2
    | block inside => exact ih h.2

/-! ## Openings -/

theorem occursIn_pair (a b c d : Char) (s : List Char) :
    Text.occursIn [a, b] (c :: d :: s) = (c == a && d == b || Text.occursIn [a, b] (d :: s)) := by
  rw [Text.occursIn]
  by_cases hc : a = c <;> by_cases hd : b = d <;> simp [Text.stripStart?, hc, hd, Ne.symm]

/-- An opening is one of two pairs of characters. -/
theorem hasOpening_eq (s : List Char) :
    hasOpening s = (Text.occursIn ['{', '{'] s || Text.occursIn ['{', '%'] s) := by
  induction s with
  | nil => rfl
  | cons c s ih =>
    cases s with
    | nil => simp [hasOpening, Text.occursIn, Text.stripStart?]
    | cons d s =>
      rw [hasOpening, ih, occursIn_pair, occursIn_pair, Bool.and_or_distrib_left]
      ac_rfl

theorem hasOpening_append (before after : List Char) :
    hasOpening (before ++ '{' :: '%' :: after) = true := by
  have hoccurs : Text.occursIn ['{', '%'] (before ++ '{' :: '%' :: after) = true :=
    Text.occursIn_iff.mpr ⟨before, after, by simp⟩
  rw [hasOpening_eq, hoccurs, Bool.or_true]

/-- No chunk ends with the first half of an opening, unless nothing follows it. -/
theorem source_getLast?_ne {chunk : Chunk} {cs : List Chunk} (h : Separated (chunk :: cs)) :
    cs = [] ∨ chunk.source.getLast? ≠ some '{' := by
  cases chunk with
  | text s =>
    obtain ⟨-, -, hlast, -⟩ := h
    exact hlast
  | slot inside => exact .inr (by simp [Chunk.source, List.getLast?_cons])
  | block inside => exact .inr (by simp [Chunk.source, List.getLast?_cons])

/-- The opening of a block stands in no chunk but a block, and there at the beginning. -/
theorem eq_block_of_source {chunk : Chunk} {cs : List Chunk} (h : Separated (chunk :: cs))
    {before after : List Char} (hsource : chunk.source = before ++ '{' :: '%' :: after) :
    ∃ inside, chunk = .block inside ∧ '%' ∉ inside ∧ before = [] ∧
      after = inside ++ ['%', '}'] := by
  cases chunk with
  | text s =>
    obtain ⟨-, hopening, -⟩ := h
    have hs : s = before ++ '{' :: '%' :: after := hsource
    rw [hs, hasOpening_append] at hopening
    contradiction
  | slot inside =>
    -- A slot is written without a percent sign.
    have hmem : '%' ∈ (Chunk.slot inside).source := by rw [hsource]; simp
    have hinside : '%' ∉ inside := not_mem_of_any_isMark h.1 rfl
    simp [Chunk.source, hinside] at hmem
  | block inside =>
    refine ⟨inside, rfl, not_mem_of_any_isMark h.1 rfl, ?_⟩
    have hinside : '{' ∉ inside := not_mem_of_any_isMark h.1 rfl
    cases before with
    | nil => simpa [Chunk.source, eq_comm] using hsource
    | cons c before =>
      -- There is one opening brace in a block, its first character.
      have hmem : '{' ∈ '%' :: inside ++ ['%', '}'] := by
        have htail := congrArg List.tail hsource
        simp only [Chunk.source, List.cons_append, List.tail_cons] at htail
        rw [List.cons_append, htail]
        simp
      simp [hinside] at hmem

/-- Where the source of a row opens a block, the row has one. -/
theorem exists_block_of_opening {cs : List Chunk} (h : Separated cs) {before after : List Char}
    (hsource : sourceOf cs = before ++ '{' :: '%' :: after) :
    ∃ a inside b, cs = a ++ .block inside :: b ∧ '%' ∉ inside ∧ before = sourceOf a ∧
      after = inside ++ '%' :: '}' :: sourceOf b := by
  induction cs generalizing before with
  | nil =>
    have hnil : ([] : List Char) = before ++ '{' :: '%' :: after := hsource
    simp at hnil
  | cons chunk cs ih =>
    have hcs : Separated cs := h.of_cons
    rw [sourceOf_cons] at hsource
    rcases List.append_eq_append_iff.mp hsource with ⟨before', rfl, hrest⟩ | ⟨part, hpart, hafter⟩
    · obtain ⟨a, inside, b, rfl, hinside, rfl, rfl⟩ := ih hcs hrest
      exact ⟨chunk :: a, inside, b, rfl, hinside, (sourceOf_cons chunk a).symm, rfl⟩
    · -- The opening begins in the chunk or right behind it.
      match part with
      | [] =>
        have hrest : sourceOf cs = [] ++ '{' :: '%' :: after := hafter.symm
        obtain ⟨a, inside, b, rfl, hinside, ha, rfl⟩ := ih hcs hrest
        refine ⟨chunk :: a, inside, b, rfl, hinside, ?_, rfl⟩
        rw [sourceOf_cons, ← ha, hpart, List.append_nil, List.append_nil]
      | [c] =>
        obtain ⟨rfl, hrest⟩ : '{' = c ∧ '%' :: after = sourceOf cs := by simpa using hafter
        rcases source_getLast?_ne h with rfl | hlast
        · simp [sourceOf] at hrest
        · simp [hpart] at hlast
      | c :: d :: part =>
        obtain ⟨rfl, rfl, rfl⟩ : '{' = c ∧ '%' = d ∧ after = part ++ sourceOf cs := by
          simpa using hafter
        obtain ⟨inside, rfl, hinside, rfl, rfl⟩ := eq_block_of_source h hpart
        exact ⟨[], inside, cs, rfl, hinside, rfl, by simp⟩

/-! ## Blocks alone on a line -/

/-- Is a line empty but for spaces and tabs, from its beginning before what stands between these two
texts to its end behind it? -/
def standsAlone (before after : List Char) : Bool :=
  (before.reverse.dropWhile isLineBlank).head?.all (· == '\n') &&
    (after.dropWhile isLineBlank).head? == some '\n'

/-- Does a block of the row stand alone on a line, where the text `before` precedes the row? -/
def hasBlockLine (before : List Char) : List Chunk → Bool
  | [] => false
  | .block inside :: cs =>
    standsAlone before (sourceOf cs) || hasBlockLine (before ++ (Chunk.block inside).source) cs
  | chunk :: cs => hasBlockLine (before ++ chunk.source) cs

theorem standsAlone_append {before blanks after : List Char}
    (hstart : before = [] ∨ before.getLast? = some '\n')
    (hblanks : ∀ c ∈ blanks, isLineBlank c = true)
    (hend : (after.dropWhile isLineBlank).head? = some '\n') :
    standsAlone (before ++ blanks) after = true := by
  have hdrop : (before ++ blanks).reverse.dropWhile isLineBlank =
      before.reverse.dropWhile isLineBlank := by
    rw [List.reverse_append]
    exact List.dropWhile_append_of_pos fun c hc => hblanks c (List.mem_reverse.mp hc)
  rw [standsAlone, hdrop, hend]
  rcases hstart with rfl | hlast
  · rfl
  · obtain ⟨lines, rfl⟩ := List.getLast?_eq_some_iff.mp hlast
    rw [List.reverse_append, List.reverse_singleton, List.singleton_append,
      List.dropWhile_cons_of_neg (by decide)]
    rfl

theorem hasBlockLine_iff {before : List Char} {cs : List Chunk} :
    hasBlockLine before cs = true ↔ ∃ a inside b, cs = a ++ .block inside :: b ∧
      standsAlone (before ++ sourceOf a) (sourceOf b) = true := by
  induction cs generalizing before with
  | nil => simp [hasBlockLine]
  | cons chunk cs ih =>
    have hstep : hasBlockLine before (chunk :: cs) = true ↔
        (∃ inside, chunk = .block inside ∧ standsAlone before (sourceOf cs) = true) ∨
          hasBlockLine (before ++ chunk.source) cs = true := by
      cases chunk <;> simp [hasBlockLine]
    rw [hstep, ih]
    constructor
    · rintro (⟨inside, rfl, hlone⟩ | ⟨a, inside, b, rfl, hlone⟩)
      · exact ⟨[], inside, cs, rfl, by simpa [sourceOf] using hlone⟩
      · exact ⟨chunk :: a, inside, b, rfl, by rwa [sourceOf_cons, ← List.append_assoc]⟩
    · rintro ⟨a, inside, b, hcs, hlone⟩
      cases a with
      | nil =>
        obtain ⟨rfl, rfl⟩ := List.cons.inj hcs
        exact .inl ⟨inside, rfl, by simpa [sourceOf] using hlone⟩
      | cons c a =>
        obtain ⟨rfl, rfl⟩ := List.cons.inj hcs
        exact .inr ⟨a, inside, b, rfl, by rwa [sourceOf_cons, ← List.append_assoc] at hlone⟩

/-- A line with a single block, taken apart. -/
theorem exists_of_blockLine? {s tag rest : List Char} (h : blockLine? s = some (tag, rest)) :
    ∃ blanks inside after, s = blanks ++ '{' :: '%' :: (inside ++ '%' :: '}' :: after) ∧
      (∀ c ∈ blanks, isLineBlank c = true) ∧ '%' ∉ inside ∧
      (after.dropWhile isLineBlank).head? = some '\n' := by
  unfold blockLine? at h
  split at h <;> try contradiction
  next afterOpen hopen =>
  split at h <;> try contradiction
  next after hclose =>
  split at h <;> try contradiction
  next rest' hend =>
  refine ⟨s.takeWhile isLineBlank, afterOpen.takeWhile (· ≠ '%'), after, ?_, ?_, ?_, ?_⟩
  · rw [← hclose, List.takeWhile_append_dropWhile, ← hopen, List.takeWhile_append_dropWhile]
  · exact fun c hc => List.all_eq_true.mp List.all_takeWhile c hc
  · intro hmem
    have hne := List.all_eq_true.mp List.all_takeWhile _ hmem
    simp at hne
  · rw [hend]
    rfl

/-- If no line is a block line, none is changed. -/
theorem withoutBlockLines_eq_self {atStart : Bool} {s : List Char}
    (h : ∀ before after, s = before ++ after →
      (before = [] ∧ atStart = true ∨ before.getLast? = some '\n') → blockLine? after = none) :
    withoutBlockLines atStart s = s := by
  induction s generalizing atStart with
  | nil => exact withoutBlockLines_nil atStart
  | cons c s ih =>
    have hhere : atStart = false ∨ blockLine? (c :: s) = none := by
      cases atStart with
      | false => exact .inl rfl
      | true => exact .inr (h [] (c :: s) rfl (.inl ⟨rfl, rfl⟩))
    have hrest : withoutBlockLines (c == '\n') s = s := by
      apply ih
      intro before after hs hstart
      refine h (c :: before) after (by rw [hs]; rfl) (.inr ?_)
      rcases hstart with ⟨rfl, hc⟩ | hlast
      · rw [List.getLast?_singleton, eq_of_beq hc]
      · rw [List.getLast?_cons, hlast]
        rfl
    rw [withoutBlockLines_cons hhere, hrest]

/-- Where no block stands alone on a line, no line is dropped. -/
theorem withoutBlockLines_sourceOf {cs : List Chunk} (h : Separated cs)
    (hlines : hasBlockLine [] cs = false) : withoutBlockLines true (sourceOf cs) = sourceOf cs := by
  apply withoutBlockLines_eq_self
  intro before after hsource hstart
  rcases hline : blockLine? after with _ | ⟨tag, rest⟩
  · rfl
  · -- The block on the line is one of the row, for the row has no other opening.
    obtain ⟨blanks, inside, behind, rfl, hblanks, hinside, hend⟩ := exists_of_blockLine? hline
    rw [← List.append_assoc] at hsource
    obtain ⟨a, inside', b, rfl, hinside', ha, hb⟩ := exists_block_of_opening h hsource
    have hclosed := congrArg (splitAtClose? '%') hb
    rw [splitAtClose?_append hinside, splitAtClose?_append hinside'] at hclosed
    obtain ⟨-, rfl⟩ : inside = inside' ∧ behind = sourceOf b := by simpa using hclosed
    have hlone : standsAlone (before ++ blanks) (sourceOf b) = true :=
      standsAlone_append (hstart.imp_left And.left) hblanks hend
    rw [ha, ← List.nil_append (sourceOf a)] at hlone
    rw [hasBlockLine_iff.mpr ⟨a, inside', b, rfl, hlone⟩] at hlines
    contradiction

theorem chunksOf_sourceOf {cs : List Chunk} (h : Separated cs)
    (hlines : hasBlockLine [] cs = false) : chunksOf (sourceOf cs) = .ok cs := by
  rw [chunksOf, withoutBlockLines_sourceOf h hlines, chunks_sourceOf h]
  simp only [find?_isUnclosed h]

end DataMethods.Template
