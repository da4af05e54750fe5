import DataMethods.Proofs.Text.Trim
import DataMethods.TypeName

/-!
# Cutting at commas

The arguments of a generic type are cut apart at the commas outside brackets. `Uncut` says of a text
that the cut passes over it: its brackets balance, and no comma in it is outside brackets, provided
that enough brackets are open before it. Such texts can be put together like the types they are the
texts of, and a row of them is cut at the commas between them and nowhere else.

## Key results

- `Uncut.append`, `Uncut.brackets`: how texts that are not cut are put together
- `cutAtCommas_row`: a row is cut at the comma behind its first part
- `intercalate_cutAtCommas`, `totalNesting_of_mem_cutAtCommas`: what the parts of any text are
- `Parts.exists_after`, `Parts.exists_before`: where in the text its parts stand
- `Whole.cutAtCommas_append`, `whole_of_mem_cutAtCommas`: the cut passes over a text in which no
  comma is outside brackets, and the parts are such texts
- `Uncut.exists_part`: a text that is not cut lies within one of the parts
-/

namespace DataMethods.TypeName

open Text

theorem totalNesting_cons (c : Char) (s : List Char) :
    totalNesting (c :: s) = nesting c + totalNesting s := rfl

theorem totalNesting_append (a b : List Char) :
    totalNesting (a ++ b) = totalNesting a + totalNesting b := by
  induction a with
  | nil => simp [totalNesting]
  | cons c a ih =>
    rw [List.cons_append, totalNesting_cons, totalNesting_cons, ih]
    omega

/-- Outside brackets a comma ends a part. -/
theorem cutAtCommas_comma (s : List Char) : cutAtCommas 0 (',' :: s) = [] :: cutAtCommas 0 s := by
  rw [cutAtCommas, if_pos ⟨rfl, rfl⟩]

/-- Any other character is kept, and so is a comma inside brackets. -/
theorem cutAtCommas_cons {depth : Int} {c : Char} (s : List Char) (h : c ≠ ',' ∨ depth ≠ 0) :
    cutAtCommas depth (c :: s) = (cutAtCommas (depth + nesting c) s).modifyHead (c :: ·) := by
  have hnot : ¬(c = ',' ∧ depth = 0) := by
    rintro ⟨hc, hdepth⟩
    exact h.elim (absurd hc) (absurd hdepth)
  rw [cutAtCommas, if_neg hnot]

theorem cutAtCommas_ne_nil (depth : Int) (s : List Char) : cutAtCommas depth s ≠ [] := by
  induction s generalizing depth with
  | nil => simp [cutAtCommas]
  | cons c s ih =>
    rw [cutAtCommas]
    split
    · simp
    · simpa [List.modifyHead_eq_nil_iff] using ih _

/-- Is this a comma or a bracket? -/
def isSeparator (c : Char) : Bool :=
  c == ',' || c == '<' || c == '>'

/-- Where at least `least` brackets are open the text is not cut, and it leaves the nesting as it
    is. -/
structure Uncut (least : Int) (s : List Char) : Prop where
  total : totalNesting s = 0
  cut : ∀ depth, least ≤ depth → ∀ rest,
    cutAtCommas depth (s ++ rest) = (cutAtCommas depth rest).modifyHead (s ++ ·)

namespace Uncut

variable {least : Int} {s s' : List Char}

theorem mono {more : Int} (h : Uncut least s) (hle : least ≤ more) : Uncut more s :=
  ⟨h.total, fun depth hdepth => h.cut depth (Int.le_trans hle hdepth)⟩

theorem nil : Uncut least [] := by
  refine ⟨rfl, ?_⟩
  intro depth _ rest
  show cutAtCommas depth rest = (cutAtCommas depth rest).modifyHead fun part => part
  cases cutAtCommas depth rest <;> rfl

theorem append (h : Uncut least s) (h' : Uncut least s') : Uncut least (s ++ s') := by
  refine ⟨by rw [totalNesting_append, h.total, h'.total]; rfl, ?_⟩
  intro depth hdepth rest
  rw [List.append_assoc, h.cut depth hdepth, h'.cut depth hdepth, List.modifyHead_modifyHead]
  simp [Function.comp_def]

theorem singleton {c : Char} (h : isSeparator c = false) : Uncut least [c] := by
  obtain ⟨hcomma, hopen, hclose⟩ : c ≠ ',' ∧ c ≠ '<' ∧ c ≠ '>' := by
    simpa [isSeparator, and_assoc] using h
  have hnesting : nesting c = 0 := by rw [nesting, if_neg hopen, if_neg hclose]
  refine ⟨by rw [totalNesting_cons, hnesting]; rfl, ?_⟩
  intro depth _ rest
  rw [List.singleton_append, cutAtCommas_cons rest (.inl hcomma), hnesting, Int.add_zero]
  rfl

theorem of_any (h : s.any isSeparator = false) : Uncut least s := by
  induction s with
  | nil => exact nil
  | cons c s ih =>
    obtain ⟨hc, hs⟩ : isSeparator c = false ∧ s.any isSeparator = false := by
      rwa [List.any_cons, Bool.or_eq_false_iff] at h
    exact (singleton hc).append (ih hs)

theorem of_allBlank (h : AllBlank s) : Uncut least s := by
  refine .of_any (List.any_eq_false.mpr fun c hc hsep => ?_)
  have hblank := h c hc
  simp only [isSeparator, Bool.or_eq_true, beq_iff_eq] at hsep
  rcases hsep with (rfl | rfl) | rfl <;> contradiction

/-- Inside brackets a comma does not count. -/
theorem comma (h : 0 < least) : Uncut least [','] := by
  refine ⟨rfl, ?_⟩
  intro depth hdepth rest
  have hne : depth ≠ 0 := by omega
  have hnesting : nesting ',' = 0 := rfl
  rw [List.singleton_append, cutAtCommas_cons rest (.inr hne), hnesting, Int.add_zero]
  rfl

/-- A pair of brackets is one more that is open. -/
theorem brackets (h : Uncut (least + 1) s) : Uncut least ('<' :: s ++ ['>']) := by
  constructor
  · have hopen : nesting '<' = 1 := rfl
    have hclose : totalNesting ['>'] = -1 := rfl
    rw [List.cons_append, totalNesting_cons, totalNesting_append, h.total, hopen, hclose]
    rfl
  · intro depth hdepth rest
    have hinside : least + 1 ≤ depth + 1 := by omega
    have hback : depth + 1 + -1 = depth := by omega
    have hopen : cutAtCommas depth ('<' :: (s ++ '>' :: rest)) =
        (cutAtCommas (depth + 1) (s ++ '>' :: rest)).modifyHead ('<' :: ·) :=
      cutAtCommas_cons _ (.inl (by decide))
    have hclose : cutAtCommas (depth + 1) ('>' :: rest) =
        (cutAtCommas (depth + 1 + -1) rest).modifyHead ('>' :: ·) :=
      cutAtCommas_cons rest (.inl (by decide))
    -- The text between the brackets is passed over one level further in.
    have hsplit : '<' :: s ++ ['>'] ++ rest = '<' :: (s ++ '>' :: rest) := by simp
    rw [hsplit, hopen, h.cut (depth + 1) hinside, hclose, hback, List.modifyHead_modifyHead,
      List.modifyHead_modifyHead]
    simp [Function.comp_def]

/-! ## Cutting a row -/

/-- A single part is not cut. -/
theorem cutAtCommas_eq (h : Uncut 0 s) : cutAtCommas 0 s = [s] := by
  have hcut := h.cut 0 (Int.le_refl 0) []
  simpa [cutAtCommas] using hcut

/-- A row of parts is cut at the comma behind the first of them. -/
theorem cutAtCommas_row (h : Uncut 0 s) (row : List Char) :
    cutAtCommas 0 (s ++ ',' :: row) = s :: cutAtCommas 0 row := by
  rw [h.cut 0 (Int.le_refl 0), cutAtCommas_comma]
  simp

end Uncut

/-! ## The parts of a text -/

theorem exists_cutAtCommas (depth : Int) (s : List Char) :
    ∃ part parts, cutAtCommas depth s = part :: parts :=
  List.exists_cons_of_ne_nil (cutAtCommas_ne_nil depth s)

/-- The first part of a text and the others, where `depth` brackets are open before the text. -/
inductive Parts : Int → List Char → List Char → List (List Char) → Prop where
  | done (depth : Int) : Parts depth [] [] []
  | comma {s part : List Char} {parts : List (List Char)} :
      Parts 0 s part parts → Parts 0 (',' :: s) [] (part :: parts)
  | keep {depth : Int} {c : Char} {s part : List Char} {parts : List (List Char)} :
      c ≠ ',' ∨ depth ≠ 0 → Parts (depth + nesting c) s part parts →
      Parts depth (c :: s) (c :: part) parts

theorem Parts.of_cutAtCommas {depth : Int} {s part : List Char} {parts : List (List Char)}
    (hcut : cutAtCommas depth s = part :: parts) : Parts depth s part parts := by
  induction s generalizing depth part parts with
  | nil =>
    obtain ⟨rfl, rfl⟩ : [] = part ∧ [] = parts := by simpa [cutAtCommas] using hcut
    exact .done depth
  | cons c s ih =>
    by_cases hcomma : c = ',' ∧ depth = 0
    · obtain ⟨rfl, rfl⟩ := hcomma
      obtain ⟨next, others, hrest⟩ := exists_cutAtCommas 0 s
      rw [cutAtCommas_comma, hrest] at hcut
      obtain ⟨rfl, rfl⟩ := List.cons.inj hcut
      exact .comma (ih hrest)
    · have hkept : c ≠ ',' ∨ depth ≠ 0 := Decidable.not_and_iff_not_or_not.mp hcomma
      obtain ⟨first, others, hrest⟩ := exists_cutAtCommas (depth + nesting c) s
      rw [cutAtCommas_cons s hkept, hrest, List.modifyHead_cons] at hcut
      obtain ⟨rfl, rfl⟩ := List.cons.inj hcut
      exact .keep hkept (ih hrest)

theorem exists_parts (depth : Int) (s : List Char) :
    ∃ part parts, cutAtCommas depth s = part :: parts ∧ Parts depth s part parts := by
  obtain ⟨part, parts, hcut⟩ := exists_cutAtCommas depth s
  exact ⟨part, parts, hcut, .of_cutAtCommas hcut⟩

namespace Parts

variable {depth : Int} {s part : List Char} {parts : List (List Char)}

theorem intercalate_eq (h : Parts depth s part parts) : [','].intercalate (part :: parts) = s := by
  induction h with
  | done => exact List.intercalate_singleton
  | comma _ ih =>
    rw [List.intercalate_cons_cons, ih]
    rfl
  | @keep _ c _ _ parts _ _ ih =>
    -- A character that is kept belongs to the first part, which may be the only one.
    rw [← ih]
    cases parts with
    | nil => simp
    | cons next parts => simp [List.intercalate_cons_cons]

/-- If no bracket is open at the end of the text, none is at the end of any part. -/
theorem totalNesting_eq_zero (h : Parts depth s part parts) (hs : depth + totalNesting s = 0) :
    depth + totalNesting part = 0 ∧ ∀ p ∈ parts, totalNesting p = 0 := by
  induction h with
  | done => exact ⟨hs, by simp⟩
  | comma _ ih =>
    have hnesting : nesting ',' = 0 := rfl
    rw [totalNesting_cons] at hs
    obtain ⟨hnext, hothers⟩ := ih (by omega)
    exact ⟨rfl, List.forall_mem_cons.mpr ⟨by omega, hothers⟩⟩
  | keep _ _ ih =>
    rw [totalNesting_cons] at hs ⊢
    obtain ⟨hfirst, hothers⟩ := ih (by omega)
    exact ⟨by omega, hothers⟩

/-- The first part is the beginning of the text, up to a comma or to the end. -/
theorem exists_after (h : Parts depth s part parts) :
    ∃ after, s = part ++ after ∧ (after = [] ∨ ∃ a, after = ',' :: a) := by
  cases parts with
  | nil => exact ⟨[], by simpa [eq_comm] using h.intercalate_eq, .inl rfl⟩
  | cons next parts =>
    refine ⟨',' :: [','].intercalate (next :: parts), ?_, .inr ⟨_, rfl⟩⟩
    rw [← h.intercalate_eq, List.intercalate_cons_cons, List.append_assoc]
    rfl

/-- Every other part stands behind a comma outside brackets, up to a comma or to the end. -/
theorem exists_before (h : Parts depth s part parts) {p : List Char} (hp : p ∈ parts) :
    ∃ before after, s = before ++ ',' :: (p ++ after) ∧ depth + totalNesting before = 0 ∧
      (after = [] ∨ ∃ a, after = ',' :: a) := by
  induction h with
  | done => contradiction
  | comma h ih =>
    -- The first part behind this comma is the one that it stands in front of.
    rcases List.mem_cons.mp hp with rfl | hp
    · obtain ⟨after, rfl, hafter⟩ := h.exists_after
      exact ⟨[], after, rfl, rfl, hafter⟩
    · obtain ⟨before, after, rfl, hbefore, hafter⟩ := ih hp
      have hnesting : nesting ',' = 0 := rfl
      refine ⟨',' :: before, after, rfl, ?_, hafter⟩
      rw [totalNesting_cons]
      omega
  | @keep _ c _ _ _ _ _ ih =>
    obtain ⟨before, after, rfl, hbefore, hafter⟩ := ih hp
    refine ⟨c :: before, after, rfl, ?_, hafter⟩
    rw [totalNesting_cons]
    omega

end Parts

/-- Joining the parts by commas gives the text back. -/
theorem intercalate_cutAtCommas (depth : Int) (s : List Char) :
    [','].intercalate (cutAtCommas depth s) = s := by
  obtain ⟨part, parts, hcut, hparts⟩ := exists_parts depth s
  rw [hcut, hparts.intercalate_eq]

theorem totalNesting_of_mem_cutAtCommas {s part : List Char} (hs : totalNesting s = 0)
    (hpart : part ∈ cutAtCommas 0 s) : totalNesting part = 0 := by
  obtain ⟨first, others, hcut, hparts⟩ := exists_parts 0 s
  obtain ⟨hfirst, hothers⟩ := hparts.totalNesting_eq_zero (by omega)
  rw [hcut] at hpart
  exact List.forall_mem_cons.mpr ⟨by omega, hothers⟩ part hpart

/-! ## Commas that end no part -/

/-- No comma of the text ends a part where `depth` brackets are open before the text. -/
def Whole (depth : Int) (s : List Char) : Prop :=
  ∀ before after, s = before ++ ',' :: after → depth + totalNesting before ≠ 0

namespace Whole

variable {depth : Int} {c : Char} {s : List Char}

theorem nil : Whole depth [] := by
  intro before after hs
  simp at hs

theorem cons (hc : c ≠ ',' ∨ depth ≠ 0) (h : Whole (depth + nesting c) s) :
    Whole depth (c :: s) := by
  intro before after hs
  cases before with
  | nil =>
    obtain ⟨rfl, -⟩ := List.cons.inj hs
    have hzero : totalNesting [] = 0 := rfl
    rw [hzero, Int.add_zero]
    exact hc.resolve_left fun hne => hne rfl
  | cons b before =>
    obtain ⟨rfl, rfl⟩ := List.cons.inj hs
    rw [totalNesting_cons, ← Int.add_assoc]
    exact h before after rfl

theorem of_cons (h : Whole depth (c :: s)) :
    (c ≠ ',' ∨ depth ≠ 0) ∧ Whole (depth + nesting c) s := by
  constructor
  · refine Decidable.not_and_iff_not_or_not.mp ?_
    rintro ⟨rfl, rfl⟩
    exact h [] s rfl rfl
  · rintro before after rfl
    have hne := h (c :: before) after rfl
    rwa [totalNesting_cons, ← Int.add_assoc] at hne

/-- The cut passes over such a text. -/
theorem cutAtCommas_append (h : Whole depth s) (rest : List Char) :
    cutAtCommas depth (s ++ rest) =
      (cutAtCommas (depth + totalNesting s) rest).modifyHead (s ++ ·) := by
  induction s generalizing depth with
  | nil =>
    have hzero : depth + totalNesting [] = depth := Int.add_zero depth
    obtain ⟨part, parts, hcut⟩ := exists_cutAtCommas depth rest
    rw [hzero, List.nil_append, hcut]
    rfl
  | cons c s ih =>
    obtain ⟨hc, hs⟩ := h.of_cons
    rw [List.cons_append, cutAtCommas_cons _ hc, ih hs, List.modifyHead_modifyHead,
      totalNesting_cons, Int.add_assoc]
    rfl

end Whole

/-- Of all the parts of a text, none holds a comma that ends a part. -/
theorem Parts.whole {depth : Int} {s part : List Char} {parts : List (List Char)}
    (h : Parts depth s part parts) : Whole depth part ∧ ∀ p ∈ parts, Whole 0 p := by
  induction h with
  | done => exact ⟨.nil, by simp⟩
  | comma _ ih => exact ⟨.nil, List.forall_mem_cons.mpr ih⟩
  | keep hkept _ ih => exact ⟨.cons hkept ih.1, ih.2⟩

theorem whole_of_mem_cutAtCommas {s part : List Char} (hpart : part ∈ cutAtCommas 0 s) :
    Whole 0 part := by
  obtain ⟨first, others, hcut, hparts⟩ := exists_parts 0 s
  rw [hcut] at hpart
  exact List.forall_mem_cons.mpr hparts.whole part hpart

theorem whole_iff {s : List Char} : Whole 0 s ↔ cutAtCommas 0 s = [s] := by
  constructor
  · intro h
    have hcut := h.cutAtCommas_append []
    simpa [cutAtCommas] using hcut
  · intro h
    exact whole_of_mem_cutAtCommas (h ▸ List.mem_singleton_self s)

/-! ## Texts put together -/

/-- Behind a comma outside brackets the text is cut as if it were a text of its own. -/
theorem cutAtCommas_append_comma {depth : Int} {before : List Char}
    (h : depth + totalNesting before = 0) (rest : List Char) :
    cutAtCommas depth (before ++ ',' :: rest) = cutAtCommas depth before ++ cutAtCommas 0 rest := by
  induction before generalizing depth with
  | nil =>
    obtain rfl : depth = 0 := by simpa [totalNesting] using h
    exact cutAtCommas_comma rest
  | cons c before ih =>
    rw [totalNesting_cons] at h
    rw [List.cons_append, cutAtCommas, cutAtCommas]
    split
    · next hcomma =>
      obtain ⟨rfl, rfl⟩ := hcomma
      have hnesting : nesting ',' = 0 := rfl
      rw [ih (by omega)]
      rfl
    · obtain ⟨part, parts, hcut⟩ := exists_cutAtCommas (depth + nesting c) before
      rw [ih (by omega), hcut]
      rfl

/-- A text is not cut as long as brackets are open. -/
theorem cutAtCommas_append_of_open {depth : Int} {s : List Char}
    (h : ∀ p, p <+: s → 0 < depth + totalNesting p) (rest : List Char) :
    cutAtCommas depth (s ++ rest) =
      (cutAtCommas (depth + totalNesting s) rest).modifyHead (s ++ ·) := by
  refine Whole.cutAtCommas_append ?_ rest
  rintro before after rfl
  have hpos := h before (List.prefix_append before _)
  omega

/-- A text that is not cut lies within one of the parts. -/
theorem Uncut.exists_part {middle : List Char} (h : Uncut 0 middle) {depth : Int}
    {before : List Char} (hdepth : 0 ≤ depth + totalNesting before) (after : List Char) :
    ∃ part ∈ cutAtCommas depth (before ++ middle ++ after), middle <:+: part := by
  induction before generalizing depth with
  | nil =>
    have hopen : 0 ≤ depth := by simpa [totalNesting] using hdepth
    obtain ⟨part, parts, hcut⟩ := exists_cutAtCommas depth after
    rw [List.nil_append, h.cut depth hopen, hcut, List.modifyHead_cons]
    exact ⟨middle ++ part, List.mem_cons_self, (List.prefix_append middle part).isInfix⟩
  | cons c before ih =>
    rw [totalNesting_cons] at hdepth
    rw [List.cons_append, List.cons_append, cutAtCommas]
    split
    · next hcomma =>
      obtain ⟨rfl, rfl⟩ := hcomma
      have hnesting : nesting ',' = 0 := rfl
      have hbehind : 0 ≤ 0 + totalNesting before := by omega
      obtain ⟨part, hpart, hin⟩ := ih hbehind
      exact ⟨part, List.mem_cons_of_mem _ hpart, hin⟩
    · have hbehind : 0 ≤ depth + nesting c + totalNesting before := by omega
      obtain ⟨part, hpart, hin⟩ := ih hbehind
      obtain ⟨first, others, hcut⟩ :=
        exists_cutAtCommas (depth + nesting c) (before ++ middle ++ after)
      rw [hcut, List.mem_cons] at hpart
      rw [hcut, List.modifyHead_cons]
      rcases hpart with rfl | hpart
      · exact ⟨c :: part, List.mem_cons_self, hin.trans (List.suffix_cons c part).isInfix⟩
      · exact ⟨part, List.mem_cons_of_mem _ hpart, hin⟩

end DataMethods.TypeName
