import DataMethods.Text.Blank

/-!
# Trimmed texts

What `trim` leaves begins and ends with characters that are not white space, and the text consists
of it and of white space around it. A text with solid ends is all that is left of it when white
space is put around it.

## Key results

- `trim_eq_dropWhile`: the end of a trimmed text has white space at its beginning at most
- `trim_append`: white space in front of a text with solid ends is all that `trim` removes
- `Solid.trim_between`: and so is white space on both sides
- `exists_eq_append_trim_append`: any text is what is left of it, between white space
-/

namespace DataMethods.Text

/-! ## Solid ends -/

theorem trimRight_trimRight (s : List Char) : trimRight (trimRight s) = trimRight s := by
  induction s with
  | nil => rfl
  | cons c cs ih =>
    rw [trimRight]
    -- If nothing is left behind the first character, it depends on that one.
    cases hcs : trimRight cs with
    | nil =>
      by_cases hc : isBlank c = true
      · simp [hc, trimRight]
      · simp [hc, trimRight]
    | cons d ds =>
      rw [hcs] at ih
      simp only
      rw [trimRight, ih]

/-- The end of a text with a solid end has a solid end. -/
theorem trimRight_of_append {a b : List Char} (h : trimRight (a ++ b) = a ++ b) :
    trimRight b = b := by
  induction a with
  | nil => exact h
  | cons c cs ih =>
    apply ih
    rw [List.cons_append, trimRight] at h
    cases hcs : trimRight (cs ++ b) with
    | nil =>
      -- Only the first character is left, so there was nothing after it.
      rw [hcs] at h
      by_cases hc : isBlank c = true
      · simp [hc] at h
      · have hnil : cs ++ b = [] := by simpa [hc, eq_comm] using h
        rw [hnil]
    | cons d ds =>
      rw [hcs] at h
      exact (List.cons.inj h).2

/-- A text whose end is not empty and solid has a solid end. -/
theorem trimRight_append {a b : List Char} (hb : trimRight b = b) (hne : b ≠ []) :
    trimRight (a ++ b) = a ++ b := by
  induction a with
  | nil => exact hb
  | cons c cs ih =>
    rw [List.cons_append, trimRight, ih]
    cases hcs : cs ++ b with
    | nil => exact absurd (List.append_eq_nil_iff.mp hcs).2 hne
    | cons d ds => rfl

theorem trimRight_of_forall {s : List Char} (h : ∀ c ∈ s, isBlank c = false) :
    trimRight s = s := by
  induction s with
  | nil => rfl
  | cons c cs ih =>
    rw [trimRight, ih fun d hd => h d (List.mem_cons_of_mem c hd)]
    cases cs with
    | nil => simp [h c List.mem_cons_self]
    | cons d ds => rfl

/-! ## White space in front -/

/-- What ends a trimmed text is trimmed by dropping the white space in front of it. -/
theorem trim_eq_dropWhile {s a b : List Char} (h : trim s = a ++ b) :
    trim b = b.dropWhile isBlank := by
  have hsolid : trimRight (a ++ b) = a ++ b := by
    rw [← h, trim, trimRight_trimRight]
  -- The text is solid at its end, and so is what remains when the white space is dropped.
  have hsplit : b.takeWhile isBlank ++ b.dropWhile isBlank = b := List.takeWhile_append_dropWhile
  have hb : trimRight (b.takeWhile isBlank ++ b.dropWhile isBlank) =
      b.takeWhile isBlank ++ b.dropWhile isBlank := by
    rw [hsplit]
    exact trimRight_of_append hsolid
  rw [trim, trimLeft]
  exact trimRight_of_append hb

theorem trim_append {blanks s : List Char} (hblanks : ∀ c ∈ blanks, isBlank c = true)
    (hleft : trimLeft s = s) (hright : trimRight s = s) : trim (blanks ++ s) = s := by
  have hdrop : trimLeft (blanks ++ s) = s := by
    rw [trimLeft, List.dropWhile_append_of_pos hblanks]
    exact hleft
  rw [trim, hdrop, hright]

theorem trimLeft_cons {c : Char} {s : List Char} (h : isBlank c = false) :
    trimLeft (c :: s) = c :: s := by
  rw [trimLeft, List.dropWhile_cons_of_neg (by simp [h])]

theorem isBlank_of_trimLeft_cons {c : Char} {s : List Char} (h : trimLeft (c :: s) = c :: s) :
    isBlank c = false := by
  rw [trimLeft, List.dropWhile_cons] at h
  split at h
  · -- What is left of the rest cannot be longer than the rest.
    have hlength := (List.dropWhile_sublist isBlank (l := s)).length_le
    rw [h, List.length_cons] at hlength
    omega
  · next hnot => simpa using hnot

/-- The beginning of a text with a solid beginning has a solid beginning. -/
theorem trimLeft_of_append {a b : List Char} (h : trimLeft (a ++ b) = a ++ b) :
    trimLeft a = a := by
  cases a with
  | nil => rfl
  | cons c a => exact trimLeft_cons (isBlank_of_trimLeft_cons h)

/-! ## White space on both sides -/

/-- The text is white space. -/
def AllBlank (s : List Char) : Prop :=
  ∀ c ∈ s, isBlank c = true

instance (s : List Char) : Decidable (AllBlank s) :=
  decidable_of_iff (s.all isBlank = true) List.all_eq_true

/-- The text is not empty, and neither end of it is white space. -/
structure Solid (s : List Char) : Prop where
  ne_nil : s ≠ []
  left : trimLeft s = s
  right : trimRight s = s

instance (s : List Char) : Decidable (Solid s) :=
  decidable_of_iff (s ≠ [] ∧ trimLeft s = s ∧ trimRight s = s)
    ⟨fun ⟨hne, hleft, hright⟩ => ⟨hne, hleft, hright⟩, fun h => ⟨h.ne_nil, h.left, h.right⟩⟩

theorem AllBlank.append {a b : List Char} (ha : AllBlank a) (hb : AllBlank b) : AllBlank (a ++ b) :=
  List.forall_mem_append.mpr ⟨ha, hb⟩

theorem trimRight_of_allBlank {s : List Char} (h : AllBlank s) : trimRight s = [] := by
  induction s with
  | nil => rfl
  | cons c s ih =>
    have hc : isBlank c = true := h c List.mem_cons_self
    have hs : AllBlank s := fun d hd => h d (List.mem_cons_of_mem c hd)
    rw [trimRight, ih hs]
    simp [hc]

/-- White space at the end is dropped. -/
theorem trimRight_append_allBlank {s blanks : List Char} (h : AllBlank blanks) :
    trimRight (s ++ blanks) = trimRight s := by
  induction s with
  | nil => exact trimRight_of_allBlank h
  | cons c s ih => rw [List.cons_append, trimRight, ih, trimRight]

theorem trim_of_allBlank {s : List Char} (h : AllBlank s) : trim s = [] := by
  have hleft : trimLeft (s ++ []) = [] := List.dropWhile_append_of_pos h
  rw [List.append_nil] at hleft
  rw [trim, hleft]
  rfl

/-- A text is what is left of it, and white space behind that. -/
theorem exists_eq_trimRight_append (s : List Char) :
    ∃ after, AllBlank after ∧ s = trimRight s ++ after := by
  induction s with
  | nil => exact ⟨[], by simp [AllBlank], rfl⟩
  | cons c s ih =>
    obtain ⟨after, hafter, hs⟩ := ih
    rw [trimRight]
    cases hcs : trimRight s with
    | nil =>
      rw [hcs, List.nil_append] at hs
      by_cases hc : isBlank c = true
      · refine ⟨c :: s, ?_, by simp [hc]⟩
        simpa [AllBlank, hc, hs] using hafter
      · exact ⟨s, hs ▸ hafter, by simp [hc]⟩
    | cons d ds =>
      rw [hcs] at hs
      exact ⟨after, hafter, congrArg (c :: ·) hs⟩

/-- A text is what is left of it, between white space. -/
theorem exists_eq_append_trim_append (s : List Char) :
    ∃ before after, AllBlank before ∧ AllBlank after ∧ s = before ++ trim s ++ after := by
  obtain ⟨after, hafter, hleft⟩ := exists_eq_trimRight_append (trimLeft s)
  have hbefore : AllBlank (s.takeWhile isBlank) := List.all_eq_true.mp List.all_takeWhile
  refine ⟨s.takeWhile isBlank, after, hbefore, hafter, ?_⟩
  have hsplit : s.takeWhile isBlank ++ trimLeft s = s := List.takeWhile_append_dropWhile
  rw [List.append_assoc, trim, ← hleft, hsplit]

/-- Of white space, and of nothing else, nothing is left. -/
theorem trim_eq_nil_iff {s : List Char} : trim s = [] ↔ AllBlank s := by
  constructor
  · intro h
    obtain ⟨before, after, hbefore, hafter, hs⟩ := exists_eq_append_trim_append s
    rw [hs, h, List.append_nil]
    exact hbefore.append hafter
  · exact trim_of_allBlank

/-- Trimming the end uncovers no white space at the beginning. -/
theorem trimLeft_trimRight {s : List Char} (h : trimLeft s = s) :
    trimLeft (trimRight s) = trimRight s := by
  obtain ⟨after, -, hs⟩ := exists_eq_trimRight_append s
  cases hright : trimRight s with
  | nil => rfl
  | cons c r =>
    rw [hs, hright] at h
    exact trimLeft_cons (isBlank_of_trimLeft_cons h)

theorem trimLeft_trimLeft (s : List Char) : trimLeft (trimLeft s) = trimLeft s := by
  induction s with
  | nil => rfl
  | cons c s ih =>
    cases hc : isBlank c with
    | true =>
      have hdrop : trimLeft (c :: s) = trimLeft s := List.dropWhile_cons_of_pos hc
      rw [hdrop, ih]
    | false => rw [trimLeft_cons hc, trimLeft_cons hc]

theorem trim_trim (s : List Char) : trim (trim s) = trim s := by
  rw [trim, trim, trimLeft_trimRight (trimLeft_trimLeft s), trimRight_trimRight]

theorem trimLeft_of_trim {s : List Char} (h : trim s = s) : trimLeft s = s := by
  rw [← h]
  exact trimLeft_trimRight (trimLeft_trimLeft s)

namespace Solid

/-- A text without any white space is solid. -/
theorem of_forall {s : List Char} (hne : s ≠ []) (h : ∀ c ∈ s, isBlank c = false) : Solid s := by
  obtain ⟨c, s, rfl⟩ := List.exists_cons_of_ne_nil hne
  exact ⟨hne, trimLeft_cons (h c List.mem_cons_self), trimRight_of_forall h⟩

theorem exists_cons {s : List Char} (h : Solid s) : ∃ c r, s = c :: r ∧ isBlank c = false := by
  obtain ⟨c, r, rfl⟩ := List.exists_cons_of_ne_nil h.ne_nil
  exact ⟨c, r, rfl, isBlank_of_trimLeft_cons h.left⟩

/-- What follows a solid text does not change its beginning. -/
theorem trimLeft_append {s : List Char} (h : Solid s) (after : List Char) :
    trimLeft (s ++ after) = s ++ after := by
  obtain ⟨c, r, rfl, hc⟩ := h.exists_cons
  exact trimLeft_cons hc

/-- What stands between two solid texts makes no difference. -/
theorem append {a b : List Char} (ha : Solid a) (middle : List Char) (hb : Solid b) :
    Solid (a ++ middle ++ b) := by
  refine ⟨?_, ?_, Text.trimRight_append hb.right hb.ne_nil⟩
  · simp [ha.ne_nil]
  · rw [List.append_assoc]
    exact ha.trimLeft_append _

theorem trimRight_append {s blanks : List Char} (hs : Solid s) (h : AllBlank blanks) :
    trimRight (s ++ blanks) = s :=
  (trimRight_append_allBlank h).trans hs.right

/-- Of white space around a solid text, the text is left. -/
theorem trim_between {before s after : List Char} (hs : Solid s) (hbefore : AllBlank before)
    (hafter : AllBlank after) : trim (before ++ s ++ after) = s := by
  have hleft : trimLeft (before ++ (s ++ after)) = s ++ after := by
    rw [trimLeft, List.dropWhile_append_of_pos hbefore]
    exact hs.trimLeft_append after
  rw [List.append_assoc, trim, hleft]
  exact hs.trimRight_append hafter

end Solid

end DataMethods.Text
