import DataMethods.Proofs.TypeName.Faults

/-!
# Joined arguments

The row of a generic type joins its arguments by commas. A text can be one of them if it is not
white space, opens as many brackets as it closes, and has no comma behind a beginning of which the
same is true. The order of the brackets does not matter: a closing one may come first, and a comma
behind it is as good as one inside brackets. The rows that are taken apart are the joins of such
texts, and each of them into the texts that it joins. Any other row is refused as a whole.

## Key results

- `cutAtCommas_intercalate`: joined arguments are cut apart where they were joined
- `arguments_eq_error_iff`: which rows are refused, and with which fault
- `arguments_undoes_joining`: which rows are taken apart, and into what
-/

namespace DataMethods.TypeName

open Text

/-! ## Counting brackets -/

theorem totalNesting_eq_count (s : List Char) :
    totalNesting s = (s.count '<' : Int) - (s.count '>' : Int) := by
  induction s with
  | nil => rfl
  | cons c s ih =>
    rw [totalNesting_cons, nesting, ih, List.count_cons, List.count_cons]
    by_cases hopen : c = '<'
    · subst hopen
      simp
      omega
    · by_cases hclose : c = '>'
      · subst hclose
        simp
        omega
      · simp [hopen, hclose]

theorem totalNesting_eq_zero_iff {s : List Char} :
    totalNesting s = 0 ↔ s.count '<' = s.count '>' := by
  rw [totalNesting_eq_count]
  omega

/-! ## Arguments -/

/-- The text can be an argument in a row. -/
structure IsArgument (s : List Char) : Prop where
  not_blank : ¬AllBlank s
  /-- As many brackets are opened as closed. -/
  level : s.count '<' = s.count '>'
  /-- More are opened or more are closed in front of every comma. -/
  inside : ∀ before after, s = before ++ ',' :: after → before.count '<' ≠ before.count '>'

theorem whole_zero_iff {s : List Char} :
    Whole 0 s ↔
      ∀ before after, s = before ++ ',' :: after → before.count '<' ≠ before.count '>' := by
  refine forall_congr' fun before => forall_congr' fun after => imp_congr_right fun _ => ?_
  rw [Int.zero_add]
  exact not_congr totalNesting_eq_zero_iff

theorem isArgument_iff {s : List Char} :
    IsArgument s ↔ ¬AllBlank s ∧ totalNesting s = 0 ∧ Whole 0 s := by
  rw [totalNesting_eq_zero_iff, whole_zero_iff]
  exact ⟨fun h => ⟨h.not_blank, h.level, h.inside⟩, fun ⟨hblank, hlevel, hinside⟩ =>
    ⟨hblank, hlevel, hinside⟩⟩

instance (s : List Char) : Decidable (IsArgument s) :=
  decidable_of_iff (¬AllBlank s ∧ totalNesting s = 0 ∧ cutAtCommas 0 s = [s]) <| by
    rw [isArgument_iff, whole_iff]

namespace IsArgument

variable {s : List Char}

theorem cutAtCommas_append (h : IsArgument s) (rest : List Char) :
    cutAtCommas 0 (s ++ rest) = (cutAtCommas 0 rest).modifyHead (s ++ ·) := by
  obtain ⟨-, htotal, hwhole⟩ := isArgument_iff.mp h
  rw [hwhole.cutAtCommas_append, htotal, Int.add_zero]

theorem cutAtCommas_eq (h : IsArgument s) : cutAtCommas 0 s = [s] :=
  whole_iff.mp (isArgument_iff.mp h).2.2

end IsArgument

/-! ## Rows -/

/-- Joined arguments are cut apart where they were joined. -/
theorem cutAtCommas_intercalate {parts : List (List Char)} (hne : parts ≠ [])
    (h : ∀ p ∈ parts, IsArgument p) : cutAtCommas 0 ([','].intercalate parts) = parts := by
  induction parts with
  | nil => contradiction
  | cons part parts ih =>
    rw [List.forall_mem_cons] at h
    obtain ⟨hpart, hparts⟩ := h
    cases parts with
    | nil => rw [List.intercalate_singleton, hpart.cutAtCommas_eq]
    | cons next parts =>
      -- The cut passes over the first argument and stops at the comma behind it.
      have hrest := ih (List.cons_ne_nil next parts) hparts
      rw [List.intercalate_cons_cons, List.append_assoc, hpart.cutAtCommas_append,
        List.singleton_append, cutAtCommas_comma, hrest]
      simp

theorem totalNesting_intercalate {parts : List (List Char)} (h : ∀ p ∈ parts, IsArgument p) :
    totalNesting ([','].intercalate parts) = 0 := by
  induction parts with
  | nil => rfl
  | cons part parts ih =>
    rw [List.forall_mem_cons] at h
    obtain ⟨hpart, hparts⟩ := h
    have htotal : totalNesting part = 0 := totalNesting_eq_zero_iff.mpr hpart.level
    cases parts with
    | nil => rwa [List.intercalate_singleton]
    | cons next parts =>
      rw [List.intercalate_cons_cons, totalNesting_append, totalNesting_append, htotal, ih hparts]
      rfl

theorem nil_mem_partsOf_iff {row : List Char} : [] ∈ partsOf row ↔ HasBlankPart row := by
  simp only [partsOf, List.mem_map, trim_eq_nil_iff, hasBlankPart_iff]

/-- The parts of a row that is not refused are arguments. -/
theorem isArgument_of_mem_cutAtCommas {row part : List Char} (htotal : totalNesting row = 0)
    (hblank : [] ∉ partsOf row) (hpart : part ∈ cutAtCommas 0 row) : IsArgument part := by
  refine isArgument_iff.mpr ⟨?_, totalNesting_of_mem_cutAtCommas htotal hpart,
    whole_of_mem_cutAtCommas hpart⟩
  intro hall
  exact hblank (nil_mem_partsOf_iff.mpr (hasBlankPart_iff.mpr ⟨part, hpart, hall⟩))

/-- A row is refused if its brackets do not even out or a part of it is blank. -/
theorem arguments_eq_error_iff {row : List Char} {fault : MalformedType} :
    arguments row = .error fault ↔ fault = .arguments (String.ofList row) ∧
      (row.count '<' ≠ row.count '>' ∨ HasBlankPart row) := by
  have hbad : totalNesting row ≠ 0 ∨ [] ∈ partsOf row ↔
      row.count '<' ≠ row.count '>' ∨ HasBlankPart row :=
    or_congr (not_congr totalNesting_eq_zero_iff) nil_mem_partsOf_iff
  rw [arguments_eq_ite, ← hbad]
  split
  · next h =>
    rw [and_iff_left h, Except.error.injEq]
    exact eq_comm
  · next h => simp [h]

/-- A row is taken apart if, and only if, it joins arguments by commas, and then into these, without
the white space around them. Any other row is refused, which are those whose brackets do not even
out and those with a blank part. -/
theorem arguments_undoes_joining (row : List Char) :
    (∀ args, arguments row = .ok args ↔
      ∃ parts, parts ≠ [] ∧ (∀ p ∈ parts, IsArgument p) ∧ [','].intercalate parts = row ∧
        parts.map trim = args) ∧
    (∀ fault, arguments row = .error fault ↔ fault = .arguments (String.ofList row) ∧
      (row.count '<' ≠ row.count '>' ∨ HasBlankPart row)) := by
  refine ⟨fun args => ?_, fun fault => arguments_eq_error_iff⟩
  rw [arguments_eq_ok_iff]
  constructor
  · rintro ⟨htotal, hblank, rfl⟩
    have hparts : ∀ p ∈ cutAtCommas 0 row, IsArgument p :=
      fun p hp => isArgument_of_mem_cutAtCommas htotal hblank hp
    exact ⟨cutAtCommas 0 row, cutAtCommas_ne_nil 0 row, hparts, intercalate_cutAtCommas 0 row, rfl⟩
  · rintro ⟨parts, hne, hparts, rfl, rfl⟩
    have hcut : cutAtCommas 0 ([','].intercalate parts) = parts :=
      cutAtCommas_intercalate hne hparts
    refine ⟨totalNesting_intercalate hparts, ?_, by rw [partsOf, hcut]⟩
    rw [nil_mem_partsOf_iff, hasBlankPart_iff, hcut]
    rintro ⟨part, hpart, hblank⟩
    exact (hparts part hpart).not_blank hblank

/-- Commas behind a closing bracket and inside brackets end no part. One at the end does. -/
theorem arguments_undoes_joining_map :
    let parts := [" >,< ".toList, "Map<K, V>[]\n".toList]
    (∀ p ∈ parts, IsArgument p) ∧
      arguments " >,< ,Map<K, V>[]\n".toList = .ok [">,<".toList, "Map<K, V>[]".toList] ∧
      HasBlankPart "K, ".toList ∧
      arguments "K, ".toList = .error (.arguments "K, ") := by
  intro parts
  have hparts : ∀ p ∈ parts, IsArgument p := by decide
  have hblank : HasBlankPart "K, ".toList := hasBlankPart_iff.mpr ⟨[' '], by decide, by decide⟩
  refine ⟨hparts, ?_, hblank, ?_⟩
  · exact ((arguments_undoes_joining _).1 _).mpr ⟨parts, by decide, hparts, by decide, by decide⟩
  · exact ((arguments_undoes_joining _).2 _).mpr ⟨rfl, .inr hblank⟩

end DataMethods.TypeName
