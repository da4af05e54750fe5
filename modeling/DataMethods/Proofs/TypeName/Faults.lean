import DataMethods.Proofs.TypeName.Balanced
import DataMethods.Proofs.TypeName.Expression

/-!
# Faults

Which texts are read to their end. Such a text is well bracketed: every opening bracket is closed,
behind the first of them no bracket is closed that is not open, and no argument is blank. What
stands in front of the first opening bracket has no part in this: closing brackets there are read as
characters of a name.

## Key results

- `read_induction`: induction on how a text is taken apart
- `wellBracketed_of_read`: what is read to its end is well bracketed
- `read_bracketed`: whether a text is read to its end depends on its part in brackets
-/

namespace DataMethods.TypeName

open Text

/-! ## Recognised forms -/

/-- Only the two kinds of bounds are recognised. -/
theorem of_stripWildcard? {s rest : List Char} {lead : String}
    (h : stripWildcard? s = some (lead, rest)) :
    ∃ b : Bound, lead = b.lead ∧ s = b.lead.toList ++ rest := by
  obtain ⟨word, hword, h⟩ := List.exists_of_findSome?_eq_some h
  obtain ⟨r, hr, h⟩ := Option.map_eq_some_iff.mp h
  cases h
  have hsplit := stripStart?_eq_some_iff.mp hr
  simp only [wildcards, List.mem_cons, List.not_mem_nil, or_false] at hword
  rcases hword with rfl | rfl
  · exact ⟨.upper, rfl, hsplit⟩
  · exact ⟨.lower, rfl, hsplit⟩

/-- Only the two kinds of dimensions are recognised. -/
theorem of_stripDimension? {s rest : List Char} {tail : String}
    (h : stripDimension? s = some (tail, rest)) :
    ∃ d : Dimension, tail = d.text ∧ s = rest ++ d.text.toList := by
  obtain ⟨mark, hmark, h⟩ := List.exists_of_findSome?_eq_some h
  obtain ⟨r, hr, h⟩ := Option.map_eq_some_iff.mp h
  cases h
  have hsplit := stripEnd?_eq_some_iff.mp hr
  simp only [dimensions, List.mem_cons, List.not_mem_nil, or_false] at hmark
  rcases hmark with rfl | rfl
  · exact ⟨.array, rfl, hsplit⟩
  · exact ⟨.variableLength, rfl, hsplit⟩

theorem of_splitGeneric? {s head rest : List Char} (h : splitGeneric? s = some (head, rest)) :
    '<' ∉ head ∧ s = head ++ '<' :: rest := by
  by_cases hs : '<' ∈ s
  · obtain ⟨a, b, rfl, ha⟩ := List.eq_append_cons_of_mem hs
    rw [splitGeneric?_append ha] at h
    cases h
    exact ⟨ha, rfl⟩
  · rw [splitGeneric?_of_not_mem hs] at h
    cases h

theorem not_mem_of_splitGeneric? {s : List Char} (h : splitGeneric? s = none) : '<' ∉ s := by
  intro hs
  obtain ⟨a, b, rfl, ha⟩ := List.eq_append_cons_of_mem hs
  rw [splitGeneric?_append ha] at h
  cases h

/-- The text is no wildcard, neither the bare one nor one with a bound. -/
structure NoWildcard (s : List Char) : Prop where
  not_bounded : stripWildcard? s = none
  ne_mark : s ≠ ['?']

/-- The text is no wildcard and does not end in a dimension. -/
structure NoMark (s : List Char) : Prop extends NoWildcard s where
  no_dimension : stripDimension? s = none

/-- Induction on how a text is taken apart, with one case for each form. -/
theorem read_induction {motive : List Char → Prop}
    (bounded : ∀ (b : Bound) rest, motive (trim rest) → motive (b.lead.toList ++ rest))
    (wildcard : motive ['?'])
    (dimension : ∀ rest (d : Dimension), NoWildcard (rest ++ d.text.toList) →
      motive (trimRight rest) → motive (rest ++ d.text.toList))
    (raw : ∀ s, NoMark s → '<' ∉ s → motive s)
    (unclosed : ∀ head rest, NoMark (head ++ '<' :: rest) → '<' ∉ head →
      stripEnd? ['>'] rest = none → motive (head ++ '<' :: rest))
    (generic : ∀ head row, NoMark (head ++ '<' :: (row ++ ['>'])) → '<' ∉ head →
      motive (trim head) → (∀ args, arguments row = .ok args → ∀ a ∈ args, motive a) →
      motive (head ++ '<' :: (row ++ ['>'])))
    (s : List Char) : motive s := by
  induction s using read.induct with
  | case1 s lead rest hw _ _ ih =>
    obtain ⟨b, rfl, rfl⟩ := of_stripWildcard? hw
    exact bounded b rest ih
  | case2 => exact wildcard
  | case3 s hw hq tail rest hd _ _ ih =>
    obtain ⟨d, rfl, rfl⟩ := of_stripDimension? hd
    exact dimension rest d ⟨hw, hq⟩ ih
  | case4 s hw hq hd hg => exact raw s ⟨⟨hw, hq⟩, hd⟩ (not_mem_of_splitGeneric? hg)
  | case5 s hw hq hd head rest hg _ hc =>
    obtain ⟨hhead, rfl⟩ := of_splitGeneric? hg
    exact unclosed head rest ⟨⟨hw, hq⟩, hd⟩ hhead hc
  | case6 s hw hq hd head rest hg _ row hc _ _ ihHead ih =>
    obtain ⟨hhead, rfl⟩ := of_splitGeneric? hg
    obtain rfl := stripEnd?_eq_some_iff.mp hc
    exact generic head row ⟨⟨hw, hq⟩, hd⟩ hhead ihHead ih

/-! ### One equation for each form -/

theorem read_lead (b : Bound) (rest : List Char) :
    read (b.lead.toList ++ rest) = (Reading.mark b.lead).andThen (read (trim rest)) :=
  read_of_stripWildcard? (stripWildcard?_lead b rest)

theorem NoWildcard.read_dimension {rest : List Char} {d : Dimension}
    (h : NoWildcard (rest ++ d.text.toList)) :
    read (rest ++ d.text.toList) = (read (trimRight rest)).andThen (Reading.mark d.text) :=
  read_of_stripDimension? h.not_bounded h.ne_mark (stripDimension?_text d rest)

theorem NoMark.read_raw {s : List Char} (h : NoMark s) (hopen : '<' ∉ s) :
    read s = Reading.name (String.ofList s) :=
  read_of_splitGeneric?_none h.not_bounded h.ne_mark h.no_dimension
    (splitGeneric?_of_not_mem hopen)

theorem NoMark.read_unclosed {head rest : List Char} (h : NoMark (head ++ '<' :: rest))
    (hhead : '<' ∉ head) (hc : stripEnd? ['>'] rest = none) :
    read (head ++ '<' :: rest) =
      Reading.stop (.unclosed (String.ofList (head ++ '<' :: rest))) :=
  read_of_unclosed h.not_bounded h.ne_mark h.no_dimension (splitGeneric?_append hhead rest) hc

theorem NoMark.read_generic {head row : List Char} (h : NoMark (head ++ '<' :: (row ++ ['>'])))
    (hhead : '<' ∉ head) :
    read (head ++ '<' :: (row ++ ['>'])) =
      (read (trim head)).andThen ((Reading.mark "<").andThen (readArguments row)) := by
  have hclose : stripEnd? ['>'] (row ++ ['>']) = some row := stripEnd?_eq_some_iff.mpr rfl
  exact read_of_splitGeneric? h.not_bounded h.ne_mark h.no_dimension
    (splitGeneric?_append hhead _) hclose

theorem Bound.not_mem_lead (b : Bound) : '<' ∉ b.lead.toList := by
  cases b <;> decide

theorem Dimension.bracketless (d : Dimension) : Bracketless d.text.toList := by
  cases d <;> constructor <;> decide

/-! ## Faults -/

namespace Reading

@[simp] theorem andThen_fault_eq_none_iff {a b : Reading} :
    (a.andThen b).fault = none ↔ a.fault = none ∧ b.fault = none := by
  rw [andThen]
  cases ha : a.fault <;> simp [ha]

@[simp] theorem mark_fault (text : String) : (mark text).fault = none := rfl

@[simp] theorem stop_fault (fault : MalformedType) : (stop fault).fault = some fault := rfl

theorem separatedBy_fault_eq_none_iff {text : String} {rs : List Reading} :
    (separatedBy text rs).fault = none ↔ ∀ r ∈ rs, r.fault = none := by
  induction rs with
  | nil => simp [separatedBy, empty]
  | cons r rs ih =>
    cases rs with
    | nil => simp [separatedBy]
    | cons next rs =>
      rw [separatedBy_cons text r (List.cons_ne_nil next rs)]
      simp [ih]

end Reading

theorem arguments_eq_ite (row : List Char) :
    arguments row =
      if totalNesting row ≠ 0 ∨ [] ∈ partsOf row then .error (.arguments (String.ofList row))
      else .ok (partsOf row) := rfl

/-- The brackets of a row have to close, and no part of it may be blank. -/
theorem arguments_eq_ok_iff {row : List Char} {args : List (List Char)} :
    arguments row = .ok args ↔ totalNesting row = 0 ∧ [] ∉ partsOf row ∧ args = partsOf row := by
  rw [arguments_eq_ite]
  by_cases hbad : totalNesting row ≠ 0 ∨ [] ∈ partsOf row
  · rw [if_pos hbad]
    constructor
    · intro h
      cases h
    · rintro ⟨htotal, hsolid, -⟩
      exact absurd hbad (by simp [htotal, hsolid])
  · obtain ⟨htotal, hsolid⟩ : totalNesting row = 0 ∧ [] ∉ partsOf row := by simpa using hbad
    rw [if_neg hbad]
    simp [htotal, hsolid, eq_comm]

/-- A row in brackets is read to its end if all parts of it are. -/
theorem readArguments_fault_eq_none_iff {row : List Char} :
    (readArguments row).fault = none ↔
      ∃ args, arguments row = .ok args ∧ ∀ a ∈ args, (read a).fault = none := by
  rw [readArguments]
  cases harguments : arguments row with
  | error fault => simp
  | ok args => simp [Reading.separatedBy_fault_eq_none_iff]

/-! ### One equivalence for each form -/

theorem read_bounded_fault_iff (b : Bound) (rest : List Char) :
    (read (b.lead.toList ++ rest)).fault = none ↔ (read (trim rest)).fault = none := by
  rw [read_lead]
  simp

theorem read_dimension_fault_iff {rest : List Char} {d : Dimension}
    (h : NoWildcard (rest ++ d.text.toList)) :
    (read (rest ++ d.text.toList)).fault = none ↔ (read (trimRight rest)).fault = none := by
  rw [h.read_dimension]
  simp

theorem read_unclosed_fault_ne_none {head rest : List Char} (h : NoMark (head ++ '<' :: rest))
    (hhead : '<' ∉ head) (hc : stripEnd? ['>'] rest = none) :
    (read (head ++ '<' :: rest)).fault ≠ none := by
  rw [h.read_unclosed hhead hc]
  simp

theorem not_mem_trim {c : Char} {s : List Char} (h : c ∉ s) : c ∉ trim s := by
  obtain ⟨before, after, -, -, hs⟩ := exists_eq_append_trim_append s
  exact fun hmem => h (by rw [hs]; simp [hmem])

/-- A text that opens no bracket is read to its end. -/
theorem read_fault_of_not_mem {s : List Char} (h : '<' ∉ s) : (read s).fault = none := by
  induction s using read_induction with
  | bounded b rest ih =>
    rw [read_bounded_fault_iff]
    exact ih (not_mem_trim fun hmem => h (List.mem_append_right _ hmem))
  | wildcard => rw [read_wildcard]; rfl
  | dimension rest d hw ih =>
    obtain ⟨after, -, hrest⟩ := exists_eq_trimRight_append rest
    have htrim : '<' ∉ trimRight rest := fun hmem => h (by rw [hrest]; simp [hmem])
    exact (read_dimension_fault_iff hw).mpr (ih htrim)
  | raw s hs hopen =>
    rw [hs.read_raw hopen]
    rfl
  | unclosed head rest => exact absurd (by simp) h
  | generic head row => exact absurd (by simp) h

/-- The name of a generic type is read to its end, so that it depends on the row. -/
theorem read_generic_fault_iff {head row : List Char} (h : NoMark (head ++ '<' :: (row ++ ['>'])))
    (hhead : '<' ∉ head) :
    (read (head ++ '<' :: (row ++ ['>']))).fault = none ↔ (readArguments row).fault = none := by
  rw [h.read_generic hhead]
  simp [read_fault_of_not_mem (not_mem_trim hhead)]

/-! ## What is read to its end -/

/-- White space around a text adds no brackets. -/
theorem WellBracketed.of_trim {s : List Char} (h : WellBracketed (trim s)) : WellBracketed s := by
  obtain ⟨before, after, hbefore, hafter, hs⟩ := exists_eq_append_trim_append s
  rw [hs]
  exact h.between (Bracketless.of_allBlank hbefore).not_open (.of_allBlank hafter)

/-- A generic type is well bracketed if the arguments that are read are. -/
theorem WellBracketed.of_arguments {head row : List Char} {args : List (List Char)}
    (hhead : '<' ∉ head) (hargs : arguments row = .ok args) (h : ∀ a ∈ args, WellBracketed a) :
    WellBracketed (head ++ '<' :: (row ++ ['>'])) := by
  obtain ⟨htotal, hsolid, rfl⟩ := arguments_eq_ok_iff.mp hargs
  refine generic hhead htotal ?_ ?_
  · intro part hpart
    exact (h _ (List.mem_map_of_mem hpart)).of_trim
  · intro part hpart hblank
    have hmem : trim part ∈ partsOf row := List.mem_map_of_mem hpart
    rw [trim_of_allBlank hblank] at hmem
    exact hsolid hmem

theorem wellBracketed_of_read {s : List Char} (h : (read s).fault = none) : WellBracketed s := by
  -- Only the last form closes brackets that it has opened. The others add text without brackets.
  induction s using read_induction with
  | bounded b rest ih =>
    have hrest : WellBracketed rest := (ih ((read_bounded_fault_iff b rest).mp h)).of_trim
    have hwhole := hrest.between b.not_mem_lead ⟨List.not_mem_nil, List.not_mem_nil⟩
    rwa [List.append_nil] at hwhole
  | wildcard => exact .of_not_mem (by decide)
  | dimension rest d hw ih =>
    obtain ⟨after, hafter, hrest⟩ := exists_eq_trimRight_append rest
    have hleft : WellBracketed (trimRight rest) := ih ((read_dimension_fault_iff hw).mp h)
    have hwhole := hleft.between List.not_mem_nil
      ((Bracketless.of_allBlank hafter).append d.bracketless)
    rwa [List.nil_append, ← List.append_assoc, ← hrest] at hwhole
  | raw s _ hopen => exact .of_not_mem hopen
  | unclosed head rest hs hhead hc => exact absurd h (read_unclosed_fault_ne_none hs hhead hc)
  | generic head row hs hhead _ ih =>
    rw [read_generic_fault_iff hs hhead, readArguments_fault_eq_none_iff] at h
    obtain ⟨args, hargs, hread⟩ := h
    exact .of_arguments hhead hargs fun a ha => ih args hargs a ha (hread a ha)

/-! ## The part in brackets -/

theorem trimRight_bracketed {s : List Char} (hs : trimRight s = s) :
    trimRight (bracketed s) = bracketed s := by
  rw [← unbracketed_append_bracketed s] at hs
  exact trimRight_of_append hs

theorem bracketed_trimRight (s : List Char) :
    bracketed (trimRight s) = trimRight (bracketed s) := by
  obtain ⟨after, hafter, hs⟩ := exists_eq_trimRight_append s
  by_cases hopen : '<' ∈ trimRight s
  · have hbracketed : bracketed s = bracketed (trimRight s) ++ after := by
      rw [← bracketed_append_of_mem hopen, ← hs]
    rw [hbracketed, trimRight_append_allBlank hafter, trimRight_bracketed (trimRight_trimRight s)]
  · have hnone : '<' ∉ s := by
      rw [hs]
      simp [hopen, (Bracketless.of_allBlank hafter).not_open]
    rw [bracketed_of_not_mem hopen, bracketed_of_not_mem hnone]
    rfl

theorem bracketed_trimLeft (s : List Char) : bracketed (trimLeft s) = bracketed s := by
  have hblanks : AllBlank (s.takeWhile isBlank) := List.all_eq_true.mp List.all_takeWhile
  have hsplit : s.takeWhile isBlank ++ trimLeft s = s := List.takeWhile_append_dropWhile
  have hdrop := bracketed_append (Bracketless.of_allBlank hblanks).not_open (trimLeft s)
  rw [hsplit] at hdrop
  exact hdrop.symm

/-- The part in brackets begins with a bracket, or is empty. -/
theorem trimLeft_bracketed (s : List Char) : trimLeft (bracketed s) = bracketed s := by
  by_cases hopen : '<' ∈ s
  · obtain ⟨r, hr⟩ := exists_bracketed_eq_cons hopen
    rw [hr]
    exact trimLeft_cons rfl
  · rw [bracketed_of_not_mem hopen]
    rfl

theorem trim_bracketed (s : List Char) : trim (bracketed s) = bracketed (trim s) := by
  rw [trim, trimLeft_bracketed, trim, bracketed_trimRight, bracketed_trimLeft]

theorem read_bracketed_of_not_mem {s : List Char} (h : '<' ∉ s) :
    (read (bracketed s)).fault = none ↔ (read s).fault = none := by
  rw [bracketed_of_not_mem h]
  simp [read_fault_of_not_mem h, read_fault_of_not_mem (List.not_mem_nil (a := '<'))]

theorem noWildcard_open (r : List Char) : NoWildcard ('<' :: r) :=
  ⟨stripWildcard?_cons (by decide), by simp⟩

/-- If the whole text has no dimension, neither has the part in brackets. -/
theorem NoMark.of_append {head r : List Char} (h : NoMark (head ++ '<' :: r)) :
    NoMark ('<' :: r) := by
  refine ⟨noWildcard_open r, ?_⟩
  cases hd : stripDimension? ('<' :: r) with
  | none => rfl
  | some found =>
    obtain ⟨d, -, hsplit⟩ := of_stripDimension? hd
    have hwhole := h.no_dimension
    rw [hsplit, ← List.append_assoc, stripDimension?_text] at hwhole
    cases hwhole

/-- Whether a trimmed text is read to its end depends on its part in brackets. -/
theorem read_bracketed {s : List Char} (hs : trimRight s = s) :
    (read (bracketed s)).fault = none ↔ (read s).fault = none := by
  induction s using read_induction with
  | bounded b rest ih =>
    have hrest : bracketed (trim rest) = bracketed rest := by
      rw [← trim_bracketed, trim, trimLeft_bracketed, trimRight_bracketed (trimRight_of_append hs)]
    rw [bracketed_append b.not_mem_lead, ← hrest, read_bounded_fault_iff]
    exact ih (trimRight_trimRight (trimLeft rest))
  | wildcard => exact read_bracketed_of_not_mem (by decide)
  | dimension rest d hw ih =>
    by_cases hopen : '<' ∈ rest
    · have hd : NoWildcard (bracketed rest ++ d.text.toList) := by
        obtain ⟨r, hr⟩ := exists_bracketed_eq_cons hopen
        rw [hr]
        exact noWildcard_open _
      rw [bracketed_append_of_mem hopen, read_dimension_fault_iff hd, ← bracketed_trimRight,
        read_dimension_fault_iff hw]
      exact ih (trimRight_trimRight rest)
    · refine read_bracketed_of_not_mem ?_
      simp [hopen, d.bracketless.not_open]
  | raw s _ hopen => exact read_bracketed_of_not_mem hopen
  | unclosed head rest hm hhead hc =>
    have hwhole := read_unclosed_fault_ne_none hm hhead hc
    have hpart : (read ([] ++ '<' :: rest)).fault ≠ none :=
      read_unclosed_fault_ne_none hm.of_append List.not_mem_nil hc
    rw [bracketed_append hhead]
    exact iff_of_false hpart hwhole
  | generic head row hm hhead _ _ =>
    have hpart : (read ([] ++ '<' :: (row ++ ['>']))).fault = none ↔
        (readArguments row).fault = none :=
      read_generic_fault_iff hm.of_append List.not_mem_nil
    rw [bracketed_append hhead, read_generic_fault_iff hm hhead]
    exact hpart

end DataMethods.TypeName
