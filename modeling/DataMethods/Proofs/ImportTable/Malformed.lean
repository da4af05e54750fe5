import DataMethods.Proofs.Rendering.Refused
import DataMethods.Proofs.TypeName.Faults

/-!
# Malformed types

Every import table refuses a type in which the brackets do not balance from the first opening one
on, or an argument is blank, whatever it has come to hold. A type without an opening bracket is
never refused, so that closing brackets in front of the first opening one are printed.

## Key results

- `refuses_malformed`: which types every table refuses
- `stray_bracket_printed`: a closing bracket that is printed
-/

namespace DataMethods

open DataMethods.TypeName

namespace ImportTable

/-- The table answers the request with a fault. -/
def Refuses (t : ImportTable) (type : String) : Prop :=
  ∃ fault, (t.request type).outcome = .error fault

theorem refuses_iff {t : ImportTable} {type : String} :
    t.Refuses type ↔ (read (Text.trim type.toList)).fault ≠ none := by
  have hfault : t.Refuses type ↔ ∃ fault, fault? type = some fault :=
    exists_congr fun _ => request_eq_error_iff
  rw [hfault, ← Option.ne_none_iff_exists']
  rfl

theorem refuses_of_not_wellBracketed {t : ImportTable} {type : String}
    (h : ¬WellBracketed type.toList) : t.Refuses type := by
  rw [refuses_iff]
  intro hfault
  exact h (wellBracketed_of_read hfault).of_trim

theorem refuses_bracketed_iff {t : ImportTable} {type : String} :
    t.Refuses (String.ofList (bracketed type.toList)) ↔ t.Refuses type := by
  rw [refuses_iff, refuses_iff, String.toList_ofList, trim_bracketed]
  exact not_congr (read_bracketed (Text.trimRight_trimRight _))

theorem not_refuses_of_not_mem {t : ImportTable} {type : String} (h : '<' ∉ type.toList) :
    ¬t.Refuses type := by
  rw [refuses_iff, Classical.not_not]
  exact fault?_of_not_mem h

/-- Every table refuses a type with a blank argument, and one whose brackets do not balance, unless
the only brackets at fault are closing ones in front of the first opening one. Text there makes no
difference to what is refused, and without an opening bracket nothing is. -/
theorem refuses_malformed (t : ImportTable) (type : String) :
    (HasBlankArgument type.toList → t.Refuses type) ∧
    (¬Balanced type.toList → t.Refuses type ∨
      Balanced (bracketed type.toList) ∧ '>' ∈ unbracketed type.toList) ∧
    (t.Refuses type ↔ t.Refuses (String.ofList (bracketed type.toList))) ∧
    ('<' ∉ type.toList → ¬t.Refuses type) := by
  refine ⟨?blank, ?unbalanced, refuses_bracketed_iff.symm, not_refuses_of_not_mem⟩
  case blank =>
    intro hblank
    exact refuses_of_not_wellBracketed fun hwell => hwell.no_blank hblank
  case unbalanced =>
    intro hunbalanced
    by_cases hbracketed : Balanced (bracketed type.toList)
    · have hclose : '>' ∈ unbracketed type.toList := by
        refine Decidable.byContradiction fun hnone => ?_
        exact hunbalanced (hbracketed.of_bracketed hnone)
      exact .inr ⟨hbracketed, hclose⟩
    · exact .inl (refuses_of_not_wellBracketed fun hwell => hbracketed hwell.balanced)

/-- A blank argument, brackets that are not closed, and a closing bracket alone. -/
theorem refuses_malformed_map :
    HasBlankArgument "java.util.Map<String,>".toList ∧
    (empty "org.example").Refuses "java.util.Map<String,>" ∧
    ¬Balanced "java.util.List<<A>".toList ∧
    (empty "org.example").Refuses "java.util.List<<A>" ∧
    '<' ∉ "java.util.List>".toList ∧ ¬(empty "org.example").Refuses "java.util.List>" := by
  have hblank : HasBlankArgument "java.util.Map<String,>".toList := by
    refine ⟨"String,".toList, ⟨"java.util.Map".toList, [], by decide⟩, by decide, ?_⟩
    exact ⟨"String,".toList, [], [], by decide, by decide,
      .inr ⟨"String".toList, by decide, by decide⟩, .inl rfl⟩
  have hopen : ¬Balanced "java.util.List<<A>".toList := by decide
  have hrefused := (refuses_malformed (empty "org.example") "java.util.List<<A>").2.1 hopen
  have hnone : '<' ∉ "java.util.List>".toList := by decide
  exact ⟨hblank, (refuses_malformed _ _).1 hblank, hopen, hrefused.resolve_right (by decide),
    hnone, (refuses_malformed _ _).2.2.2 hnone⟩

/-- A closing bracket that nothing opens is printed with the name. -/
theorem stray_bracket_printed :
    ¬Balanced "java.util.List>".toList ∧
      ((empty "org.example").request "java.util.List>").outcome = .ok "List>" := by
  have hread : read (Text.trim "java.util.List>".toList) = Reading.name "java.util.List>" :=
    read_of_splitGeneric?_none (by decide) (by decide) (by decide) (by decide)
  have hprinted : ((empty "org.example").printPieces [.name "java.util.List>"]).1 = "List>" := by
    decide +kernel
  refine ⟨by decide, ?_⟩
  rw [request, hread]
  exact congrArg Except.ok hprinted

end ImportTable

end DataMethods
