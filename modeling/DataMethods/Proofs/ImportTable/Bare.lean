import DataMethods.Proofs.ImportTable.Claimants
import DataMethods.Proofs.Method.Code

/-!
# Names without a package

Some types are written by their simple names although they never claimed them: a name without a dot
is printed as it is, and every method writes a few types of the implicit package without asking for
them. Such a bare name means a type that is visible without an import. The table does not know of
it, so the simple name stays free for the first type with a package that asks for it, and an import
of that type gives the bare name another meaning.

## Key results

- `exists_import_iff`: a simple name is imported if its first claimant is from a package that needs
  an import
- `bare_names_uncaptured_iff`: the units in which no import takes the name of a bare type
-/

namespace DataMethods.ImportTable

open QualifiedName

/-- The text of a unit uses a name bare: as a component of a type that was asked for and printed, or
    as a type that a written method does not ask for. -/
inductive UsedBare (package : String) (steps : List Step) (name : String) : Prop
  | asked (dotless : '.' ∉ name.toList) (printed : Printed (.empty package) steps name name)
  | written {earlier later : List Step} {settings : Settings} {m : MethodSpec} {text : String}
      (taken : steps = earlier ++ .write settings m :: later)
      (outcome : (Step.write settings m).outcome ((empty package).run earlier) = .ok text)
      (mem : name ∈ Method.bareTypes settings m)

/-- An import ends in a simple name if and only if the first type that claims the name is from a
    package that needs an import. -/
theorem exists_import_iff (package : String) (steps : List Step) (simple : String) :
    (∃ i ∈ ((empty package).run steps).imports, lastSegment i = simple) ↔
      ∃ o, (claimants ((empty package).requestsOf steps)).find? (·.simple == simple) = some o ∧
        o.package ≠ implicitPackage ∧ o.package ≠ package := by
  have howner : ((empty package).run steps).owner? simple =
      (claimants ((empty package).requestsOf steps)).find? (·.simple == simple) := by
    rw [run_eq_after, owner?_after_empty]
  have hdotless : ((empty package).run steps).Dotless := dotless_run (dotless_empty package) steps
  -- An owner from such a package is the import that ends in its simple name.
  have himports := imports_filter_lastSegment hdotless simple
  rw [← howner]
  constructor
  · rintro ⟨i, hi, hlast⟩
    have hmem : i ∈ ((empty package).run steps).imports.filter (lastSegment · == simple) :=
      List.mem_filter.mpr ⟨hi, beq_iff_eq.mpr hlast⟩
    rw [himports, List.mem_map] at hmem
    obtain ⟨o, ho, -⟩ := hmem
    rw [List.mem_filter, Option.mem_toList, needsImport_iff, package_run] at ho
    exact ⟨o, ho⟩
  · rintro ⟨o, ho, hneeds⟩
    have hmem : o.qualified ∈
        ((empty package).run steps).imports.filter (lastSegment · == simple) := by
      rw [himports, List.mem_map]
      refine ⟨o, ?_, rfl⟩
      rw [List.mem_filter, Option.mem_toList, needsImport_iff, package_run]
      exact ⟨ho, hneeds⟩
    obtain ⟨hi, hlast⟩ := List.mem_filter.mp hmem
    exact ⟨o.qualified, hi, beq_iff_eq.mp hlast⟩

/-- No import of a unit takes the name of a bare type if and only if each of these names is either
    never claimed or claimed first by a type that is visible without an import. Where in the unit
    the name was used makes no difference. -/
theorem bare_names_uncaptured_iff (package : String) (steps : List Step) :
    (∀ name, UsedBare package steps name →
      ∀ i ∈ ((empty package).run steps).imports, lastSegment i ≠ name) ↔
    ∀ name, UsedBare package steps name →
      ∀ o, (claimants ((empty package).requestsOf steps)).find? (·.simple == name) = some o →
        o.package = implicitPackage ∨ o.package = package := by
  refine forall₂_congr fun name _ => ?_
  have hcaptured := not_congr (exists_import_iff package steps name)
  simpa [Decidable.or_iff_not_imp_left] using hcaptured

/-- The string type is asked for by its simple name, and then another string type with its package.
    The second one is imported, and both are printed alike. -/
theorem string_captured :
    let steps := [Step.request "String", .request "com.other.String"]
    let unit := (ImportTable.empty "org.example").run steps
    UsedBare "org.example" steps "String" ∧
    Printed (.empty "org.example") steps "com.other.String" "String" ∧
    unit.imports = ["com.other.String"] ∧ lastSegment "com.other.String" = "String" := by
  intro steps unit
  have hbare : Printed (.empty "org.example") steps "String" "String" :=
    ⟨[], "String", ["com.other.String"], rfl, by decide +kernel, by decide +kernel⟩
  have hother : Printed (.empty "org.example") steps "com.other.String" "String" :=
    ⟨["String"], "com.other.String", [], rfl, by decide +kernel, by decide +kernel⟩
  exact ⟨.asked (by decide) hbare, hother, by decide +kernel, by decide +kernel⟩

end DataMethods.ImportTable
