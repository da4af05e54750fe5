import DataMethods.Proofs.ImportTable.Unnamed
import Mathlib.Data.List.Sort

/-!
# Units of different packages

The package of a unit decides which of its owners are imported, and nothing else: what is printed
depends on the owners alone. So tables with the same owners answer alike, whatever their packages,
and have the same owners again afterwards. The same steps, taken in units of two packages, end in
the same texts and errors, and the imports differ in types of these two packages only.

## Key results

- `alike_of_sameOwners`: tables with the same owners answer alike
- `filter_imports_eq`: tables with the same owners import the same types of all other packages
- `package_immaterial_to_text`: what the package of a unit decides about its steps and imports
-/

namespace DataMethods.ImportTable

open QualifiedName

/-- The same types own simple names in both tables. The tables may be of units in different
    packages. -/
def SameOwners (t t' : ImportTable) : Prop :=
  t.owners = t'.owners

/-! ## Requests -/

namespace SameOwners

variable {t t' : ImportTable}

theorem owner? (h : SameOwners t t') (simple : String) : t.owner? simple = t'.owner? simple := by
  rw [ImportTable.owner?, ImportTable.owner?, h]

theorem claim (h : SameOwners t t') (o : OuterName) : SameOwners (t.claim o) (t'.claim o) := by
  have howner := h.owner? o.simple
  cases hfree : t.owner? o.simple with
  | some o' =>
    rw [claim_eq_self hfree, claim_eq_self (howner ▸ hfree)]
    exact h
  | none =>
    rw [SameOwners, owners_claim hfree, owners_claim (howner ▸ hfree), h]

theorem printName (h : SameOwners t t') (raw : String) :
    (t.printName raw).1 = (t'.printName raw).1 ∧
      SameOwners (t.printName raw).2 (t'.printName raw).2 := by
  unfold ImportTable.printName
  cases ofRaw? raw with
  | none => exact ⟨rfl, h⟩
  | some q =>
    have hclaim := h.claim q.outer
    simp only [hclaim.owner?]
    exact ⟨trivial, hclaim⟩

theorem printPieces (h : SameOwners t t') (pieces : List TypeName.Piece) :
    (t.printPieces pieces).1 = (t'.printPieces pieces).1 ∧
      SameOwners (t.printPieces pieces).2 (t'.printPieces pieces).2 := by
  induction pieces generalizing t t' with
  | nil => exact ⟨rfl, h⟩
  | cons piece rest ih =>
    cases piece with
    | mark text =>
      obtain ⟨htext, hnext⟩ := ih h
      simp only [ImportTable.printPieces, htext]
      exact ⟨trivial, hnext⟩
    | name raw =>
      obtain ⟨hfirst, hmiddle⟩ := h.printName raw
      obtain ⟨hrest, hnext⟩ := ih hmiddle
      simp only [ImportTable.printPieces, hfirst, hrest]
      exact ⟨trivial, hnext⟩

end SameOwners

/-- Tables with the same owners answer every request alike. -/
theorem alike_of_sameOwners : NameResolver.Alike SameOwners fun _ => True := by
  intro t t' h type _
  obtain ⟨htext, hnext⟩ := h.printPieces (TypeName.read (Text.trim type.toList)).pieces
  refine ⟨?_, hnext⟩
  show (t.request type).outcome = (t'.request type).outcome
  simp only [request, htext]

/-! ## Steps -/

/-- What the steps of a run end in, one after the other. -/
def outcomesOf (t : ImportTable) : List Step → List (Except RenderError String)
  | [] => []
  | step :: steps => step.outcome t :: outcomesOf (step.apply t) steps

theorem SameOwners.run {t t' : ImportTable} (h : SameOwners t t') (steps : List Step) :
    t.outcomesOf steps = t'.outcomesOf steps ∧ SameOwners (t.run steps) (t'.run steps) := by
  induction steps generalizing t t' with
  | nil => exact ⟨rfl, h⟩
  | cons step steps ih =>
    obtain ⟨houtcome, -, hnext⟩ := step.apply_alike alike_of_sameOwners h fun _ _ => trivial
    obtain ⟨hrest, hlast⟩ := ih hnext
    rw [outcomesOf, outcomesOf, houtcome, hrest]
    exact ⟨rfl, hlast⟩

/-! ## Imports -/

/-- An import is one of the other table as well, unless it is from that table's own package. -/
theorem SameOwners.mem_imports {t t' : ImportTable} (h : SameOwners t t') (ht : t.Dotless)
    {i : String} (hi : i ∈ t.imports) (hapart : packagePart i ≠ t'.package) : i ∈ t'.imports := by
  obtain ⟨o, howner, himplicit, -, rfl⟩ := mem_imports_iff.mp hi
  rw [OuterName.packagePart_qualified (ht o (owner?_mem howner).1)] at hapart
  exact mem_imports_iff.mpr ⟨o, h.owner? o.simple ▸ howner, himplicit, hapart, rfl⟩

/-- Is the type with this name from another package than the two? -/
def isApart (package package' name : String) : Bool :=
  packagePart name ≠ package && packagePart name ≠ package'

theorem isApart_iff {package package' name : String} :
    isApart package package' name = true ↔
      packagePart name ≠ package ∧ packagePart name ≠ package' := by
  simp [isApart]

/-- Of packages that are neither table's own, tables with the same owners import the same types. -/
theorem filter_imports_eq {t t' : ImportTable} (ht : t.Dotless) (ht' : t'.Dotless)
    (h : SameOwners t t') :
    t.imports.filter (isApart t.package t'.package) =
      t'.imports.filter (isApart t.package t'.package) := by
  have hsorted := (pairwise_lt_imports ht).filter (isApart t.package t'.package)
  have hsorted' := (pairwise_lt_imports ht').filter (isApart t.package t'.package)
  -- Both rows ascend, so it is enough that they have the same members.
  refine hsorted.eq_of_mem_iff hsorted' fun i => ?_
  rw [List.mem_filter, List.mem_filter, isApart_iff]
  constructor
  · rintro ⟨hi, hapart⟩
    exact ⟨h.mem_imports ht hi hapart.2, hapart⟩
  · rintro ⟨hi, hapart⟩
    have hback : SameOwners t' t := Eq.symm h
    exact ⟨hback.mem_imports ht' hi hapart.1, hapart⟩

/-- The same steps are taken from the beginning in units of two packages. One after the other they
    end in the same texts and the same errors. However many have been taken, the units import the
    same types of all other packages, and each unit imports none of its own package. -/
theorem package_immaterial_to_text (package package' : String) (steps : List Step) :
    (empty package).outcomesOf steps = (empty package').outcomesOf steps ∧
    ∀ taken, taken <+: steps →
      let unit := (empty package).run taken
      let unit' := (empty package').run taken
      unit.imports.filter (isApart package package') =
        unit'.imports.filter (isApart package package') ∧
      (∀ i ∈ unit.imports, packagePart i ≠ package) ∧
      ∀ i ∈ unit'.imports, packagePart i ≠ package' := by
  have hempty : SameOwners (empty package) (empty package') := rfl
  refine ⟨(hempty.run steps).1, ?_⟩
  intro taken _ unit unit'
  have hdotless : unit.Dotless := dotless_run (dotless_empty package) taken
  have hdotless' : unit'.Dotless := dotless_run (dotless_empty package') taken
  have hpackage : unit.package = package := package_run _ taken
  have hpackage' : unit'.package = package' := package_run _ taken
  refine ⟨?_, ?_, ?_⟩
  · have himports := filter_imports_eq hdotless hdotless' (hempty.run taken).2
    rwa [hpackage, hpackage'] at himports
  · intro i hi
    exact hpackage ▸ (packagePart_of_mem_imports hdotless hi).2
  · intro i hi
    exact hpackage' ▸ (packagePart_of_mem_imports hdotless' hi).2

/-- A list of books, another list, and the upsert of books, in a unit of the list's package and in
    one of the books' package. -/
theorem package_immaterial_to_text_saveBooks :
    let steps := [Step.request "java.util.List<org.example.Book>", .request "java.awt.List",
      .write Method.recovering Sample.saveBooks]
    let unit := (empty "java.util").run steps
    let unit' := (empty "org.example").run steps
    (empty "java.util").outcomesOf steps = (empty "org.example").outcomesOf steps ∧
    steps <+: steps ∧
    unit.imports.filter (isApart "java.util" "org.example") =
      unit'.imports.filter (isApart "java.util" "org.example") ∧
    "org.example.Book" ∈ unit.imports ∧ packagePart "org.example.Book" ≠ "java.util" ∧
    "java.util.List" ∈ unit'.imports ∧ packagePart "java.util.List" ≠ "org.example" := by
  intro steps unit unit'
  obtain ⟨houtcomes, htables⟩ := package_immaterial_to_text "java.util" "org.example" steps
  obtain ⟨hfilter, hown, hown'⟩ := htables steps (List.prefix_refl steps)
  -- What the first step has recorded is still there after the others.
  have hkept (package : String) :
      ((empty package).request "java.util.List<org.example.Book>").state.recorded ⊆
        ((empty package).run steps).imports := by
    intro i hi
    have hgrows : ((empty package).request "java.util.List<org.example.Book>").state.GrowsTo
        ((empty package).run steps) := by
      rw [run, List.foldl_cons]
      exact run_growsTo _ _
    exact (imports_perm _).mem_iff.mpr (hgrows.recorded.subset hi)
  have hbook : "org.example.Book" ∈ unit.imports := hkept "java.util" (by decide +kernel)
  have hlist : "java.util.List" ∈ unit'.imports := hkept "org.example" (by decide +kernel)
  refine ⟨houtcomes, List.prefix_refl steps, hfilter, hbook, ?_, hlist, ?_⟩
  · exact hown _ hbook
  · exact hown' _ hlist

end DataMethods.ImportTable
