import DataMethods.Proofs.ImportTable.Names
import DataMethods.Proofs.ImportTable.Run
import Mathlib.Control.Monad.Basic

/-!
# The meaning of printed names

A reader of a finished unit takes a printed name for what the imports of the unit say. The imports
are complete only at the end of the run, long after most names were printed. Still every name in
package form is understood as it was asked for, and no two of them are printed alike: a name, once
printed, is a fixed point of the table, and so of the last table of the run.

## Key results

- `printName_of_printed`: a name printed during a run is printed alike in the table after the run
- `printed_name_understood`: read with the final imports, a printed text means the name asked for
-/

namespace DataMethods.ImportTable

open QualifiedName

/-! ## What is printed during a run -/

/-- The pieces of a type, from left to right, each with the text that it is printed as. -/
def printedPieces (t : ImportTable) : List TypeName.Piece → List (TypeName.Piece × String)
  | [] => []
  | .mark text :: rest => (.mark text, text) :: t.printedPieces rest
  | .name raw :: rest =>
    (.name raw, (t.printName raw).1) :: (t.printName raw).2.printedPieces rest

/-- During a run a request was granted, and `raw` is one of the names in the requested type. It was
    printed as `text`, which stands at its place in the answer. -/
def Printed (t : ImportTable) (steps : List Step) (raw text : String) : Prop :=
  ∃ earlier type later, t.requestsOf steps = earlier ++ type :: later ∧
    let names := NameResolver.after t earlier
    let pieces := names.printedPieces (TypeName.read (Text.trim type.toList)).pieces
    (names.request type).outcome = .ok (String.join (pieces.map Prod.snd)) ∧
      (.name raw, text) ∈ pieces

theorem printPieces_eq_join (t : ImportTable) (pieces : List TypeName.Piece) :
    (t.printPieces pieces).1 = String.join ((t.printedPieces pieces).map Prod.snd) := by
  induction pieces generalizing t with
  | nil => rfl
  | cons piece rest ih =>
    cases piece with
    | mark text => simp only [printPieces, printedPieces, List.map_cons, String.join_cons, ih]
    | name raw => simp only [printPieces, printedPieces, List.map_cons, String.join_cons, ih]

/-- Whatever a request is answered with, if it is granted, is the row of the printed pieces. -/
theorem answer_eq_join {t : ImportTable} {type text : String}
    (h : (t.request type).outcome = .ok text) :
    text = String.join
      ((t.printedPieces (TypeName.read (Text.trim type.toList)).pieces).map Prod.snd) := by
  rw [← printPieces_eq_join]
  simp only [request] at h
  split at h
  · contradiction
  · exact (Except.ok.inj h).symm

/-- A printed name is a fixed point of every later table. -/
theorem printName_of_mem {t t' : ImportTable} {pieces : List TypeName.Piece} {raw text : String}
    (hmem : (.name raw, text) ∈ t.printedPieces pieces) (h : (t.printPieces pieces).2.GrowsTo t') :
    t'.printName raw = (text, t') := by
  -- By induction on the pieces, each of which finds the table that those before it have left.
  induction pieces generalizing t with
  | nil => exact absurd hmem List.not_mem_nil
  | cons piece rest ih =>
    cases piece with
    | mark _ =>
      rcases List.mem_cons.mp hmem with heq | hmem
      · cases heq
      · exact ih hmem h
    | name _ =>
      rcases List.mem_cons.mp hmem with heq | hmem
      · cases heq
        exact printName_again ((printPieces_growsTo _ rest).trans h)
      · exact ih hmem h

/-- A name that was printed during a run is printed alike in the table after the run, which it
    leaves as it is. -/
theorem printName_of_printed {t : ImportTable} {steps : List Step} {raw text : String}
    (h : Printed t steps raw text) : (t.run steps).printName raw = (text, t.run steps) := by
  obtain ⟨earlier, type, later, hrequests, -, hmem⟩ := h
  refine printName_of_mem hmem ?_
  rw [run_eq_after, hrequests, NameResolver.after_append]
  exact after_growsTo _ later

theorem Dotless.after {t : ImportTable} (h : t.Dotless) (types : List String) :
    (NameResolver.after t types).Dotless := by
  induction types generalizing t with
  | nil => exact h
  | cons type rest ih => exact ih (h.printPieces _)

theorem dotless_run {t : ImportTable} (h : t.Dotless) (steps : List Step) :
    (t.run steps).Dotless := by
  rw [run_eq_after]
  exact h.after _

@[simp] theorem package_run (t : ImportTable) (steps : List Step) :
    (t.run steps).package = t.package :=
  (run_growsTo t steps).package

/-! ## Fixed points of a table -/

/-- A name in package form that a table keeps as it prints it: either its outer type owns the simple
    name and the package is left out, or it is printed in full. -/
theorem fixed_cases {t : ImportTable} {n p : String} (hn : InPackageForm n)
    (h : t.printName n = (p, t)) :
    (∃ o rest, t.owner? o.simple = some o ∧ startsUppercase o.simple.toList = true ∧
      firstSegment p = o.simple ∧ p = o.simple ++ rest ∧ n = o.package ++ "." ++ p ∧
      o.qualified = o.package ++ "." ++ o.simple) ∨
    (p = n ∧ startsUppercase (firstSegment p).toList = false) := by
  obtain ⟨q, hq, hsplit, hqualified, hfirst, hupper⟩ := ofRaw?_of_inPackageForm hn
  simp only [printName, hq, Prod.mk.injEq] at h
  obtain ⟨hp, htable⟩ := h
  rw [htable] at hp
  split at hp
  · next howner =>
    obtain ⟨rest, hrest⟩ := q.short_eq_append
    subst hp
    exact .inl ⟨q.outer, rest, howner, hupper, hfirst, hrest, hsplit, hqualified⟩
  · subst hp
    refine .inr ⟨rfl, ?_⟩
    rw [firstSegment, String.toList_ofList]
    exact hn.2.2.1

/-- A kept text that begins in upper case is read through the one import that ends in its first
    segment. If there is no such import, the name is in one of the packages that need none. -/
theorem understood_of_fixed {t : ImportTable} (hdotless : t.Dotless) {n p : String}
    (hn : InPackageForm n) (h : t.printName n = (p, t))
    (hupper : startsUppercase (firstSegment p).toList = true) :
    (∃ i rest, t.imports.filter (lastSegment · == firstSegment p) = [i] ∧
      p = firstSegment p ++ rest ∧ n = i ++ rest) ∨
    (t.imports.filter (lastSegment · == firstSegment p) = [] ∧
      (n = t.package ++ "." ++ p ∨ n = implicitPackage ++ "." ++ p)) := by
  obtain ⟨o, rest, ho, -, hfirst, hrest, hsplit, hqual⟩ | ⟨-, hlower⟩ := fixed_cases hn h
  · rw [hfirst, imports_filter_lastSegment hdotless, ho, Option.toList_some]
    by_cases hneeds : t.needsImport o = true
    · have hname : n = o.qualified ++ rest := by
        rw [hqual, String.append_assoc, ← hrest, hsplit]
      refine .inl ⟨o.qualified, rest, ?_, hrest, hname⟩
      rw [List.filter_cons_of_pos hneeds]
      rfl
    · -- Without an import the type is from one of the two packages that need none.
      have hpackage : o.package = implicitPackage ∨ o.package = t.package := by
        simpa [needsImport, Decidable.or_iff_not_imp_left] using hneeds
      refine .inr ⟨?_, ?_⟩
      · rw [List.filter_cons_of_neg hneeds]
        rfl
      · cases hpackage with
        | inl himplicit =>
          rw [himplicit] at hsplit
          exact .inr hsplit
        | inr hown =>
          rw [hown] at hsplit
          exact .inl hsplit
  · rw [hupper] at hlower
    contradiction

/-- A kept text that does not begin in upper case is the name itself. -/
theorem eq_name_of_fixed {t : ImportTable} {n p : String} (hn : InPackageForm n)
    (h : t.printName n = (p, t)) (hlower : startsUppercase (firstSegment p).toList = false) :
    p = n := by
  obtain ⟨o, -, -, hupper, hfirst, -⟩ | ⟨heq, -⟩ := fixed_cases hn h
  · rw [hfirst, hupper] at hlower
    contradiction
  · exact heq

/-- Two names in package form that a table keeps as one text are the same name. -/
theorem eq_of_fixed {t : ImportTable} {n n' p : String} (hn : InPackageForm n)
    (hn' : InPackageForm n') (h : t.printName n = (p, t)) (h' : t.printName n' = (p, t)) :
    n' = n := by
  by_cases hlower : startsUppercase (firstSegment p).toList = false
  · exact (eq_name_of_fixed hn' h' hlower).symm.trans (eq_name_of_fixed hn h hlower)
  · obtain ⟨o, -, ho, -, hfirst, -, hsplit, -⟩ | ⟨-, hnot⟩ := fixed_cases hn h
    · obtain ⟨o', -, ho', -, hfirst', -, hsplit', -⟩ | ⟨-, hnot⟩ := fixed_cases hn' h'
      · -- Both begin with the same simple name, which has one owner.
        rw [hfirst.symm.trans hfirst', ho', Option.some.injEq] at ho
        rw [hsplit, hsplit', ho]
      · exact absurd hnot hlower
    · exact absurd hnot hlower

/-- Read with the imports of the finished unit, whatever was printed for a name in package form
    during a run means that name. If the text begins in upper case, either exactly one import ends
    in its first segment, and put in its place gives the name; or no import does, and the name is
    the text in the unit's own package or in the one that is visible without imports. Any other text
    is the name itself. No other such name of the run is printed alike. -/
theorem printed_name_understood (package : String) (steps : List Step) {n p : String}
    (hn : InPackageForm n) (hp : Printed (.empty package) steps n p) :
    let unit := (ImportTable.empty package).run steps
    (startsUppercase (firstSegment p).toList = true →
      (∃ i rest, unit.imports.filter (lastSegment · == firstSegment p) = [i] ∧
        p = firstSegment p ++ rest ∧ n = i ++ rest) ∨
      (unit.imports.filter (lastSegment · == firstSegment p) = [] ∧
        (n = package ++ "." ++ p ∨ n = implicitPackage ++ "." ++ p))) ∧
    (startsUppercase (firstSegment p).toList = false → p = n) ∧
    ∀ n' p', InPackageForm n' → Printed (.empty package) steps n' p' → n' ≠ n → p' ≠ p := by
  intro unit
  -- Though the text was printed in an early table, it is as well what the last table prints.
  have hfixed : unit.printName n = (p, unit) := printName_of_printed hp
  have hdotless : unit.Dotless := dotless_run (dotless_empty package) steps
  have hpackage : unit.package = package := package_run _ steps
  refine ⟨?_, ?_, ?_⟩
  · intro hupper
    have hunderstood := understood_of_fixed hdotless hn hfixed hupper
    rwa [hpackage] at hunderstood
  · intro hlower
    exact eq_name_of_fixed hn hfixed hlower
  · intro n' p' hn' hp' hne heq
    subst heq
    exact hne (eq_of_fixed hn hn' hfixed (printName_of_printed hp'))

/-- Two lists are asked for, and then a text that is no type. The first list is printed by its
    simple name and imported, the second one in full. -/
theorem printed_name_understood_lists :
    let steps := [Step.request "java.util.List", .request "java.awt.List", .request "a.Book<"]
    let unit := (ImportTable.empty "org.example").run steps
    InPackageForm "java.util.List" ∧ InPackageForm "java.awt.List" ∧
    Printed (.empty "org.example") steps "java.util.List" "List" ∧
    Printed (.empty "org.example") steps "java.awt.List" "java.awt.List" ∧
    ((∃ i rest, unit.imports.filter (lastSegment · == firstSegment "List") = [i] ∧
        "List" = firstSegment "List" ++ rest ∧ "java.util.List" = i ++ rest) ∨
      (unit.imports.filter (lastSegment · == firstSegment "List") = [] ∧
        ("java.util.List" = "org.example" ++ "." ++ "List" ∨
          "java.util.List" = implicitPackage ++ "." ++ "List"))) ∧
    "java.awt.List" ≠ "List" := by
  intro steps unit
  have hutil : InPackageForm "java.util.List" := by decide
  have hawt : InPackageForm "java.awt.List" := by decide
  have hfirst : Printed (.empty "org.example") steps "java.util.List" "List" :=
    ⟨[], "java.util.List", ["java.awt.List", "a.Book<"], rfl, by decide +kernel, by decide +kernel⟩
  have hsecond : Printed (.empty "org.example") steps "java.awt.List" "java.awt.List" :=
    ⟨["java.util.List"], "java.awt.List", ["a.Book<"], rfl, by decide +kernel, by decide +kernel⟩
  have hunderstood := printed_name_understood "org.example" steps hutil hfirst
  exact ⟨hutil, hawt, hfirst, hsecond, hunderstood.1 (by decide +kernel),
    hunderstood.2.2 "java.awt.List" "java.awt.List" hawt hsecond (by decide)⟩

end DataMethods.ImportTable
