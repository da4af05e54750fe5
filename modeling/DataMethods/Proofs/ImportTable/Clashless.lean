import DataMethods.Proofs.ImportTable.Claimants
import DataMethods.Proofs.Method.Text
import Mathlib.Data.List.Sort

/-!
# Units without clashes

The table of a unit grows as types are asked for, and who is asked first keeps a simple name. This
matters only where two outer types with the same simple name are asked for. In a unit without such a
clash every type that is asked for owns its simple name sooner or later, so all tables on the way
answer alike, and the steps of the unit may be taken in any order.

## Key results

- `alike_of_clashless`: tables whose owners do not clash answer alike
- `mem_owners_claimAll`: without a clash every claim is granted
- `order_immaterial`: in any other order each step has the same outcome, and the unit the same
  imports
-/

namespace DataMethods

/-- Two names of one type, its simple name and its name with the package, determine the type. -/
theorem OuterName.eq_of_qualified_eq {a b : OuterName} (hsimple : a.simple = b.simple)
    (h : a.qualified = b.qualified) : a = b := by
  obtain ⟨p, s⟩ := a
  obtain ⟨p', s'⟩ := b
  obtain rfl : s = s' := hsimple
  have hlength := congrArg String.length h
  simp only [qualified] at h hlength
  -- A package makes the name longer, so either both types have one or neither has.
  by_cases hp : p = "" <;> by_cases hp' : p' = ""
  · rw [hp, hp']
  · simp [hp, hp'] at hlength
  · simp [hp, hp'] at hlength
  · simp only [hp, hp', if_false, String.append_left_inj] at h
    rw [h]

namespace ImportTable

open QualifiedName Rendering

/-- No two of the outer types have the same simple name but different names with their packages. -/
def Clashless (os : List OuterName) : Prop :=
  ∀ a ∈ os, ∀ b ∈ os, a.simple = b.simple → a.qualified = b.qualified

instance (os : List OuterName) : Decidable (Clashless os) :=
  inferInstanceAs (Decidable (∀ a ∈ os, ∀ b ∈ os, _))

/-- The owners are among the given outer types. -/
def Within (t : ImportTable) (os : List OuterName) : Prop :=
  t.owners ⊆ os

theorem within_empty (package : String) (os : List OuterName) : (empty package).Within os :=
  List.nil_subset os

section

variable {os : List OuterName} {t t' : ImportTable} {o : OuterName}

theorem Clashless.eq (h : Clashless os) {a b : OuterName} (ha : a ∈ os) (hb : b ∈ os)
    (hsimple : a.simple = b.simple) : a = b :=
  OuterName.eq_of_qualified_eq hsimple (h a ha b hb hsimple)

/-! ## Tables without clashes -/

theorem Within.claim (ht : t.Within os) (ho : o ∈ os) : (t.claim o).Within os := by
  cases howner : t.owner? o.simple with
  | some o' => rwa [claim_eq_self howner]
  | none =>
    rw [Within, owners_claim howner, List.append_subset]
    exact ⟨ht, List.cons_subset.mpr ⟨ho, List.nil_subset os⟩⟩

/-- Without a clash every type owns its simple name once it has claimed it. -/
theorem Clashless.owner?_claim (h : Clashless os) (ht : t.Within os) (ho : o ∈ os) :
    (t.claim o).owner? o.simple = some o := by
  rw [ImportTable.owner?_claim]
  cases howner : t.owner? o.simple with
  | none => rfl
  | some o' =>
    obtain ⟨hmem, hsimple⟩ := owner?_mem howner
    rw [Option.getD_some, h.eq (ht hmem) ho hsimple]

theorem Clashless.printName_alike (h : Clashless os) (ht : t.Within os) (ht' : t'.Within os)
    {raw : String} (hraw : (TypeName.Piece.name raw).claimant?.toList ⊆ os) :
    (t.printName raw).1 = (t'.printName raw).1 ∧ (t.printName raw).2.Within os := by
  unfold printName
  cases hq : ofRaw? raw with
  | none => exact ⟨rfl, ht⟩
  | some q =>
    have ho : q.outer ∈ os := by simpa [TypeName.Piece.claimant?, hq] using hraw
    simp only [h.owner?_claim ht ho, h.owner?_claim ht' ho]
    exact ⟨trivial, ht.claim ho⟩

theorem Clashless.printPieces_alike (h : Clashless os) (ht : t.Within os) (ht' : t'.Within os)
    {pieces : List TypeName.Piece}
    (hpieces : pieces.filterMap TypeName.Piece.claimant? ⊆ os) :
    (t.printPieces pieces).1 = (t'.printPieces pieces).1 ∧ (t.printPieces pieces).2.Within os := by
  induction pieces generalizing t t' with
  | nil => exact ⟨rfl, ht⟩
  | cons piece rest ih =>
    cases piece with
    | mark text =>
      obtain ⟨htext, hwithin⟩ := ih ht ht' hpieces
      simp only [printPieces, htext]
      exact ⟨trivial, hwithin⟩
    | name raw =>
      have hsplit : (TypeName.Piece.name raw :: rest).filterMap TypeName.Piece.claimant? =
          (TypeName.Piece.name raw).claimant?.toList ++
            rest.filterMap TypeName.Piece.claimant? := by
        rw [List.filterMap_cons]
        cases (TypeName.Piece.name raw).claimant? <;> rfl
      rw [hsplit, List.append_subset] at hpieces
      obtain ⟨hfirst, hnext⟩ := h.printName_alike ht ht' hpieces.1
      obtain ⟨-, hnext'⟩ := h.printName_alike ht' ht hpieces.1
      obtain ⟨hrest, hwithin⟩ := ih hnext hnext' hpieces.2
      simp only [printPieces, hfirst, hrest]
      exact ⟨trivial, hwithin⟩

/-- The owners of both tables are among the given outer types. -/
def BothWithin (os : List OuterName) (t t' : ImportTable) : Prop :=
  t.Within os ∧ t'.Within os

/-- Tables whose owners are among types that do not clash answer requests for these types alike. -/
theorem alike_of_clashless (h : Clashless os) :
    NameResolver.Alike (BothWithin os) fun type => claimants [type] ⊆ os := by
  intro t t' ⟨ht, ht'⟩ type htype
  rw [claimants, List.flatMap_singleton] at htype
  obtain ⟨htext, hwithin⟩ := h.printPieces_alike ht ht' htype
  obtain ⟨-, hwithin'⟩ := h.printPieces_alike ht' ht htype
  refine ⟨?_, hwithin, hwithin'⟩
  show (t.request type).outcome = (t'.request type).outcome
  simp only [request, htext]

/-- Without a clash every claim is granted, in whatever order they are made. -/
theorem mem_owners_claimAll (h : Clashless os) (package : String) :
    o ∈ ((empty package).claimAll os).owners ↔ o ∈ os := by
  have hfind : ((empty package).claimAll os).owner? o.simple = os.find? (·.simple == o.simple) := by
    rw [owner?_claimAll]
    rfl
  constructor
  · intro hmem
    rw [owner?_eq_some_iff.mpr ⟨hmem, rfl⟩] at hfind
    exact List.mem_of_find?_eq_some hfind.symm
  · intro ho
    cases hfirst : os.find? (·.simple == o.simple) with
    | none => simpa using List.find?_eq_none.mp hfirst o ho
    | some o' =>
      -- The first claimant of the name is the only one.
      have hsimple : o'.simple = o.simple := by simpa using List.find?_some hfirst
      rw [h.eq (List.mem_of_find?_eq_some hfirst) ho hsimple] at hfirst
      exact (owner?_mem (hfind.trans hfirst)).1

end

/-! ## Steps in any order -/

theorem claimants_append (xs ys : List String) :
    claimants (xs ++ ys) = claimants xs ++ claimants ys :=
  List.flatMap_append

theorem claimants_subset_iff {types : List String} {os : List OuterName} :
    claimants types ⊆ os ↔ ∀ type ∈ types, claimants [type] ⊆ os := by
  simp only [claimants, List.flatMap_singleton, List.subset_def, List.mem_flatMap]
  exact ⟨fun h type htype o ho => h ⟨type, htype, ho⟩, fun h o ⟨type, htype, ho⟩ => h type htype ho⟩

section

variable {os : List OuterName} {t t' base : ImportTable}

/-- A step that claims names for types without a clash has the same outcome on all tables of such
    types, asks for the same types, and leads to a table of this kind. -/
theorem Step.alike (h : Clashless os) (ht : t.Within os) (ht' : t'.Within os) {step : Step}
    (hstep : claimants (step.requests t) ⊆ os) :
    step.outcome t = step.outcome t' ∧ step.requests t = step.requests t' ∧
      (step.apply t).Within os := by
  rw [claimants_subset_iff] at hstep
  have hboth : BothWithin os t t' := ⟨ht, ht'⟩
  obtain ⟨houtcome, hasked, hnext⟩ := apply_alike (alike_of_clashless h) hboth hstep
  exact ⟨houtcome, hasked, hnext.1⟩

/-- What each step of a run claims can be found out on any table, since all tables are alike. -/
theorem claims_of_mem (h : Clashless os) (hbase : base.Within os) (ht : t.Within os)
    {steps : List Step} (hsteps : claimants (t.requestsOf steps) ⊆ os) :
    ∀ step ∈ steps, claimants (step.requests base) ⊆ os := by
  induction steps generalizing t with
  | nil => exact fun _ hmem => absurd hmem List.not_mem_nil
  | cons step steps ih =>
    rw [requestsOf, claimants_append, List.append_subset] at hsteps
    obtain ⟨-, hsame, hnext⟩ := Step.alike h ht hbase hsteps.1
    rw [List.forall_mem_cons, ← hsame]
    exact ⟨hsteps.1, ih hnext hsteps.2⟩

/-- A run asks for what each of its steps by itself would ask for. -/
theorem requestsOf_eq_flatMap (h : Clashless os) (hbase : base.Within os) (ht : t.Within os)
    {steps : List Step} (hsteps : ∀ step ∈ steps, claimants (step.requests base) ⊆ os) :
    t.requestsOf steps = steps.flatMap (Step.requests base) ∧ (t.run steps).Within os := by
  induction steps generalizing t with
  | nil => exact ⟨rfl, ht⟩
  | cons step steps ih =>
    rw [List.forall_mem_cons] at hsteps
    obtain ⟨-, hsame, -⟩ := Step.alike h hbase ht hsteps.1
    obtain ⟨-, -, hnext⟩ := Step.alike h ht hbase (hsame ▸ hsteps.1)
    obtain ⟨hrest, hwithin⟩ := ih hnext hsteps.2
    rw [requestsOf, hrest, List.flatMap_cons, hsame]
    exact ⟨rfl, hwithin⟩

end

/-- Tables of one package with the same owners, in whatever order these came, have the same
    imports. -/
theorem imports_eq_of_mem_owners_iff {t t' : ImportTable} (ht : t.Dotless) (ht' : t'.Dotless)
    (hpackage : t.package = t'.package) (h : ∀ o, o ∈ t.owners ↔ o ∈ t'.owners) :
    t.imports = t'.imports := by
  refine (pairwise_lt_imports ht).eq_of_mem_iff (pairwise_lt_imports ht') fun i => ?_
  simp only [mem_imports_iff, owner?_eq_some_iff, h, hpackage]

/-- If the types that the steps of a unit ask for do not clash, the order of the steps does not
    matter. Taken in any other order from the beginning, every request and every method that is
    written ends in the same text or the same error, and the unit has the same imports. -/
theorem order_immaterial (package : String) {steps steps' : List Step} (hperm : steps.Perm steps')
    (h : Clashless (claimants ((empty package).requestsOf steps))) :
    (∀ earlier step later earlier' later',
      steps = earlier ++ step :: later → steps' = earlier' ++ step :: later' →
      step.outcome ((empty package).run earlier) = step.outcome ((empty package).run earlier')) ∧
    ((empty package).run steps).imports = ((empty package).run steps').imports := by
  have hempty := within_empty package (claimants ((empty package).requestsOf steps))
  have hclaims : ∀ step ∈ steps, claimants (step.requests (empty package)) ⊆ _ :=
    claims_of_mem h hempty hempty (List.Subset.refl _)
  have hclaims' : ∀ step ∈ steps', claimants (step.requests (empty package)) ⊆ _ :=
    fun step hmem => hclaims step (hperm.mem_iff.mpr hmem)
  constructor
  · rintro earlier step later earlier' later' rfl rfl
    -- Both tables that the step finds hold only types of this unit.
    have hbefore := (requestsOf_eq_flatMap h hempty hempty fun s hs =>
      hclaims s (List.mem_append_left _ hs)).2
    have hbefore' := (requestsOf_eq_flatMap h hempty hempty fun s hs =>
      hclaims' s (List.mem_append_left _ hs)).2
    have hstep := hclaims step (List.mem_append_right _ List.mem_cons_self)
    rw [← (Step.alike h hempty hbefore hstep).1, ← (Step.alike h hempty hbefore' hstep).1]
  · have hrequests := (requestsOf_eq_flatMap h hempty hempty hclaims).1
    have hrequests' := (requestsOf_eq_flatMap h hempty hempty hclaims').1
    -- The claims are the same up to their order, and all of them are granted.
    have hsame : (claimants ((empty package).requestsOf steps)).Perm
        (claimants ((empty package).requestsOf steps')) := by
      rw [hrequests, hrequests']
      exact (hperm.flatMap_right _).flatMap_right _
    have h' : Clashless (claimants ((empty package).requestsOf steps')) := fun a ha b hb =>
      h a (hsame.mem_iff.mpr ha) b (hsame.mem_iff.mpr hb)
    refine imports_eq_of_mem_owners_iff (dotless_run (dotless_empty package) steps)
      (dotless_run (dotless_empty package) steps') (by simp) fun o => ?_
    rw [run_eq_after, run_eq_after, after_eq_claimAll, after_eq_claimAll, mem_owners_claimAll h,
      mem_owners_claimAll h', hsame.mem_iff]

/-- A list type, a map that is no type, and the upsert of books, in this order and the other way
    round. -/
theorem order_immaterial_saveBooks :
    let unit := (ImportTable.empty "org.example").run
    let list := Step.request "java.util.List"
    let map := Step.request "java.util.Map<java.util.List,"
    let save := Step.write Method.recovering Sample.saveBooks
    [list, map, save].Perm [save, map, list] ∧
    Clashless (claimants ((ImportTable.empty "org.example").requestsOf [list, map, save])) ∧
    list.outcome (unit []) = list.outcome (unit [save, map]) ∧
    map.outcome (unit [list]) = map.outcome (unit [save]) ∧
    save.outcome (unit [list, map]) = save.outcome (unit []) ∧
    (unit [list, map, save]).imports = (unit [save, map, list]).imports := by
  intro unit list map save
  have hperm : [list, map, save].Perm [save, map, list] := List.reverse_perm [save, map, list]
  have h : Clashless
      (claimants ((ImportTable.empty "org.example").requestsOf [list, map, save])) := by
    rw [requestsOf, requestsOf, requestsOf, Step.requests_write]
    decide +kernel
  obtain ⟨houtcome, himports⟩ := order_immaterial "org.example" hperm h
  exact ⟨hperm, h, houtcome [] list [map, save] [save, map] [] rfl rfl,
    houtcome [list] map [save] [save] [list] rfl rfl,
    houtcome [list, map] save [] [] [map, list] rfl rfl, himports⟩

end ImportTable

end DataMethods
