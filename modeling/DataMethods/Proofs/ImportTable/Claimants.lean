import DataMethods.Proofs.ImportTable.Meaning

/-!
# First claimants

What a unit has come to hold can be read off the names that were resolved for it, without the table.
`claimants` lists the outer types of these names, in the order in which they are resolved: request
by request, from left to right in each, and up to the fault if a request is refused. Each simple
name belongs to the first outer type in this list that has it. Who the owners are decides how every
name was printed and which types are imported.

## Key results

- `owner?_claimAll`: after a row of claims a free name belongs to its first claimant
- `owners_claimAll`: the owners are the first claimants, each where it occurs first
- `table_eq_first_claimants`: owners, printed names, imports and records of all requests of a unit
-/

namespace DataMethods

/-- The outer type that a piece claims a simple name for. Marks claim none, nor do names that are
    not qualified. -/
def TypeName.Piece.claimant? : TypeName.Piece → Option OuterName
  | .name raw => (QualifiedName.ofRaw? raw).map QualifiedName.outer
  | .mark _ => none

namespace ImportTable

open QualifiedName

/-- The outer types that requests claim simple names for, in the order of their resolution. -/
def claimants (types : List String) : List OuterName :=
  types.flatMap fun type =>
    (TypeName.read (Text.trim type.toList)).pieces.filterMap TypeName.Piece.claimant?

/-- The table after claims, one after the other. -/
def claimAll (t : ImportTable) (os : List OuterName) : ImportTable :=
  os.foldl claim t

/-- Of all outer types with the same simple name only the first, in the order of the list. -/
def firstClaimants (os : List OuterName) : List OuterName :=
  os.eraseDupsBy fun a b => a.simple == b.simple

/-! ## Claims, one after the other -/

/-- A claim concerns its own simple name only, and that only if it is free. -/
theorem owner?_claim_eq (t : ImportTable) (o : OuterName) (simple : String) :
    (t.claim o).owner? simple =
      (t.owner? simple).or (if o.simple = simple then some o else none) := by
  cases howner : t.owner? o.simple with
  | some o' =>
    rw [claim_eq_self howner]
    split
    · next heq => rw [← heq, howner, Option.some_or]
    · rw [Option.or_none]
  | none =>
    have hfind : [o].find? (·.simple == simple) = if o.simple = simple then some o else none := by
      by_cases heq : o.simple = simple <;> simp [heq]
    rw [owner?, owners_claim howner, List.find?_append, hfind]
    rfl

/-- After a row of claims a name has the owner that it had before, or else its first claimant. -/
theorem owner?_claimAll (t : ImportTable) (os : List OuterName) (simple : String) :
    (t.claimAll os).owner? simple = (t.owner? simple).or (os.find? (·.simple == simple)) := by
  induction os generalizing t with
  | nil => simp [claimAll]
  | cons o os ih =>
    have hrest : (t.claimAll (o :: os)).owner? simple =
        ((t.claim o).owner? simple).or (os.find? (·.simple == simple)) := ih (t.claim o)
    rw [hrest, owner?_claim_eq, Option.or_assoc]
    by_cases heq : o.simple = simple
    · simp [heq]
    · simp [heq, beq_eq_false_iff_ne.mpr heq]

theorem claimAll_append (t : ImportTable) (os os' : List OuterName) :
    t.claimAll (os ++ os') = (t.claimAll os).claimAll os' :=
  List.foldl_append

/-- A row of claims adds the first claimants of the names that were free before it. -/
theorem owners_claimAll (t : ImportTable) (os : List OuterName) :
    (t.claimAll os).owners =
      t.owners ++ firstClaimants (os.filter fun o => (t.owner? o.simple).isNone) := by
  -- By induction on the claims, each of which meets the table that those before it have left.
  induction os generalizing t with
  | nil => simp [claimAll, firstClaimants]
  | cons o os ih =>
    have hrest : (t.claimAll (o :: os)).owners = (t.claim o).owners ++
        firstClaimants (os.filter fun a => ((t.claim o).owner? a.simple).isNone) := ih (t.claim o)
    rw [hrest, List.filter_cons]
    cases howner : t.owner? o.simple with
    | some o' =>
      rw [claim_eq_self howner]
      rfl
    | none =>
      -- What is free after the claim was free before it and is not the name just claimed.
      have hfree : (os.filter fun a => ((t.claim o).owner? a.simple).isNone) =
          (os.filter fun a => (t.owner? a.simple).isNone).filter
            fun a => (a.simple == o.simple) = false := by
        rw [List.filter_filter]
        refine List.filter_congr fun a _ => ?_
        rw [owner?_claim_eq]
        by_cases heq : o.simple = a.simple
        · simp [heq]
        · simp [heq, Ne.symm heq]
      rw [owners_claim howner, hfree, firstClaimants, Option.isNone_none, if_pos rfl,
        firstClaimants, List.eraseDupsBy_cons, List.append_assoc, List.singleton_append]

/-- The owners in a unit that began without any are the first claimants. -/
theorem owners_claimAll_empty (package : String) (os : List OuterName) :
    ((empty package).claimAll os).owners = firstClaimants os := by
  have hfree : (os.filter fun o => ((empty package).owner? o.simple).isNone) = os :=
    List.filter_eq_self.mpr fun _ _ => rfl
  rw [owners_claimAll, hfree]
  rfl

/-! ## Requests are claims -/

theorem printName_state (t : ImportTable) (raw : String) :
    (t.printName raw).2 = t.claimAll (TypeName.Piece.name raw).claimant?.toList := by
  simp only [printName, TypeName.Piece.claimant?]
  cases ofRaw? raw with
  | none => rfl
  | some q => rfl

/-- Printing pieces leaves the claims of their names. -/
theorem printPieces_state (t : ImportTable) (pieces : List TypeName.Piece) :
    (t.printPieces pieces).2 = t.claimAll (pieces.filterMap TypeName.Piece.claimant?) := by
  induction pieces generalizing t with
  | nil => rfl
  | cons piece rest ih =>
    cases piece with
    | mark text => exact ih t
    | name raw =>
      have hrest : (t.printPieces (.name raw :: rest)).2 =
          (t.printName raw).2.claimAll (rest.filterMap TypeName.Piece.claimant?) := ih _
      rw [hrest, printName_state, List.filterMap_cons]
      cases (TypeName.Piece.name raw).claimant? <;> rfl

/-- Whether they are granted or not, requests leave the claims of their names. -/
theorem after_eq_claimAll (t : ImportTable) (types : List String) :
    NameResolver.after t types = t.claimAll (claimants types) := by
  induction types generalizing t with
  | nil => rfl
  | cons type rest ih =>
    have hfirst : (t.request type).state = t.claimAll
        ((TypeName.read (Text.trim type.toList)).pieces.filterMap TypeName.Piece.claimant?) :=
      printPieces_state t _
    have hrest : NameResolver.after t (type :: rest) =
        (t.request type).state.claimAll (claimants rest) := ih _
    rw [hrest, hfirst, ← claimAll_append]
    rfl

/-- In a unit that began without owners, a simple name belongs to its first claimant. -/
theorem owner?_after_empty (package : String) (types : List String) (simple : String) :
    (NameResolver.after (empty package) types).owner? simple =
      (claimants types).find? (·.simple == simple) := by
  rw [after_eq_claimAll, owner?_claimAll]
  rfl

/-! ## Imports and their records -/

/-- The imports that requests record, in the order in which they do so. -/
def records (t : ImportTable) : List String → List String
  | [] => []
  | type :: rest => (t.request type).recorded ++ records (t.request type).state rest

/-- Requests record what the last table holds beyond the first. -/
theorem recorded_append_records (t : ImportTable) (types : List String) :
    t.recorded ++ t.records types = (NameResolver.after t types).recorded := by
  induction types generalizing t with
  | nil => exact List.append_nil _
  | cons type rest ih =>
    obtain ⟨new, hnew⟩ := (request_growsTo t type).recorded
    have hfirst : (t.request type).recorded = new := by
      show (t.request type).state.recorded.drop t.recorded.length = new
      rw [← hnew, List.drop_left]
    rw [records, hfirst, ← List.append_assoc, hnew]
    exact ih _

/-- Owners with different simple names have different names with their packages. -/
theorem nodup_recorded {t : ImportTable} (h : t.Dotless) : t.recorded.Nodup := by
  have hdistinct : t.owners.Pairwise fun a b => a.qualified ≠ b.qualified := by
    refine t.distinct.imp_of_mem ?_
    intro a b ha hb hne heq
    -- The simple name is the last segment of the name with its package.
    rw [← OuterName.lastSegment_qualified (h a ha), ← OuterName.lastSegment_qualified (h b hb),
      heq] at hne
    exact hne rfl
  exact List.pairwise_map.mpr (hdistinct.sublist List.filter_sublist)

theorem imports_perm (t : ImportTable) : t.imports.Perm t.recorded :=
  List.mergeSort_perm _ _

theorem pairwise_lt_imports {t : ImportTable} (h : t.Dotless) : t.imports.Pairwise (· < ·) := by
  have hsorted : t.imports.Pairwise (decide <| · ≤ ·) :=
    List.pairwise_mergeSort (by simpa using fun _ _ _ => String.le_trans)
      (by simpa using String.le_total) t.recorded
  have hnodup : t.imports.Nodup := (imports_perm t).nodup_iff.mpr (nodup_recorded h)
  refine (hsorted.and hnodup).imp ?_
  intro a b ⟨hle, hne⟩
  have hle : a ≤ b := of_decide_eq_true hle
  exact Decidable.byContradiction fun hnot => hne (String.le_antisymm hle (String.not_lt.mp hnot))

theorem needsImport_iff {t : ImportTable} {o : OuterName} :
    t.needsImport o = true ↔ o.package ≠ implicitPackage ∧ o.package ≠ t.package := by
  simp [needsImport]

theorem mem_imports_iff {t : ImportTable} {i : String} :
    i ∈ t.imports ↔ ∃ o, t.owner? o.simple = some o ∧ o.package ≠ implicitPackage ∧
      o.package ≠ t.package ∧ i = o.qualified := by
  rw [(imports_perm t).mem_iff, recorded, List.mem_map]
  refine exists_congr fun o => ?_
  rw [List.mem_filter, needsImport_iff, owner?_eq_some_iff]
  constructor
  · rintro ⟨⟨ho, himplicit, hown⟩, rfl⟩
    exact ⟨⟨ho, rfl⟩, himplicit, hown, rfl⟩
  · rintro ⟨⟨ho, -⟩, himplicit, hown, rfl⟩
    exact ⟨⟨ho, himplicit, hown⟩, rfl⟩

/-! ## The table of a unit -/

/-- A table that keeps a qualified name as it prints it leaves the package out for the owner of the
    simple name only. -/
theorem eq_of_fixed_qualified {t : ImportTable} {raw text : String} {q : QualifiedName}
    (hq : ofRaw? raw = some q) (h : t.printName raw = (text, t)) :
    text = if t.owner? q.outer.simple = some q.outer then q.short else raw := by
  simp only [printName, hq, Prod.mk.injEq] at h
  obtain ⟨htext, htable⟩ := h
  rw [htable] at htext
  exact htext.symm

/-- All there is to say about a unit after requests, some of which may have been refused, follows
    from the list of claimants.

    Each simple name is owned by its first claimant. A granted request was answered with its pieces
    in a row, where a qualified name was printed in its short form if its outer type is the owner of
    the simple name, and as it is otherwise. The imports are the owners from packages that need one,
    in ascending order and without repetition. The records of imports are these same imports, each
    once, in the order in which their owners first occur. -/
theorem table_eq_first_claimants (package : String) (types : List String) :
    let unit := NameResolver.after (empty package) types
    (∀ simple, unit.owner? simple = (claimants types).find? (·.simple == simple)) ∧
    (∀ earlier type later, types = earlier ++ type :: later →
      let names := NameResolver.after (empty package) earlier
      let printed := names.printedPieces (TypeName.read (Text.trim type.toList)).pieces
      (∀ text, (names.request type).outcome = .ok text →
        text = String.join (printed.map Prod.snd)) ∧
      ∀ raw text, (.name raw, text) ∈ printed → ∀ q, ofRaw? raw = some q →
        text = if unit.owner? q.outer.simple = some q.outer then q.short else raw) ∧
    (unit.imports.Pairwise (· < ·) ∧
      ∀ i, i ∈ unit.imports ↔ ∃ o, unit.owner? o.simple = some o ∧ o.package ≠ implicitPackage ∧
        o.package ≠ package ∧ i = o.qualified) ∧
    (((empty package).records types).Perm unit.imports ∧
      (empty package).records types = ((firstClaimants (claimants types)).filter fun o =>
        o.package ≠ implicitPackage ∧ o.package ≠ package).map OuterName.qualified) := by
  intro unit
  have hunit : unit = (empty package).claimAll (claimants types) := after_eq_claimAll _ types
  have hpackage : unit.package = package := (after_growsTo (empty package) types).package
  have hrecords : (empty package).records types = unit.recorded :=
    recorded_append_records (empty package) types
  refine ⟨?owners, ?printed, ?imports, ?records⟩
  case owners =>
    intro simple
    rw [hunit, owner?_claimAll]
    rfl
  case printed =>
    rintro earlier type later rfl names printed
    refine ⟨fun text htext => answer_eq_join htext, ?_⟩
    intro raw text hmem q hq
    -- The table has grown since, and prints the name as it did then.
    have hgrows : (names.printPieces (TypeName.read (Text.trim type.toList)).pieces).2.GrowsTo
        unit := by
      have hsplit : unit = NameResolver.after (names.request type).state later :=
        NameResolver.after_append (empty package) earlier (type :: later)
      rw [hsplit]
      exact after_growsTo _ later
    exact eq_of_fixed_qualified hq (printName_of_mem hmem hgrows)
  case imports =>
    have hdotless : unit.Dotless := (dotless_empty package).after types
    refine ⟨pairwise_lt_imports hdotless, fun i => ?_⟩
    rw [mem_imports_iff, hpackage]
  case records =>
    refine ⟨hrecords ▸ (imports_perm unit).symm, ?_⟩
    have howners : unit.owners = firstClaimants (claimants types) := by
      rw [hunit, owners_claimAll_empty]
    have hneeds : unit.needsImport =
        fun o => decide (o.package ≠ implicitPackage ∧ o.package ≠ package) := by
      funext o
      rw [Bool.eq_iff_iff, needsImport_iff, hpackage, decide_eq_true_eq]
    rw [hrecords, recorded, howners, hneeds]

/-- Two lists are asked for. In between a map is refused, but only after three names in it. The
    second list is printed in full, since the first one owns the name. -/
theorem table_eq_first_claimants_lists :
    let earlier := ["java.awt.List", "a.Map<java.util.Set, a.Book<>>"]
    let types := earlier ++ ["java.util.List"]
    let names := NameResolver.after (empty "a") earlier
    let unit := NameResolver.after (empty "a") types
    let printed := names.printedPieces (TypeName.read (Text.trim "java.util.List".toList)).pieces
    types = earlier ++ "java.util.List" :: [] ∧
    (names.request "java.util.List").outcome = .ok "java.util.List" ∧
    "java.util.List" = String.join (printed.map Prod.snd) ∧
    (.name "java.util.List", "java.util.List") ∈ printed ∧
    ofRaw? "java.util.List" = some ⟨⟨"java.util", "List"⟩, []⟩ ∧
    unit.owner? "List" = some ⟨"java.awt", "List"⟩ ∧
    "java.util.List" =
      (if unit.owner? "List" = some ⟨"java.util", "List"⟩ then "List" else "java.util.List") ∧
    (empty "a").records types = ["java.awt.List", "java.util.Set"] := by
  intro earlier types names unit printed
  obtain ⟨howners, hprinted, -, -, hrecords⟩ := table_eq_first_claimants "a" types
  have houtcome : (names.request "java.util.List").outcome = .ok "java.util.List" := by
    decide +kernel
  have hmem : (.name "java.util.List", "java.util.List") ∈ printed := by decide +kernel
  have hq : ofRaw? "java.util.List" = some ⟨⟨"java.util", "List"⟩, []⟩ := by decide +kernel
  obtain ⟨hanswer, hnames⟩ := hprinted earlier "java.util.List" [] rfl
  refine ⟨rfl, houtcome, hanswer _ houtcome, hmem, hq, ?_, hnames _ _ hmem _ hq, ?_⟩
  · rw [howners]
    decide +kernel
  · rw [hrecords]
    decide +kernel

end ImportTable

end DataMethods
