import DataMethods.ImportTable

/-!
# Growth of import tables

A table changes in one way only: a simple name that is free gets an owner. `GrowsTo` relates a table
to all its later states. Whatever was printed in a table, or refused, is printed or refused alike in
every later state, and asking again leaves that state as it is.

## Key results

- `request_growsTo`: a request makes a table grow, whether it is granted or refused
- `request_again`: a request is answered alike in all later states, which it does not change
-/

namespace DataMethods.ImportTable

/-- One table is a later state of another: the package is the same, and every owner is still there,
    in its place. -/
structure GrowsTo (t t' : ImportTable) : Prop where
  package : t'.package = t.package
  owners : t.owners <+: t'.owners

namespace GrowsTo

theorem refl (t : ImportTable) : t.GrowsTo t :=
  ⟨rfl, List.prefix_refl _⟩

theorem trans {t₁ t₂ t₃ : ImportTable} (h : t₁.GrowsTo t₂) (h' : t₂.GrowsTo t₃) :
    t₁.GrowsTo t₃ :=
  ⟨h'.package.trans h.package, h.owners.trans h'.owners⟩

/-- A simple name keeps its owner. -/
theorem owner? {t t' : ImportTable} (h : t.GrowsTo t') {simple : String} {o : OuterName}
    (ho : t.owner? simple = some o) : t'.owner? simple = some o := by
  obtain ⟨more, hmore⟩ := h.owners
  simp only [ImportTable.owner?] at ho ⊢
  rw [← hmore, List.find?_append, ho, Option.some_or]

theorem needsImport {t t' : ImportTable} (h : t.GrowsTo t') : t'.needsImport = t.needsImport := by
  funext o
  simp only [ImportTable.needsImport, h.package]

/-- The recorded imports stay, and new ones follow them. -/
theorem recorded {t t' : ImportTable} (h : t.GrowsTo t') : t.recorded <+: t'.recorded := by
  obtain ⟨more, hmore⟩ := h.owners
  simp only [ImportTable.recorded]
  rw [h.needsImport, ← hmore, List.filter_append, List.map_append]
  exact List.prefix_append _ _

end GrowsTo

/-! ## Claims -/

theorem owner?_mem {t : ImportTable} {simple : String} {o : OuterName}
    (h : t.owner? simple = some o) : o ∈ t.owners ∧ o.simple = simple :=
  ⟨List.mem_of_find?_eq_some h, by simpa using List.find?_some h⟩

/-- An owner is found under its simple name, since no two owners share one. -/
theorem owner?_eq_some_iff {t : ImportTable} {simple : String} {o : OuterName} :
    t.owner? simple = some o ↔ o ∈ t.owners ∧ o.simple = simple := by
  refine ⟨owner?_mem, ?_⟩
  intro ⟨hmem, hs⟩
  obtain ⟨before, after, hsplit⟩ := List.append_of_mem hmem
  have hdistinct := t.distinct
  rw [hsplit, List.pairwise_append] at hdistinct
  rw [ImportTable.owner?, List.find?_eq_some_iff_append]
  refine ⟨by simpa using hs, before, after, hsplit, ?_⟩
  intro a ha
  -- An earlier owner of the same simple name would contradict `distinct`.
  have hne := hdistinct.2.2 a ha o List.mem_cons_self
  simpa [← hs] using hne

/-- A claim on a name with an owner changes nothing. -/
theorem claim_eq_self {t : ImportTable} {o o' : OuterName} (h : t.owner? o.simple = some o') :
    t.claim o = t := by
  unfold claim
  split
  · rfl
  · -- The name would be free as well as owned.
    next h' =>
    rw [h] at h'
    cases h'

/-- A claim on a free name is granted. -/
theorem owners_claim {t : ImportTable} {o : OuterName} (h : t.owner? o.simple = none) :
    (t.claim o).owners = t.owners ++ [o] := by
  unfold claim
  split
  · next h' =>
    rw [h] at h'
    cases h'
  · rfl

@[simp] theorem package_claim (t : ImportTable) (o : OuterName) :
    (t.claim o).package = t.package := by
  unfold claim
  split <;> rfl

theorem claim_growsTo (t : ImportTable) (o : OuterName) : t.GrowsTo (t.claim o) := by
  cases h : t.owner? o.simple with
  | some o' =>
    rw [claim_eq_self h]
    exact .refl t
  | none =>
    have howners : t.owners <+: (t.claim o).owners := by
      rw [owners_claim h]
      exact List.prefix_append _ _
    exact ⟨package_claim t o, howners⟩

/-- After a claim the name has an owner: the one it had, or else the one that claimed it. -/
theorem owner?_claim (t : ImportTable) (o : OuterName) :
    (t.claim o).owner? o.simple = some ((t.owner? o.simple).getD o) := by
  cases h : t.owner? o.simple with
  | some o' => rw [claim_eq_self h, h, Option.getD_some]
  | none =>
    rw [owner?_eq_some_iff, owners_claim h]
    exact ⟨List.mem_append_right _ List.mem_cons_self, rfl⟩

/-! ## Names, pieces and requests -/

theorem printName_growsTo (t : ImportTable) (raw : String) : t.GrowsTo (t.printName raw).2 := by
  unfold printName
  split
  · exact .refl t
  · exact claim_growsTo t _

theorem printPieces_growsTo (t : ImportTable) (pieces : List TypeName.Piece) :
    t.GrowsTo (t.printPieces pieces).2 := by
  -- By induction on the pieces. Each is printed in the table that the one before it has left.
  induction pieces generalizing t with
  | nil => exact .refl t
  | cons piece rest ih =>
    cases piece with
    | mark text => exact ih t
    | name raw => exact (printName_growsTo t raw).trans (ih _)

/-- A request makes the table grow, whether it is granted or refused. -/
theorem request_growsTo (t : ImportTable) (type : String) : t.GrowsTo (t.request type).state :=
  printPieces_growsTo t _

/-- A raw name is printed in every later state as it was the first time. -/
theorem printName_again {t t' : ImportTable} {raw : String}
    (h : (t.printName raw).2.GrowsTo t') : t'.printName raw = ((t.printName raw).1, t') := by
  unfold printName at h ⊢
  cases hq : QualifiedName.ofRaw? raw with
  | none => rfl
  | some q =>
    simp only [hq] at h ⊢
    -- The name got an owner then and still has it, so the second claim changes nothing, and the
    -- owner is compared with the same outer type as before.
    have howner : t'.owner? q.outer.simple = some ((t.owner? q.outer.simple).getD q.outer) :=
      h.owner? (owner?_claim t q.outer)
    have hclaim : t'.claim q.outer = t' := claim_eq_self howner
    rw [hclaim, howner, owner?_claim]

theorem printPieces_again {t t' : ImportTable} {pieces : List TypeName.Piece}
    (h : (t.printPieces pieces).2.GrowsTo t') :
    t'.printPieces pieces = ((t.printPieces pieces).1, t') := by
  induction pieces generalizing t with
  | nil => rfl
  | cons piece rest ih =>
    cases piece with
    | mark text =>
      simp only [printPieces] at h ⊢
      rw [ih h]
    | name raw =>
      simp only [printPieces] at h ⊢
      -- The table has grown from the one after this name through the one after all pieces.
      have hname : (t.printName raw).2.GrowsTo t' := (printPieces_growsTo _ rest).trans h
      rw [printName_again hname]
      simp only [ih h]

/-- A request is answered alike in every later state, and the state stays as it is: neither an owner
    nor an import is added. -/
theorem request_again {t t' : ImportTable} {type : String}
    (h : (t.request type).state.GrowsTo t') :
    t'.request type = ⟨(t.request type).outcome, t', []⟩ := by
  simp only [request] at h ⊢
  -- What is recorded is what the owners have come to need beyond those before, so nothing here.
  rw [printPieces_again h, List.drop_length]

end DataMethods.ImportTable
