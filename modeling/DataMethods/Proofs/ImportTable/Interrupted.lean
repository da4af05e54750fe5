import DataMethods.Proofs.ImportTable.Claimants
import DataMethods.Proofs.Rendering.Asks
import DataMethods.Proofs.Rendering.Refused
import DataMethods.Proofs.TypeName.RawNames

/-!
# What a refused request leaves

A request is refused when a fault is reached in its text, and by then the names in front of the
fault have been claimed. Whether it is refused, and for which fault, is the same for all tables. The
table that it leaves is one that granted requests lead to as well: requests for these names alone,
one after the other.

## Key results

- `request_state_eq_after`: a request moves a table as requests for the raw names in it do
- `refused_as_raw_names`: what a refused request leaves, in any table
-/

namespace DataMethods

open NameResolver DataMethods.TypeName

namespace ImportTable

/-- A raw text is always granted, and printed as the raw name that it is. -/
theorem request_of_isRawText {t : ImportTable} {raw : String} (h : IsRawText raw.toList) :
    (t.request raw).outcome = .ok (t.printName raw).1 ∧
      (t.request raw).state = (t.printName raw).2 := by
  have hpieces : t.printPieces [.name raw] = t.printName raw := by
    show ((t.printName raw).1 ++ "", (t.printName raw).2) = t.printName raw
    rw [String.append_empty]
  simp only [request, h.read_eq, Reading.name, String.ofList_toList, hpieces, and_self]

theorem grants_of_isRawText {raws : List String} (h : ∀ raw ∈ raws, IsRawText raw.toList)
    (t : ImportTable) : Grants t raws := by
  induction raws generalizing t with
  | nil => trivial
  | cons raw raws ih =>
    have hfirst := request_of_isRawText (t := t) (h raw List.mem_cons_self)
    exact ⟨⟨_, hfirst.1⟩, ih (fun r hr => h r (List.mem_cons_of_mem raw hr)) _⟩

/-- Pieces move a table as requests for the raw names among them do. -/
theorem printPieces_state_eq_after {pieces : List Piece}
    (h : ∀ raw ∈ pieces.filterMap Piece.raw?, IsRawText raw.toList) (t : ImportTable) :
    (t.printPieces pieces).2 = after t (pieces.filterMap Piece.raw?) := by
  induction pieces generalizing t with
  | nil => rfl
  | cons piece rest ih =>
    cases piece with
    | mark text => exact ih h t
    | name raw =>
      -- The first request leaves the table in which the other pieces are printed.
      have hnames : (Piece.name raw :: rest).filterMap Piece.raw? =
          raw :: rest.filterMap Piece.raw? := rfl
      rw [hnames, List.forall_mem_cons] at h
      have hfirst : (t.request raw).state = (t.printName raw).2 := (request_of_isRawText h.1).2
      have hrest := ih h.2 (t.request raw).state
      rw [hfirst] at hrest
      rw [hnames]
      show ((t.printName raw).2.printPieces rest).2 =
        after (t.request raw).state (rest.filterMap Piece.raw?)
      rw [hfirst, hrest]

/-- A request moves a table as requests for the raw names in its text do, up to a fault if there is
    one. -/
theorem request_state_eq_after (t : ImportTable) (type : String) :
    (t.request type).state = after t (read (Text.trim type.toList)).names :=
  printPieces_state_eq_after (spelled_read (Text.trim_trim _)).raw t

theorem GrowsTo.imports {t t' : ImportTable} (h : t.GrowsTo t') : t.imports ⊆ t'.imports := by
  intro i hi
  rw [(imports_perm t).mem_iff] at hi
  rw [(imports_perm t').mem_iff]
  exact h.recorded.subset hi

/-- A type is refused by all tables or by none, and always for the same fault. A table that refuses
    it keeps its owners and imports, and ends up as it does by requests for some raw names that
    stand in the type from left to right, each of which it grants. -/
theorem refused_as_raw_names (type : String) :
    (∀ (t t' : ImportTable) fault,
      (t.request type).outcome = .error fault ↔ (t'.request type).outcome = .error fault) ∧
    ∃ raws : List String, InOrder (raws.map String.toList) type.toList ∧
      (∀ raw ∈ raws, IsRawText raw.toList) ∧
      ∀ (t : ImportTable) fault, (t.request type).outcome = .error fault →
        t.GrowsTo (t.request type).state ∧ t.imports ⊆ (t.request type).state.imports ∧
        Grants t raws ∧ (t.request type).state = after t raws := by
  have hspelled := (spelled_read (Text.trim_trim type.toList)).of_trim
  constructor
  · intro t t' fault
    rw [request_eq_error_iff, request_eq_error_iff]
  · refine ⟨_, hspelled.inOrder, hspelled.raw, ?_⟩
    intro t fault _
    have hgrows := request_growsTo t type
    exact ⟨hgrows, hgrows.imports, grants_of_isRawText hspelled.raw t,
      request_state_eq_after t type⟩

/-- A map whose second argument is a generic type without arguments is refused, when the names of
    the map, of its first argument and of the generic type have been claimed. -/
theorem refused_as_raw_names_map :
    let type := "java.util.Map<java.util.Set, a.Book<>>"
    let t := empty "org.example"
    let t' := (t.request "b.Set").state
    (t.request type).outcome = .error (.arguments "") ∧
    (t'.request type).outcome = .error (.arguments "") ∧
    (t'.request type).state.recorded = ["b.Set", "java.util.Map", "a.Book"] ∧
    ∃ raws, InOrder (raws.map String.toList) type.toList ∧
      (t.request type).state = after t raws ∧ (t'.request type).state = after t' raws := by
  intro type t t'
  have hrefused : (t.request type).outcome = .error (.arguments "") := by decide +kernel
  have hrecorded : (t'.request type).state.recorded = ["b.Set", "java.util.Map", "a.Book"] := by
    decide +kernel
  obtain ⟨hsame, raws, horder, -, hstate⟩ := refused_as_raw_names type
  have hrefused' := (hsame t t' _).mp hrefused
  exact ⟨hrefused, hrefused', hrecorded, raws, horder, (hstate t _ hrefused).2.2.2,
    (hstate t' _ hrefused').2.2.2⟩

end ImportTable

end DataMethods
