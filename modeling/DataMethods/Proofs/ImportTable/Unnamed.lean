import DataMethods.Proofs.ImportTable.Claimants
import DataMethods.Proofs.ImportTable.Expressions
import Mathlib.Data.List.Forall2

/-!
# Imports without a package

An import declares where a type is from, so it consists of a package, a dot and a simple name. A
table never imports types of its own package or of the implicit one. But a nested type may be asked
for by a name that leaves out the package and begins with the outer type. Such an outer type counts
as one of the unnamed package, which is not the table's own, so the table imports it by its simple
name alone.

## Key results

- `claimant?_eq_unnamed_iff`: the raw names that claim a name for a type without a package
- `packagePart_of_mem_imports`: no import is from the own or the implicit package
- `unnamed_import_iff`: the runs in which there is an import without a package
-/

namespace DataMethods

open QualifiedName

/-! ## Names that leave out the package -/

namespace QualifiedName

/-- A first segment that does not begin in upper case belongs to the package, unless it is the only
    one. -/
theorem splitSegments_cons_lower {first : List Char} {rest : List (List Char)}
    (hlower : startsUppercase first = false) (hrest : rest ≠ []) :
    (splitSegments (first :: rest)).1 = first :: (splitSegments rest).1 := by
  unfold splitSegments
  rw [List.dropWhile_cons_of_pos (by simp [hlower]), List.takeWhile_cons_of_pos (by simp [hlower])]
  cases rest.dropWhile (!startsUppercase ·) with
  | nil => exact List.dropLast_cons_of_ne_nil hrest
  | cons outer nested => rfl

theorem package_of_ofRaw? {raw : String} {q : QualifiedName} (h : ofRaw? raw = some q) :
    q.outer.package = dotted (splitSegments (Text.segments '.' raw.toList)).1 := by
  unfold ofRaw? at h
  split at h
  · contradiction
  · split at h
    · contradiction
    · next hsplit =>
      cases h
      rw [hsplit]

end QualifiedName

namespace TypeName

/-- The raw names in an expression, from left to right. -/
def Expr.names : {c : Category} → Expr c → List RawName
  | _, .raw name => [name]
  | _, .generic name row => name :: row.names
  | _, .dimension of _ => of.names
  | _, .wildcard => []
  | _, .bounded _ of => of.names
  | _, .plain type => type.names
  | _, .last a => a.names
  | _, .more a row => a.names ++ row.names

namespace RawName

/-- The outer type that a name claims a simple name for. -/
def claimant? (name : RawName) : Option OuterName :=
  (Piece.name name.text).claimant?

/-- The name has a dot, but no package: its first segment begins in upper case. -/
def LeavesOutPackage (name : RawName) : Prop :=
  '.' ∈ name.text.toList ∧ startsUppercase (firstSegment name.text).toList = true

instance (name : RawName) : Decidable name.LeavesOutPackage :=
  inferInstanceAs (Decidable (_ ∧ _))

/-- The names that claim a simple name for a type without a package are those that leave it out. The
    claim is for their first segment. -/
theorem claimant?_eq_unnamed_iff (name : RawName) (simple : String) :
    name.claimant? = some ⟨"", simple⟩ ↔
      name.LeavesOutPackage ∧ firstSegment name.text = simple := by
  obtain ⟨first, rest, hsegs⟩ :=
    List.exists_cons_of_ne_nil (Text.segments_ne_nil '.' name.text.toList)
  have hfirst : firstSegment name.text = String.ofList first := by
    rw [firstSegment, hsegs]
    rfl
  have hne : first ≠ [] := (name.segments_plain first (hsegs ▸ List.mem_cons_self)).1
  rw [claimant?, Piece.claimant?, LeavesOutPackage, hfirst, String.toList_ofList]
  by_cases hdot : '.' ∈ name.text.toList
  · cases hupper : startsUppercase first with
    | true =>
      have hsplit : splitSegments (Text.segments '.' name.text.toList) = ([], first, rest) := by
        simp [splitSegments, hsegs, hupper]
      rw [ofRaw?_of_splitSegments hdot hsplit hne]
      simp [hdot, dotted]
    | false =>
      -- There is a dot, so the first segment is not the only one.
      have hrest : rest ≠ [] := by
        rintro rfl
        have htext := Text.intercalate_segments '.' name.text.toList
        rw [hsegs, List.intercalate_singleton] at htext
        exact Text.not_mem_of_mem_segments (hsegs ▸ List.mem_cons_self) (htext ▸ hdot)
      have hpackage : ∀ q, ofRaw? name.text = some q → q.outer ≠ ⟨"", simple⟩ := by
        intro q hq houter
        have hempty := package_of_ofRaw? hq
        rw [hsegs, splitSegments_cons_lower hupper hrest, houter] at hempty
        exact dotted_cons_ne hne hempty.symm
      simpa using hpackage
  · simp [ofRaw?, hdot]

end RawName

/-- The pieces of an expression claim what the raw names in it claim. -/
theorem Expr.claimants_pieces {c : Category} (e : Expr c) :
    e.pieces.filterMap Piece.claimant? = e.names.filterMap RawName.claimant? := by
  have hmark (text : String) (rest : List Piece) :
      (Piece.mark text :: rest).filterMap Piece.claimant? = rest.filterMap Piece.claimant? := rfl
  induction e with
  | raw name => rfl
  | generic name row ih =>
    have hrow : (Piece.mark "<" :: (row.pieces ++ [.mark ">"])).filterMap Piece.claimant? =
        row.names.filterMap RawName.claimant? := by
      rw [hmark, List.filterMap_append, ih, hmark]
      exact List.append_nil _
    rw [pieces, names, List.filterMap_cons, hrow, List.filterMap_cons]
    rfl
  | dimension of d ih => rw [pieces, names, List.filterMap_append, ih, hmark]; simp
  | wildcard => rfl
  | bounded b of ih => rw [pieces, names, hmark, ih]
  | plain type ih => exact ih
  | last a ih => exact ih
  | more a row ih ihRow =>
    rw [pieces, names, List.filterMap_append, hmark, ih, ihRow, List.filterMap_append]

end TypeName

namespace ImportTable

open DataMethods.TypeName (RawName Expr)

/-! ## First claimants among raw names -/

/-- Texts that write types claim what the raw names of the types claim. -/
theorem claimants_written {types : List (Expr .type)} {texts : List String}
    (h : List.Forall₂ WritesType types texts) :
    claimants texts = (types.flatMap Expr.names).filterMap RawName.claimant? := by
  induction h with
  | nil => rfl
  | @cons type text types texts hwrites _ ih =>
    have hfirst : claimants (text :: texts) =
        (TypeName.read (Text.trim text.toList)).pieces.filterMap TypeName.Piece.claimant? ++
          claimants texts := List.flatMap_cons
    rw [hfirst, read_of_writesType hwrites, type.claimants_pieces, ih, List.flatMap_cons,
      List.filterMap_append]

/-- The first claimant of a simple name comes from the first raw name that claims it. -/
theorem find?_claimants_eq_some_iff {names : List RawName} {o : OuterName} :
    (names.filterMap RawName.claimant?).find? (·.simple == o.simple) = some o ↔
      ∃ earlier name later, names = earlier ++ name :: later ∧ name.claimant? = some o ∧
        ∀ other ∈ earlier, other.claimant?.map OuterName.simple ≠ some o.simple := by
  have hclaims (name : RawName) : (name.claimant?.any (·.simple == o.simple)) = true ↔
      name.claimant?.map OuterName.simple = some o.simple := by
    cases name.claimant? <;> simp
  rw [List.find?_filterMap, Option.bind_eq_some_iff]
  constructor
  · rintro ⟨name, hfind, hname⟩
    obtain ⟨-, earlier, later, hsplit, hearlier⟩ := List.find?_eq_some_iff_append.mp hfind
    refine ⟨earlier, name, later, hsplit, hname, fun other hother hother' => ?_⟩
    have hnot := hearlier other hother
    rw [(hclaims other).mpr hother'] at hnot
    contradiction
  · rintro ⟨earlier, name, later, hsplit, hname, hearlier⟩
    refine ⟨name, List.find?_eq_some_iff_append.mpr ⟨?_, earlier, later, hsplit, ?_⟩, hname⟩
    · rw [hclaims, hname, Option.map_some]
    · intro other hother
      rw [Bool.not_eq_true', ← Bool.not_eq_true, hclaims]
      exact hearlier other hother

/-! ## Imports -/

/-- No import is from the unit's own package or the implicit one. -/
theorem packagePart_of_mem_imports {t : ImportTable} (h : t.Dotless) {i : String}
    (hi : i ∈ t.imports) : packagePart i ≠ implicitPackage ∧ packagePart i ≠ t.package := by
  obtain ⟨o, howner, himplicit, hown, rfl⟩ := mem_imports_iff.mp hi
  rw [OuterName.packagePart_qualified (h o (owner?_mem howner).1)]
  exact ⟨himplicit, hown⟩

/-- A table imports a type without a package if one owns a simple name, unless the table is of the
    unnamed package itself. -/
theorem exists_dotless_import_iff {t : ImportTable} (h : t.Dotless) :
    (∃ i ∈ t.imports, '.' ∉ i.toList) ↔
      t.package ≠ "" ∧ ∃ simple, t.owner? simple = some ⟨"", simple⟩ := by
  constructor
  · rintro ⟨i, hi, hdot⟩
    obtain ⟨o, howner, -, hown, rfl⟩ := mem_imports_iff.mp hi
    rw [OuterName.dot_mem_qualified_iff (h o (owner?_mem howner).1), not_not] at hdot
    obtain ⟨package, simple⟩ := o
    obtain rfl : package = "" := hdot
    exact ⟨hown.symm, simple, howner⟩
  · rintro ⟨hnamed, simple, howner⟩
    have hexplicit : "" ≠ implicitPackage := by decide
    refine ⟨simple, mem_imports_iff.mpr ⟨⟨"", simple⟩, howner, hexplicit, hnamed.symm, rfl⟩, ?_⟩
    exact h _ (owner?_mem howner).1

/-- Types are asked for, each written in any way. No import is then from the unit's own package or
    the implicit one. But there is an import without a package if and only if the unit has one and
    a raw name that leaves out the package is the first of all raw names to claim its first
    segment. -/
theorem unnamed_import_iff (package : String) {types : List (Expr .type)} {texts : List String}
    (h : List.Forall₂ WritesType types texts) :
    let unit := NameResolver.after (empty package) texts
    (∀ i ∈ unit.imports, packagePart i ≠ implicitPackage ∧ packagePart i ≠ package) ∧
    ((∃ i ∈ unit.imports, '.' ∉ i.toList) ↔
      package ≠ "" ∧ ∃ earlier name later,
        types.flatMap Expr.names = earlier ++ name :: later ∧ name.LeavesOutPackage ∧
        ∀ other ∈ earlier,
          other.claimant?.map OuterName.simple ≠ some (firstSegment name.text)) := by
  intro unit
  have hdotless : unit.Dotless := (dotless_empty package).after texts
  have hpackage : unit.package = package := (after_growsTo (empty package) texts).package
  have howner (simple : String) : unit.owner? simple =
      ((types.flatMap Expr.names).filterMap RawName.claimant?).find? (·.simple == simple) := by
    rw [← claimants_written h]
    exact owner?_after_empty package texts simple
  refine ⟨fun i hi => hpackage ▸ packagePart_of_mem_imports hdotless hi, ?_⟩
  rw [exists_dotless_import_iff hdotless, hpackage]
  -- What is left to show: the owner without a package is the claimant of such a raw name.
  refine and_congr_right fun _ => ?_
  constructor
  · rintro ⟨simple, hfirst⟩
    rw [howner] at hfirst
    obtain ⟨earlier, name, later, hsplit, hname, hearlier⟩ :=
      (find?_claimants_eq_some_iff (o := ⟨"", simple⟩)).mp hfirst
    obtain ⟨hleaves, rfl⟩ := (name.claimant?_eq_unnamed_iff simple).mp hname
    exact ⟨earlier, name, later, hsplit, hleaves, hearlier⟩
  · rintro ⟨earlier, name, later, hsplit, hleaves, hearlier⟩
    have hname := (name.claimant?_eq_unnamed_iff (firstSegment name.text)).mpr ⟨hleaves, rfl⟩
    refine ⟨firstSegment name.text, ?_⟩
    rw [howner]
    exact find?_claimants_eq_some_iff.mpr ⟨earlier, name, later, hsplit, hname, hearlier⟩

/-- A set of entries is asked for, and then a map with its package, which comes too late. -/
theorem unnamed_import_entries :
    let set : RawName := ⟨"java.util.Set", by decide +kernel⟩
    let entry : RawName := ⟨"Map.Entry", by decide +kernel⟩
    let map : RawName := ⟨"org.util.Map", by decide +kernel⟩
    let types : List (Expr .type) := [.generic set (.last (.plain (.raw entry))), .raw map]
    let texts := ["java.util.Set< Map.Entry >", "org.util.Map"]
    let unit := NameResolver.after (empty "org.example") texts
    List.Forall₂ WritesType types texts ∧
    (∀ i ∈ unit.imports, packagePart i ≠ implicitPackage ∧ packagePart i ≠ "org.example") ∧
    ∃ i ∈ unit.imports, '.' ∉ i.toList := by
  intro set entry map types texts unit
  have hblank : Text.AllBlank [] := by decide
  have hspace : Text.AllBlank [' '] := by decide
  have hentries : WritesType (.generic set (.last (.plain (.raw entry))))
      "java.util.Set< Map.Entry >" :=
    ⟨[], _, [], hblank, .generic set hblank (.last hspace (.plain (.raw entry)) hspace), hblank,
      by decide +kernel⟩
  have hmap : WritesType (.raw map) "org.util.Map" :=
    ⟨[], _, [], hblank, .raw map, hblank, by decide +kernel⟩
  have hwrites : List.Forall₂ WritesType types texts := .cons hentries (.cons hmap .nil)
  obtain ⟨hpackages, hunnamed⟩ := unnamed_import_iff "org.example" hwrites
  refine ⟨hwrites, hpackages, hunnamed.mpr ⟨by decide, [set], entry, [map], rfl, ?_, ?_⟩⟩
  · decide +kernel
  · decide +kernel

/-- An entry of a map is asked for in a unit of a package. The map is imported as a type without a
    package. -/
theorem entry_imported :
    let entry : RawName := ⟨"Map.Entry", by decide +kernel⟩
    let unit := NameResolver.after (empty "org.example") ["Map.Entry"]
    List.Forall₂ WritesType [.raw entry] ["Map.Entry"] ∧
    unit.imports = ["Map"] ∧ '.' ∉ "Map".toList ∧ unit.declarations = "import Map;" := by
  intro entry unit
  have hwrites : WritesType (.raw entry) "Map.Entry" :=
    ⟨[], _, [], by decide, .raw entry, by decide, by decide⟩
  have himports : unit.imports = ["Map"] := by decide +kernel
  exact ⟨.cons hwrites .nil, himports, by decide, by rw [declarations, himports]; rfl⟩

end ImportTable

end DataMethods
