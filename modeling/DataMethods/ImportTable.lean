import DataMethods.NameResolver
import DataMethods.Text.Uppercase

/-!
# Import tables

A generated unit prints a type by its simple name where the name is free, and imports the type for
it. `ImportTable` records which outer type owns each simple name: the first type that asks for a
name keeps it, and any other type with that simple name is printed in full. `ImportTable.imports`
are the owners from other packages than the unit's own and the one that is always visible, in
ascending order.

The printed text depends on the owners alone, so the package of the unit decides about imports only.
-/

namespace DataMethods

/-- A type that is not nested in another one. The unnamed package is the empty text. -/
structure OuterName where
  package : String
  simple : String
deriving Repr, DecidableEq

namespace OuterName

/-- The name with its package. -/
def qualified (o : OuterName) : String :=
  if o.package = "" then o.simple else o.package ++ "." ++ o.simple

end OuterName

/-- A name with its package: an outer type, and the path to a type nested in it. -/
structure QualifiedName where
  outer : OuterName
  nested : List String
deriving Repr, DecidableEq

namespace QualifiedName

/-- Does the segment begin with an upper-case character? -/
def startsUppercase : List Char → Bool
  | [] => false
  | c :: _ => Text.isUppercase c

/-- Joins segments by dots. -/
def dotted (segments : List (List Char)) : String :=
  String.ofList (['.'].intercalate segments)

/-- Splits the segments of a name into the package, the outer type and the rest: the outer type is
the first segment that begins in upper case, or the last one if none does. -/
def splitSegments (segments : List (List Char)) :
    List (List Char) × List Char × List (List Char) :=
  match segments.dropWhile (!startsUppercase ·) with
  | outer :: nested => (segments.takeWhile (!startsUppercase ·), outer, nested)
  | [] => (segments.dropLast, segments.getLast?.getD [], [])

/-- Takes a raw name apart. A name without a dot, or whose outer segment is empty, is not
qualified. -/
def ofRaw? (raw : String) : Option QualifiedName :=
  if '.' ∉ raw.toList then none
  else
    match splitSegments (Text.segments '.' raw.toList) with
    | (_, [], _) => none
    | (package, outer, nested) =>
      some ⟨⟨dotted package, String.ofList outer⟩, nested.map String.ofList⟩

/-- The name without its package. -/
def short (q : QualifiedName) : String :=
  ".".intercalate (q.outer.simple :: q.nested)

end QualifiedName

/-- The owners of the simple names of one unit. -/
structure ImportTable where
  /-- The package of the unit. -/
  package : String
  /-- The owners, in the order in which they claimed their names. -/
  owners : List OuterName
  /-- No two owners have the same simple name. -/
  distinct : owners.Pairwise (fun a b => a.simple ≠ b.simple)
deriving Repr, DecidableEq

namespace ImportTable

/-- The table of a unit in which no name is taken. -/
def empty (package : String) : ImportTable :=
  ⟨package, [], .nil⟩

/-- The owner of a simple name. -/
def owner? (t : ImportTable) (simple : String) : Option OuterName :=
  t.owners.find? fun o => o.simple == simple

theorem owner?_eq_none_iff {t : ImportTable} {simple : String} :
    t.owner? simple = none ↔ ∀ o ∈ t.owners, o.simple ≠ simple := by
  simp [owner?]

/-- Lets a type own its simple name, unless the name has an owner. -/
def claim (t : ImportTable) (o : OuterName) : ImportTable :=
  match h : t.owner? o.simple with
  | some _ => t
  | none =>
    { t with
      owners := t.owners ++ [o]
      distinct := by
        have := owner?_eq_none_iff.1 h
        simpa [List.pairwise_append, t.distinct] using this }

/-- The package whose types are visible without an import. -/
def implicitPackage : String := "java.lang"

/-- Is the type visible only through an import? -/
def needsImport (t : ImportTable) (o : OuterName) : Bool :=
  o.package ≠ implicitPackage && o.package ≠ t.package

/-- The recorded imports, in the order in which they were recorded. -/
def recorded (t : ImportTable) : List String :=
  (t.owners.filter t.needsImport).map OuterName.qualified

/-- The recorded imports in ascending order. -/
def imports (t : ImportTable) : List String :=
  t.recorded.mergeSort fun a b => decide (a ≤ b)

/-- The import declarations, one a line. -/
def declarations (t : ImportTable) : String :=
  "\n".intercalate (t.imports.map fun name => "import " ++ name ++ ";")

/-- Prints a raw name: without its package if its outer type owns the simple name, as it is
otherwise. A name that is free is claimed first. -/
def printName (t : ImportTable) (raw : String) : String × ImportTable :=
  match QualifiedName.ofRaw? raw with
  | none => (raw, t)
  | some q =>
    let claimed := t.claim q.outer
    (if claimed.owner? q.outer.simple = some q.outer then q.short else raw, claimed)

/-- Prints the pieces of a type from left to right. -/
def printPieces (t : ImportTable) : List TypeName.Piece → String × ImportTable
  | [] => ("", t)
  | .mark text :: rest =>
    let (printed, final) := t.printPieces rest
    (text ++ printed, final)
  | .name raw :: rest =>
    let (first, next) := t.printName raw
    let (printed, final) := next.printPieces rest
    (first ++ printed, final)

/-- Prints a type. If its text has a fault, the names before the fault have been claimed all the
same. -/
def request (t : ImportTable) (type : String) : Answer ImportTable :=
  let reading := TypeName.read (Text.trim type.toList)
  let (printed, final) := t.printPieces reading.pieces
  { outcome := match reading.fault with
      | some fault => .error fault
      | none => .ok printed
    state := final
    recorded := final.recorded.drop t.recorded.length }

instance : NameResolver ImportTable := ⟨request⟩

end ImportTable

end DataMethods
