import DataMethods.Template.Chunk

/-!
# Fragments

The generator's own templates are written down as rows of chunks. `Fragment.source` is the source of
such a row, which is compiled like any other.
-/

namespace DataMethods.Template.Fragment

/-- Plain text. -/
def plain (s : String) : Chunk := .text s.toList

/-- The slot for a variable. -/
def slot (name : String) : Chunk := .slot (" " ++ name ++ " ").toList

/-- The block that opens a branch on a variable. -/
def whenTrue (name : String) : Chunk := .block (" if " ++ name ++ " ").toList

/-- The block between the two parts of a branch. -/
def otherwise : Chunk := .block " else ".toList

/-- The block that ends a branch. -/
def finish : Chunk := .block " endif ".toList

/-- The source of a fragment. -/
def source (cs : List Chunk) : String :=
  String.ofList (sourceOf cs)

/-- The indentation of a line: the unit, once for each level. -/
def indentation (depth : Nat) (unit : String) : String :=
  String.join (List.replicate depth unit)

theorem indentation_succ (depth : Nat) (unit : String) :
    indentation (depth + 1) unit = unit ++ indentation depth unit := by
  rw [indentation, List.replicate_succ, String.join_cons]
  rfl

end DataMethods.Template.Fragment
