import DataMethods.Decimal.Plain
import DataMethods.Text.Quoted

/-!
# Values

The values that callers hand in for the fields of a specification, for settings and for the
variables of a template: null, truth values, whole numbers, real numbers, texts, lists and records.
These are the values that texts of JSON bring in. A reader of such texts takes no whole number of
more than `digitLimit` digits, and such a number could not be written either, so none is a value.

`Value.shown` is the text that a message shows for a value, `Value.text` the text that a template
prints: the two differ on texts only, which are printed without quotation marks. `Value.truth` is
what a condition makes of a value.
-/

namespace DataMethods

/-- How many digits a whole number may have that is read from a text or written into one. -/
def digitLimit : Nat := 4300

/-- A whole number within the limit of digits. -/
structure WholeNumber where
  value : Int
  value_lt : value.natAbs < Nat.pow 10 digitLimit

/-- A value of any kind. The fields of a record keep their order. -/
inductive Value where
  | null
  | bool (b : Bool)
  | int (n : WholeNumber)
  | real (x : Float)
  | str (s : String)
  | list (items : List Value)
  | record (fields : List (String × Value))

namespace Value

instance : Inhabited Value := ⟨.null⟩

/-- The name of a value's kind in messages. -/
def kindName : Value → String
  | .null => "NoneType"
  | .bool _ => "bool"
  | .int _ => "int"
  | .real _ => "float"
  | .str _ => "str"
  | .list _ => "list"
  | .record _ => "dict"

/-- Null, false, zero and everything empty count as false. -/
def truth : Value → Bool
  | .null => false
  | .bool b => b
  | .int n => n.value != 0
  | .real x => x != 0
  | .str s => s != ""
  | .list items => !items.isEmpty
  | .record fields => !fields.isEmpty

/-- The text between quotation marks. -/
def quote (s : String) : String :=
  String.ofList (Text.quoted s.toList)

mutual

/-- The text that shows a value in a message. -/
def shown : Value → String
  | .null => "None"
  | .bool true => "True"
  | .bool false => "False"
  | .int n => toString n.value
  | .real x => Decimal.floatText x
  | .str s => quote s
  | .list items => "[" ++ String.intercalate ", " (shownItems items) ++ "]"
  | .record fields => "\x7b" ++ String.intercalate ", " (shownFields fields) ++ "\x7d"

/-- The texts that show the items of a list. -/
def shownItems : List Value → List String
  | [] => []
  | v :: vs => shown v :: shownItems vs

/-- The texts that show the fields of a record, each name before its value. -/
def shownFields : List (String × Value) → List String
  | [] => []
  | (name, v) :: rest => (quote name ++ ": " ++ shown v) :: shownFields rest

end

/-- The text that a template prints for a value. -/
def text : Value → String
  | .str s => s
  | v => v.shown

@[simp] theorem text_str (s : String) : (Value.str s).text = s := rfl

@[simp] theorem truth_str (s : String) : (Value.str s).truth = (s != "") := rfl

@[simp] theorem truth_bool (b : Bool) : (Value.bool b).truth = b := rfl

end Value

end DataMethods
