import DataMethods.MethodSpec.Basic
import DataMethods.Value

/-!
# What is handed in for a field

Callers may hand in anything for a field of a specification: a `Value`, a kind of argument, or some
other object, of which no more is known than specifications ask for. A kind of argument is not its
word. An operation is no case of its own, since it is the same as its word, which is a text.

Values and kinds of argument can always be shown. A foreign object may raise something instead, as a
whole number of too many digits does.
-/

namespace DataMethods

/-- What is raised: its kind and its message. -/
structure Raised where
  kind : String
  message : String
deriving Repr, DecidableEq

/-- An object that is neither a value nor a kind of argument, by what specifications ask of it. It
equals none of their words. -/
structure ForeignObject where
  /-- The name of its kind. -/
  kindName : String
  /-- Does it count as true? -/
  truth : Bool
  /-- The text that shows it, or what it raises instead. -/
  shown : Except Raised String

/-- What callers hand in for a field of a specification. -/
inductive FieldValue where
  /-- A value, such as a text of JSON brings in. -/
  | value (v : Value)
  /-- A kind of argument. Its word is a value. -/
  | kind (kind : ArgumentKind)
  /-- Any other object. -/
  | foreign (object : ForeignObject)

namespace FieldValue

/-- A text. -/
@[match_pattern] abbrev str (s : String) : FieldValue := .value (.str s)

/-- A truth value. -/
abbrev bool (b : Bool) : FieldValue := .value (.bool b)

theorem str_inj {s t : String} : str s = str t ↔ s = t := by simp

/-- What showing a whole number beyond the limit of digits raises. -/
def tooManyDigits : Raised :=
  ⟨"ValueError", "Exceeds the limit (" ++ toString digitLimit ++ " digits) for integer string " ++
    "conversion; use sys.set_int_max_str_digits() to increase the limit"⟩

/-- A whole number of any length. One that is beyond the limit of digits is a foreign object. -/
def ofInt (n : Int) : FieldValue :=
  if h : n.natAbs < Nat.pow 10 digitLimit then .value (.int ⟨n, h⟩)
  else .foreign ⟨"int", true, .error tooManyDigits⟩

example : ofInt (Nat.pow 10 digitLimit) = .foreign ⟨"int", true, .error tooManyDigits⟩ :=
  dif_neg (by decide +kernel)

/-- The name of the kind of what is handed in. -/
def kindName : FieldValue → String
  | .value v => v.kindName
  | .kind _ => "ParameterKind"
  | .foreign object => object.kindName

/-- Does it count as true? -/
def truth : FieldValue → Bool
  | .value v => v.truth
  | .kind _ => true
  | .foreign object => object.truth

/-- The text that shows in a message what is handed in, or what is raised instead. -/
def shown : FieldValue → Except Raised String
  | .value v => .ok v.shown
  | .kind k =>
    .ok ("<ParameterKind." ++ String.ofList (k.word.toList.map Char.toUpper) ++ ": " ++
      Value.quote k.word ++ ">")
  | .foreign object => object.shown

/-- Only foreign objects cannot be shown. -/
theorem shown_eq_error_iff {v : FieldValue} {fault : Raised} :
    v.shown = .error fault ↔ ∃ object, v = .foreign object ∧ object.shown = .error fault := by
  cases v <;> simp [shown]

end FieldValue

end DataMethods
