import DataMethods.Text.Affix
import DataMethods.Text.Digit

/-!
# Brace patterns

A brace pattern is text with fields between single braces; a doubled brace stands for the brace
itself. A field holds the name of a value, and may end in `!s`, which asks for the value's text and
changes nothing. `fillPattern` reads the pattern from left to right, so the first fault counts; what
is put in for a field is not read again.

Fields have no more than that here. The conversions `!r` and `!a`, a layout behind a colon and a
part of a value, behind a dot or in brackets, are not read as such and end in an error.
-/

namespace DataMethods

/-- Why a brace pattern cannot be filled. -/
inductive PatternError where
  /-- The pattern ends in an opening brace. -/
  | loneOpen
  /-- A closing brace without a field. -/
  | loneClose
  /-- The pattern ends inside a field. -/
  | unclosedField
  /-- An opening brace inside a field. -/
  | openInField
  /-- The pattern ends behind an exclamation mark. -/
  | missingConversion
  /-- The pattern ends behind a conversion. -/
  | unclosedConversion
  /-- A conversion of more than one character. -/
  | longConversion
  /-- A conversion of no known kind. -/
  | unknownConversion (c : Char)
  /-- A field that asks for a value by its place. No value has one. -/
  | position (index : Nat)
  /-- A field whose name begins with the number of a place beyond all places. -/
  | longPosition
  /-- A field that asks for a value by a name that no value has. -/
  | unknownName (name : String)
deriving Repr, DecidableEq

namespace PatternError

/-- How a message shows a conversion: itself if it is a visible ASCII character, otherwise its code
point. -/
def shownConversion (c : Char) : String :=
  if 32 < c.toNat ∧ c.toNat < 127 then c.toString
  else "\\x" ++ String.ofList (Nat.toDigits 16 c.toNat)

/-- The message for a fault. For an unknown name it is the name. -/
def message : PatternError → String
  | .loneOpen => "Single '\x7b' encountered in format string"
  | .loneClose => "Single '\x7d' encountered in format string"
  | .unclosedField => "expected '\x7d' before end of string"
  | .openInField => "unexpected '\x7b' in field name"
  | .missingConversion => "end of string while looking for conversion specifier"
  | .unclosedConversion => "unmatched '\x7b' in format spec"
  | .longConversion => "expected ':' after conversion specifier"
  | .unknownConversion c => "Unknown conversion specifier " ++ shownConversion c
  | .position index =>
    "Replacement index " ++ toString index ++ " out of range for positional args tuple"
  | .longPosition => "Too many decimal digits in format string"
  | .unknownName name => name

end PatternError

/-- The values that the fields of a pattern name. -/
abbrev PatternValues := List (String × String)

/-- How many places there could be: places are counted in signed 64-bit words. -/
def placeCount : Nat := 0x8000000000000000

/-- The number of a place, read from its digits behind those that make `n`. A name with any other
character asks for no place, unless its digits have left the places before that character. -/
def placeNumber? (n : Nat) : List Char → Except PatternError (Option Nat)
  | [] => .ok (some n)
  | c :: name =>
    match Text.digitValue? c with
    | none => .ok none
    | some d =>
      if 10 * n + d < placeCount then placeNumber? (10 * n + d) name else .error .longPosition

/-- The value that a field asks for. A field without a name asks for the first place. -/
def patternValue (values : PatternValues) (name : List Char) : Except PatternError (List Char) := do
  match ← placeNumber? 0 name with
  | some index => .error (.position index)
  | none =>
    match values.lookup (String.ofList name) with
    | some v => .ok v.toList
    | none => .error (.unknownName (String.ofList name))

mutual

/-- Fills a pattern that begins outside all fields. -/
def fillText (values : PatternValues) : List Char → Except PatternError (List Char)
  | [] => .ok []
  | '{' :: '{' :: s => do return '{' :: (← fillText values s)
  | ['{'] => .error .loneOpen
  | '{' :: c :: s => fillField values [] (c :: s)
  | '}' :: '}' :: s => do return '}' :: (← fillText values s)
  | '}' :: _ => .error .loneClose
  | c :: s => do return c :: (← fillText values s)

/-- Fills a pattern that begins inside a field. The characters of the field's name before it come
last one first. The only conversion is `!s`: `!r` and `!a` are unknown ones, and `:`, `.` and `[`
are characters of the name, which then no value has. -/
def fillField (values : PatternValues) (before : List Char) :
    List Char → Except PatternError (List Char)
  | [] => .error .unclosedField
  | '}' :: s => do
    let v ← patternValue values before.reverse
    return v ++ (← fillText values s)
  | '{' :: _ => .error .openInField
  | ['!'] => .error .missingConversion
  | ['!', _] => .error .unclosedConversion
  | '!' :: c :: '}' :: s => do
    let v ← patternValue values before.reverse
    if c = 's' then return v ++ (← fillText values s) else .error (.unknownConversion c)
  | '!' :: _ :: _ :: _ => .error .longConversion
  | c :: s => fillField values (c :: before) s

end

/-- The text of a pattern with the given values in its fields. -/
def fillPattern (values : PatternValues) (pattern : String) : Except PatternError String :=
  (fillText values pattern.toList).map String.ofList

end DataMethods
