import DataMethods.Text.Printable

/-!
# Quoted text

A text is shown between quotation marks: apostrophes, or double quotes for a text that holds an
apostrophe and no double quote. Inside, the mark and the backslash follow a backslash; tab, line
feed and carriage return are `\t`, `\n` and `\r`; any other character that is not printable is
written by its code point in two, four or eight hexadecimal digits.
-/

namespace DataMethods.Text

/-- The last `width` hexadecimal digits of `n`, in lower case. -/
def hexDigits : Nat → Nat → List Char
  | 0, _ => []
  | width + 1, n => hexDigits width (n / 16) ++ [Nat.digitChar (n % 16)]

/-- The code point of a character, by the shortest of the three forms that has room for it. -/
def escapedCode (c : Char) : List Char :=
  let n := c.toNat
  if n < 0x100 then '\x5c' :: 'x' :: hexDigits 2 n
  else if n < 0x10000 then '\x5c' :: 'u' :: hexDigits 4 n
  else '\x5c' :: 'U' :: hexDigits 8 n

/-- One character of a text that stands between two `mark`s. -/
def quotedChar (mark c : Char) : List Char :=
  if c == mark || c == '\x5c' then ['\x5c', c]
  else if c == '\t' then ['\x5c', 't']
  else if c == '\n' then ['\x5c', 'n']
  else if c == '\r' then ['\x5c', 'r']
  else if isPrintable c then [c]
  else escapedCode c

/-- The quotation mark for a text. -/
def quotationMark (s : List Char) : Char :=
  if s.contains '\x27' && !s.contains '\x22' then '\x22' else '\x27'

/-- The text between quotation marks. -/
def quoted (s : List Char) : List Char :=
  let mark := quotationMark s
  mark :: s.flatMap (quotedChar mark) ++ [mark]

end DataMethods.Text
