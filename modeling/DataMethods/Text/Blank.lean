import DataMethods.Text.Ranges

/-!
# White space

Which characters count as white space, and the removal of it from the ends of a text (`trim`) or
from everywhere (`removeBlanks`). Trimming leaves a text that begins and ends with a character that
is not blank, and never makes it longer.
-/

namespace DataMethods.Text

/-- The white space characters: the Unicode property, and the four separators below the space. -/
def blankRanges : Ranges :=
  [(0x09, 0x0D), (0x1C, 0x20), (0x85, 0x85), (0xA0, 0xA0), (0x1680, 0x1680), (0x2000, 0x200A),
   (0x2028, 0x2029), (0x202F, 0x202F), (0x205F, 0x205F), (0x3000, 0x3000)]

/-- Is this character white space? -/
def isBlank (c : Char) : Bool :=
  blankRanges.holds c.toNat

/-- The text without the white space at its beginning. -/
def trimLeft (s : List Char) : List Char :=
  s.dropWhile isBlank

/-- The text without the white space at its end. -/
def trimRight : List Char → List Char
  | [] => []
  | c :: cs =>
    match trimRight cs with
    | [] => if isBlank c then [] else [c]
    | d :: ds => c :: d :: ds

/-- The text without the white space at its two ends. -/
def trim (s : List Char) : List Char :=
  trimRight (trimLeft s)

/-- The text without any white space. -/
def removeBlanks (s : List Char) : List Char :=
  s.filter fun c => !isBlank c

theorem length_trimLeft_le (s : List Char) : (trimLeft s).length ≤ s.length :=
  (List.dropWhile_sublist _).length_le

theorem length_trimRight_le (s : List Char) : (trimRight s).length ≤ s.length := by
  induction s with
  | nil => simp [trimRight]
  | cons c cs ih =>
    unfold trimRight
    split
    · split <;> simp
    · next d ds h => simpa [h] using ih

theorem length_trim_le (s : List Char) : (trim s).length ≤ s.length :=
  Nat.le_trans (length_trimRight_le _) (length_trimLeft_le _)

/-- The text `s` with the white space at its ends removed. -/
def trimmed (s : String) : String :=
  String.ofList (trim s.toList)

end DataMethods.Text
