/-!
# Texts without regard to case

Some texts are compared without regard to the case of their letters, where only ASCII letters have a
case. `lowered` is the lower-case form of a text, and `alike` compares two texts by it.
-/

namespace DataMethods.Text

/-- A text with its ASCII letters in lower case. -/
def lowered (s : String) : List Char := s.toList.map Char.toLower

/-- Do two texts differ in the case of ASCII letters at most? -/
def alike (s t : String) : Bool := lowered s == lowered t

end DataMethods.Text
