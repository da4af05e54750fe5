import DataMethods.Settings.Basic
import DataMethods.Text.Caseless

/-!
# A builder of settings

`Settings.build` is the builder that the program runs with. It stands in for one that reads a
setting from a given value, else from a variable of the environment, else takes a default. A
variable is not looked at if a value is given. The names of given values and of variables are read
without regard to case. All settings are checked, and every one that fails is reported.

It covers the names of settings and names that mean nothing. Names by which a builder itself is
directed are not told apart from the latter. Nothing that holds of all methods or of all processes
rests on it.
-/

namespace DataMethods

namespace Environment

/-- The value of the last variable with the given name, whatever the case of its letters. -/
def value? (env : Environment) (name : String) : Option String :=
  (env.reverse.find? fun (n, _) => Text.alike n name).map Prod.snd

end Environment

namespace ReactiveFailures

/-- The treatment that a word stands for. -/
def ofWord? (word : String) : Option ReactiveFailures :=
  [pass, recover].find? fun t => t.word == word

end ReactiveFailures

/-- The names of the settings. -/
inductive SettingField where
  | nonnullMarker
  | indent
  | reactiveFailures
  | emitOverride
deriving Repr, DecidableEq

namespace SettingField

/-- All settings, in the order in which they are checked. -/
def all : List SettingField := [.nonnullMarker, .indent, .reactiveFailures, .emitOverride]

/-- The name by which callers know a setting. -/
def label : SettingField → String
  | .nonnullMarker => "nonnull_annotation"
  | .indent => "indent"
  | .reactiveFailures => "reactive_exception_translation"
  | .emitOverride => "emit_override"

/-- The setting that a caller means by a name, whatever the case of its letters. -/
def ofName? (name : String) : Option SettingField :=
  all.find? fun field => Text.alike name field.label

/-- How the variables for settings begin. -/
def variableLead : String := "REPOGEN_"

/-- The variable for a setting. -/
def variableName (field : SettingField) : String :=
  variableLead ++ String.ofList (field.label.toList.map Char.toUpper)

end SettingField

namespace Settings

/-- The first value given for a setting, whatever the case of the letters in its name. -/
def given? (given : Given) (field : SettingField) : Option Value :=
  (given.find? fun (name, _) => Text.alike name field.label).map Prod.snd

/-- The value for a setting, unless the default holds. -/
def source? (given : Given) (env : Environment) (field : SettingField) : Option Value :=
  match given? given field with
  | some v => some v
  | none => (env.value? field.variableName).map .str

/-- The marker that a value stands for. -/
def readMarker : Option Value → Except ProblemCause { s : String // s ≠ "" }
  | none => .ok ⟨"jakarta.annotation.Nonnull", by decide⟩
  | some (.str s) => if h : s ≠ "" then .ok ⟨s, h⟩ else .error .tooShort
  | some _ => .error .notText

/-- The indentation that a value stands for. -/
def readIndent : Option Value → Except ProblemCause String
  | none => .ok "\t"
  | some (.str s) => .ok s
  | some _ => .error .notText

/-- The treatment of failures that a value stands for. -/
def readFailures : Option Value → Except ProblemCause ReactiveFailures
  | none => .ok .pass
  | some (.str s) =>
    match ReactiveFailures.ofWord? s with
    | some t => .ok t
    | none => .error .notChoice
  | some _ => .error .notChoice

/-- The words for false, in lower case. -/
def falseWords : List String := ["0", "off", "f", "false", "n", "no"]

/-- The words for true, in lower case. -/
def trueWords : List String := ["1", "on", "t", "true", "y", "yes"]

/-- The truth value that a text stands for, whatever the case of its letters. -/
def truthOfWord? (s : String) : Option Bool :=
  if (trueWords.map String.toList).contains (Text.lowered s) then some true
  else if (falseWords.map String.toList).contains (Text.lowered s) then some false
  else none

/-- Does a number fit a signed 64-bit word? -/
def fitsWord (n : Int) : Bool := -0x8000000000000000 ≤ n && n < 0x8000000000000000

/-- Is a real number a whole one that fits such a word? -/
def isWholeWord (x : Float) : Bool :=
  x.floor == x && -9223372036854775808 < x && x < 9223372036854775808

/-- The truth value that a value stands for. A number is read only if it is whole and fits a
word. -/
def readTruth : Option Value → Except ProblemCause Bool
  | none => .ok true
  | some (.bool b) => .ok b
  | some (.int n) =>
    if n.value = 0 then .ok false
    else if n.value = 1 then .ok true
    else .error (if fitsWord n.value then .unreadableTruth else .notTruth)
  | some (.real x) =>
    if x == 0 then .ok false
    else if x == 1 then .ok true
    else .error (if isWholeWord x then .unreadableTruth else .notTruth)
  | some (.str s) =>
    match truthOfWord? s with
    | some b => .ok b
    | none => .error .unreadableTruth
  | some _ => .error .notTruth

/-- The problem of a setting that could not be read. -/
def problem {α : Type} (field : SettingField) : Except ProblemCause α → List Problem
  | .ok _ => []
  | .error cause => [⟨field.label, cause⟩]

/-- The given names that are no settings. -/
def unknownNames (given : Given) : List Problem :=
  (given.filter fun (name, _) => (SettingField.ofName? name).isNone).map fun (name, _) =>
    ⟨name, .unknown⟩

/-- The settings for the given values in an environment, or everything that is wrong: the settings
that fail, in their order, and then the names that are no settings. -/
def build : Builder := fun given env =>
  let marker := readMarker (source? given env .nonnullMarker)
  let indent := readIndent (source? given env .indent)
  let failures := readFailures (source? given env .reactiveFailures)
  let override := readTruth (source? given env .emitOverride)
  match marker, indent, failures, override, unknownNames given with
  | .ok ⟨marker, ne⟩, .ok indent, .ok failures, .ok override, [] =>
    .ok ⟨marker, indent, failures, override, ne⟩
  | _, _, _, _, unknown =>
    .error (problem .nonnullMarker marker ++ problem .indent indent ++
      problem .reactiveFailures failures ++ problem .emitOverride override ++ unknown)

end Settings

end DataMethods
