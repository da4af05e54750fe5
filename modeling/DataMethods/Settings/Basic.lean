import DataMethods.Value

/-!
# Settings

The settings of the generator: the marker for arguments that are never null, the indentation, the
treatment of failures in reactive methods, and whether overriding methods are marked.

Settings are built from given values and from the variables of an environment. How this is done is
left open: a `Settings.Builder` is anything that builds them or reports what is wrong.
-/

namespace DataMethods

/-- Variables with their values. Names may differ in case only; the order is the order in which the
variables were first set. -/
abbrev Environment := List (String × String)

namespace Environment

/-- Gives a variable a value. A variable that is there keeps its place. -/
def set (env : Environment) (name value : String) : Environment :=
  if env.any fun (n, _) => n == name then
    env.map fun (n, v) => if n == name then (n, value) else (n, v)
  else env ++ [(name, value)]

/-- Removes a variable. -/
def unset (env : Environment) (name : String) : Environment :=
  env.filter fun (n, _) => n != name

end Environment

/-- What a reactive method does about failures. -/
inductive ReactiveFailures where
  /-- They pass as they are. -/
  | pass
  /-- They are handled in stages of the pipeline. -/
  | recover
deriving Repr, DecidableEq

namespace ReactiveFailures

/-- The word for a treatment. -/
def word : ReactiveFailures → String
  | .pass => "none"
  | .recover => "recover"

end ReactiveFailures

/-- The settings of the generator. -/
structure Settings where
  /-- The marker for an argument that is never null. -/
  nonnullMarker : String
  /-- One step of indentation. -/
  indent : String
  /-- What a reactive method does about failures. -/
  reactiveFailures : ReactiveFailures
  /-- Are overriding methods marked? -/
  emitOverride : Bool
  /-- There is a marker. -/
  nonnullMarker_ne : nonnullMarker ≠ ""
deriving Repr, DecidableEq

/-- What is wrong with a setting. -/
inductive ProblemCause where
  /-- The value is no text. -/
  | notText
  /-- The text is empty. -/
  | tooShort
  /-- The value is none of the choices. -/
  | notChoice
  /-- The value is of a kind that stands for no truth value, or a number that is not whole or does
  not fit a word. -/
  | notTruth
  /-- The text or number stands for no truth value. -/
  | unreadableTruth
  /-- There is no such setting. -/
  | unknown
  /-- Settings cannot be changed. -/
  | frozen
deriving Repr, DecidableEq

namespace ProblemCause

/-- The code of a cause. -/
def code : ProblemCause → String
  | .notText => "string_type"
  | .tooShort => "string_too_short"
  | .notChoice => "literal_error"
  | .notTruth => "bool_type"
  | .unreadableTruth => "bool_parsing"
  | .unknown => "extra_forbidden"
  | .frozen => "frozen_instance"

/-- The message for a cause. -/
def message : ProblemCause → String
  | .notText => "Input should be a valid string"
  | .tooShort => "String should have at least 1 character"
  | .notChoice => "Input should be 'none' or 'recover'"
  | .notTruth => "Input should be a valid boolean"
  | .unreadableTruth => "Input should be a valid boolean, unable to interpret input"
  | .unknown => "Extra inputs are not permitted"
  | .frozen => "Instance is frozen"

end ProblemCause

/-- A setting, by the name that the caller used, and what is wrong with it. -/
structure Problem where
  name : String
  cause : ProblemCause
deriving Repr, DecidableEq

namespace Settings

/-- The values given for settings, by name. -/
abbrev Given := List (String × Value)

/-- What builds settings from given values in an environment: the settings, or everything that is
wrong with them. -/
abbrev Builder := Given → Environment → Except (List Problem) Settings

end Settings

end DataMethods
