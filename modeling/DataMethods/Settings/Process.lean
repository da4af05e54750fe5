import DataMethods.Settings.Basic

/-!
# The settings of a process

A process builds its settings from its environment when they are first asked for and keeps them from
then on, whatever becomes of the environment. Settings that cannot be built are not kept. No
assignment changes the settings that are kept. All this holds for any builder of settings.
-/

namespace DataMethods

/-- The environment of a process, and the settings that it keeps. -/
structure SettingsProcess where
  environment : Environment
  kept : Option Settings
deriving Repr, DecidableEq

namespace SettingsProcess

/-- A process that has not asked for its settings. -/
def start (environment : Environment) : SettingsProcess := ⟨environment, none⟩

/-- The settings of the process. None of their values are given. -/
def settings (p : SettingsProcess) (build : Settings.Builder) :
    Except (List Problem) Settings × SettingsProcess :=
  match p.kept with
  | some s => (.ok s, p)
  | none =>
    match build [] p.environment with
    | .ok s => (.ok s, { p with kept := some s })
    | .error problems => (.error problems, p)

/-- Forgets the settings. -/
def clear (p : SettingsProcess) : SettingsProcess := { p with kept := none }

/-- Gives a variable a value. -/
def setVariable (p : SettingsProcess) (name value : String) : SettingsProcess :=
  { p with environment := p.environment.set name value }

/-- Removes a variable. -/
def unsetVariable (p : SettingsProcess) (name : String) : SettingsProcess :=
  { p with environment := p.environment.unset name }

/-- Is a name one for private notes? Such names begin with an underscore, and no setting has one. -/
def isPrivateName (name : String) : Bool := name.toList.head? == some '_'

/-- What comes of an attempt to give a name of the process's settings a value. The process has to
have settings first. They take private notes, which tell nothing of the settings; under any other
name they are frozen. -/
def assign (p : SettingsProcess) (build : Settings.Builder) (name : String) :
    Except (List Problem) Unit × SettingsProcess :=
  match p.settings build with
  | (.ok _, next) => (if isPrivateName name then .ok () else .error [⟨name, .frozen⟩], next)
  | (.error problems, next) => (.error problems, next)

end SettingsProcess

end DataMethods
