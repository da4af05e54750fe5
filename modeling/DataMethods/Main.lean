import DataMethods.Sample
import DataMethods.Settings.Build

/-!
# The command line

Prints the sample under the settings of the environment.
-/

namespace DataMethods

/-- The variables of the process that settings are taken from. -/
def environmentOfProcess : IO Environment := do
  let found ← SettingField.all.mapM fun field => do
    let value ← IO.getEnv field.variableName
    return value.toList.map fun v => (field.variableName, v)
  return found.flatten

end DataMethods

open DataMethods in
/-- Prints the sample, or what is wrong with the settings. -/
def main : IO UInt32 := do
  match Settings.build [] (← environmentOfProcess) with
  | .error problems =>
    for problem in problems do
      IO.eprintln (problem.name ++ ": " ++ problem.cause.message)
    return 1
  | .ok settings =>
    match Sample.output settings with
    | .error e =>
      IO.eprintln e.message
      return 1
    | .ok text =>
      IO.print text
      return 0
