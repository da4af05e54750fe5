import DataMethods.CallForm.Pattern
import DataMethods.MethodSpec.Basic
import DataMethods.NameResolver
import DataMethods.Template.Fill

/-!
# Rendering

Generated text is written while a name resolver is asked for the printed form of types. `Rendering`
is a computation that does so: it carries the resolver's state and a journal of what happened, and
stops at the first error, with both as they are then.
-/

namespace DataMethods

/-- What happens while text is written. -/
inductive Event where
  /-- The resolver was asked for a type. -/
  | requested (type : String)
  /-- The resolver recorded an import. -/
  | imported (name : String)
  /-- The plan for a method was settled. -/
  | planned (method : MethodSpec)
  /-- The named method inserts or upserts by the presence of an identifier. -/
  | choosing (methodName : String)
deriving DecidableEq

namespace Event

/-- The word for a truth value. -/
def word (b : Bool) : String :=
  if b then "True" else "False"

/-- The line in the log for an event. Requests leave none. -/
def message? : Event → Option String
  | .requested _ => none
  | .imported name => some ("Recorded import " ++ name)
  | .planned m =>
    some ("Lifecycle method strategy: method=" ++ m.methodName ++
      " operation=" ++ m.operation.word ++ " parameter_kind=" ++ m.kind.word ++
      " style=" ++ m.style.word ++ " returns_argument=" ++ word m.returnsArgument ++
      " generated_id_upsert=" ++ word m.choosesByIdentifier ++
      " reactive_session_access=" ++ word m.isDeferred)
  | .choosing methodName =>
    some ("Emitting identifier-presence branch for generated-id upsert '" ++ methodName ++ "'")

end Event

/-- Why text cannot be written. -/
inductive RenderError where
  /-- The resolver refused a type. -/
  | type (fault : MalformedType)
  /-- The source of a fragment is no template. -/
  | fragment (error : Template.CompileError)
  /-- A fragment cannot be filled. -/
  | filling (error : Template.FillError)
  /-- The pattern of a call cannot be filled. -/
  | pattern (error : PatternError)
  /-- Sessions upsert no lists. -/
  | listUpsert
deriving Repr, DecidableEq

namespace RenderError

/-- The message for an error. -/
def message : RenderError → String
  | .type fault => fault.message
  | .fragment error => error.message
  | .filling error => error.message
  | .pattern error => error.message
  | .listUpsert => "No bulk upsert exists for java.util.List arguments."

end RenderError

/-- The resolver's state and the journal, the latest event last. -/
structure Run (σ : Type) where
  names : σ
  journal : List Event

namespace Run

/-- A run at its beginning. -/
def start {σ : Type} (names : σ) : Run σ := ⟨names, []⟩

/-- The types asked for, in order. -/
def requests {σ : Type} (run : Run σ) : List String :=
  run.journal.filterMap fun
    | .requested type => some type
    | _ => none

/-- The lines of the log, in order. -/
def log {σ : Type} (run : Run σ) : List String :=
  run.journal.filterMap Event.message?

end Run

/-- A computation that writes text with a resolver's help. -/
abbrev Rendering (σ α : Type) := ExceptT RenderError (StateM (Run σ)) α

namespace Rendering

variable {σ : Type}

/-- Writes down an event. -/
def note (event : Event) : Rendering σ Unit :=
  modify fun run => { run with journal := run.journal ++ [event] }

/-- The printed form of a type. -/
def printType [NameResolver σ] (type : String) : Rendering σ String := do
  let run ← get
  let answer := NameResolver.request run.names type
  set ({ names := answer.state
         journal := run.journal ++ .requested type :: answer.recorded.map .imported } : Run σ)
  match answer.outcome with
  | .ok text => return text
  | .error fault => throw (.type fault)

/-- The result of filling a fragment. -/
def fillFragment (source : String) (context : Template.Context) : Rendering σ String :=
  match Template.compile source with
  | .error e => throw (.fragment e)
  | .ok t =>
    match t.fill context with
    | .error e => throw (.filling e)
    | .ok text => return text

/-- Runs a computation from a state of the resolver. -/
def start {α : Type} (r : Rendering σ α) (names : σ) : Except RenderError α × Run σ :=
  StateT.run (ExceptT.run r) (Run.start names)

end Rendering

end DataMethods
