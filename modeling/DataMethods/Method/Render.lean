import DataMethods.CallForm.Basic
import DataMethods.Failure
import DataMethods.Settings.Basic

/-!
# The text of generated methods

A generated method is written in eight parts, in a fixed order; some of them are empty. A blocking
method guards its argument, calls the session inside a try statement and rethrows failures in catch
clauses. A reactive method returns one pipeline, which begins with the call and may go on with the
argument as its result and with stages that recover from failures.

`Method.renderParts` writes the parts one by one, `Method.render` puts them together.
-/

namespace DataMethods

/-- The parts of a method, from top to bottom. -/
inductive MethodPart where
  | header
  | nullGuard
  | tryOpen
  | delegate
  | result
  | tryClose
  | failures
  | close
deriving Repr, DecidableEq

namespace MethodPart

/-- All parts, in the order in which they are written. -/
def all : List MethodPart :=
  [.header, .nullGuard, .tryOpen, .delegate, .result, .tryClose, .failures, .close]

/-- The word for a part. -/
def word : MethodPart → String
  | .header => "header"
  | .nullGuard => "null_guard"
  | .tryOpen => "try_open"
  | .delegate => "delegate"
  | .result => "return"
  | .tryClose => "try_close"
  | .failures => "translate"
  | .close => "close"

end MethodPart

namespace Method

open Template.Fragment

/-! ## Fragments -/

/-- The fragment of the header. -/
def header : String := source
  [plain "\n", whenTrue "override", plain "\n@Override\n", finish,
   plain "\npublic ", slot "result", plain " ", slot "method", plain "(",
   whenTrue "nonnull", plain "@", slot "nonnull", plain " ", finish,
   slot "type", plain " ", slot "argument", plain ") \x7b\n"]

/-- The fragment of the guard against null. -/
def nullGuard : String := source
  [slot "indent", plain "if (", slot "argument",
   plain " == null) throw new IllegalArgumentException(\"Null ", slot "argument", plain "\");\n"]

/-- The fragment of a call that waits. -/
def blockingCall : String := source
  [whenTrue "choosing", plain "\n",
   slot "indent", plain "if (", slot "session", plain ".getIdentifier(", slot "argument",
   plain ") == null)\n",
   slot "nested", slot "session", plain ".insert", slot "tail", plain ";\n",
   slot "indent", plain "else\n",
   slot "nested", slot "session", plain ".", slot "operation", slot "tail", plain ";\n",
   otherwise, plain "\n",
   slot "indent", slot "session", plain ".", slot "operation", slot "tail", plain ";\n",
   finish, plain "\n"]

/-- The fragment of a returned pipeline. -/
def reactiveCall : String := source
  [slot "indent", plain "return ",
   whenTrue "deferred", slot "field", plain ".chain(", slot "session", plain " -> ", finish,
   whenTrue "choosing",
   plain "(", slot "session", plain ".getIdentifier(", slot "argument", plain ") == null ? ",
   slot "session", plain ".insert(", slot "argument", plain ") : ",
   slot "session", plain ".", slot "operation", slot "tail", plain ")",
   otherwise, slot "session", plain ".", slot "operation", slot "tail", finish,
   whenTrue "deferred", plain ")", finish]

/-! ## Parts -/

/-- What all parts of a method share. -/
structure Plan where
  /-- The options. -/
  settings : Settings
  /-- The method. -/
  method : MethodSpec
  /-- What follows the name of the session operation. -/
  tail : String

variable {σ : Type} [NameResolver σ]

/-- The type that the method returns, given the printed type of its argument. -/
def resultType (m : MethodSpec) (type : String) : Rendering σ String :=
  match m.style with
  | .blocking => return if m.returnsArgument then type else "void"
  | .reactive => do
    let uni ← Rendering.printType Session.uniType
    return uni ++ "<" ++ (if m.returnsArgument then type else "Void") ++ ">"

/-- The header. The argument's type is asked for first, then that of the result, then the
annotation. -/
def renderHeader (plan : Plan) : Rendering σ String := do
  let m := plan.method
  let type ← Rendering.printType m.entityType
  let result ← resultType m type
  let nonnull ←
    if m.marksNonnull then Rendering.printType plan.settings.nonnullMarker else pure ""
  Rendering.fillFragment header
    [("override", .bool (plan.settings.emitOverride && m.overrides)), ("result", .str result),
     ("method", .str m.methodName), ("nonnull", .str nonnull), ("type", .str type),
     ("argument", .str m.argumentName)]

/-- The guard against null. -/
def renderNullGuard (plan : Plan) : Rendering σ String :=
  Rendering.fillFragment nullGuard
    [("indent", .str (indentation 1 plan.settings.indent)),
     ("argument", .str plan.method.argumentName)]

/-- The beginning of the try statement. -/
def renderTryOpen (plan : Plan) : Rendering σ String :=
  match plan.method.style with
  | .reactive => return ""
  | .blocking => return indentation 1 plan.settings.indent ++ "try \x7b\n"

/-- The call of the session. -/
def renderDelegate (plan : Plan) : Rendering σ String := do
  let m := plan.method
  if m.choosesByIdentifier then Rendering.note (.choosing m.methodName)
  match m.style with
  | .reactive =>
    Rendering.fillFragment reactiveCall
      [("indent", .str (indentation 1 plan.settings.indent)), ("deferred", .bool m.isDeferred),
       ("field", .str m.sessionName), ("session", .str m.localSession),
       ("choosing", .bool m.choosesByIdentifier), ("argument", .str m.argumentName),
       ("operation", .str m.operation.word), ("tail", .str plan.tail)]
  | .blocking =>
    Rendering.fillFragment blockingCall
      [("indent", .str (indentation 2 plan.settings.indent)),
       ("nested", .str (indentation 3 plan.settings.indent)), ("session", .str m.sessionName),
       ("choosing", .bool m.choosesByIdentifier), ("argument", .str m.argumentName),
       ("operation", .str m.operation.word), ("tail", .str plan.tail)]

/-- The return of the argument. -/
def renderResult (plan : Plan) : Rendering σ String :=
  let m := plan.method
  if m.returnsArgument then
    match m.style with
    | .reactive =>
      return "\n" ++ indentation 3 plan.settings.indent ++ ".replaceWith(" ++ m.argumentName ++ ")"
    | .blocking =>
      return indentation 2 plan.settings.indent ++ "return " ++ m.argumentName ++ ";\n"
  else return ""

/-- The end of the try statement. -/
def renderTryClose (plan : Plan) : Rendering σ String :=
  match plan.method.style with
  | .reactive => return ""
  | .blocking => return indentation 1 plan.settings.indent ++ "\x7d\n"

/-- The treatment of failures. A reactive method has one only if the settings ask for it. -/
def renderFailures (plan : Plan) : Rendering σ String :=
  let mappings := FailureMapping.forOperation plan.method.operation
  match plan.method.style, plan.settings.reactiveFailures with
  | .blocking, _ => FailureMapping.renderCatches plan.settings.indent mappings
  | .reactive, .recover => FailureMapping.renderStages plan.settings.indent mappings
  | .reactive, .pass => return ""

/-- The end of the method. -/
def renderClose (plan : Plan) : Rendering σ String :=
  match plan.method.style with
  | .reactive => return ";\n\x7d"
  | .blocking => return "\x7d"

/-- One part of a method. -/
def renderPart (plan : Plan) : MethodPart → Rendering σ String
  | .header => renderHeader plan
  | .nullGuard => renderNullGuard plan
  | .tryOpen => renderTryOpen plan
  | .delegate => renderDelegate plan
  | .result => renderResult plan
  | .tryClose => renderTryClose plan
  | .failures => renderFailures plan
  | .close => renderClose plan

/-! ## Methods -/

/-- Settles how the session is called, and writes it down. -/
def plan (settings : Settings) (m : MethodSpec) : Rendering σ Plan := do
  match CallForm.select m.kind m.style m.operation with
  | .error e => throw e
  | .ok form =>
    let tail ← form.render m.argumentName
    Rendering.note (.planned m)
    return ⟨settings, m, tail⟩

/-- All parts of a method with their texts. -/
def renderParts (settings : Settings) (m : MethodSpec) :
    Rendering σ (List (MethodPart × String)) := do
  let plan ← plan settings m
  MethodPart.all.mapM fun part => do return (part, ← renderPart plan part)

/-- The text of a method. -/
def render (settings : Settings) (m : MethodSpec) : Rendering σ String := do
  return String.join ((← renderParts settings m).map Prod.snd)

end Method

end DataMethods
