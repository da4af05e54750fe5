import DataMethods.Proofs.Method.Text

/-!
# The code of a method

The text of a method is more than a row of characters: it declares variables, refers to them, and
names types. `code` is the text together with what stands behind the names in it, part by part. In
this form the variables and the types of a method can be looked at, for every method at once.

## Key results

- `printAll_code`: the text of a method is its code, printed
- `allBareTypes_code`: the types that a method writes without asking for them
-/

namespace DataMethods

open Template.Fragment Rendering

namespace Method

/-- The variables that a method refers to. -/
inductive Variable where
  /-- The argument. -/
  | argument
  /-- The field that holds the session. -/
  | field
  /-- The session that a pipeline has unwrapped. -/
  | unwrapped
  /-- The failure that a catch clause treats. -/
  | caught
  /-- The failure that a stage of the pipeline treats. -/
  | failed
deriving DecidableEq

namespace Variable

/-- The name of a variable. The caller chooses two of them. -/
def name (m : MethodSpec) : Variable → String
  | argument => m.argumentName
  | field => m.sessionName
  | unwrapped => Session.unwrappedName
  | caught => "exception"
  | failed => "_ex"

end Variable

/-- A stretch of a method's text, with what it stands for. -/
inductive Code where
  /-- Text without a variable. -/
  | text (s : String)
  /-- A reference to a variable. -/
  | use (v : Variable)
  /-- A type, where the name of a variable could stand as well. -/
  | type (printed : String)
  /-- A type that is written by its simple name without asking for it. -/
  | bare (simple : String)
  /-- The declaration of a variable, and the code in which it is known. -/
  | scope (v : Variable) (body : List Code)

namespace Code

mutual

/-- The text of a stretch of code. -/
def print (m : MethodSpec) : Code → String
  | .text s => s
  | .use v => v.name m
  | .type printed => printed
  | .bare simple => simple
  | .scope v body => v.name m ++ printAll m body

/-- The text of code. -/
def printAll (m : MethodSpec) : List Code → String
  | [] => ""
  | c :: cs => c.print m ++ printAll m cs

end

mutual

/-- The types that a stretch of code writes without asking for them. -/
def bareTypes : Code → List String
  | .text _ => []
  | .use _ => []
  | .type _ => []
  | .bare simple => [simple]
  | .scope _ body => allBareTypes body

/-- The types that code writes without asking for them. -/
def allBareTypes : List Code → List String
  | [] => []
  | c :: cs => c.bareTypes ++ allBareTypes cs

end

variable {m : MethodSpec}

theorem printAll_append (xs ys : List Code) :
    printAll m (xs ++ ys) = printAll m xs ++ printAll m ys := by
  induction xs with
  | nil => simp [printAll]
  | cons c cs ih => simp only [List.cons_append, printAll, ih, String.append_assoc]

theorem allBareTypes_append (xs ys : List Code) :
    allBareTypes (xs ++ ys) = allBareTypes xs ++ allBareTypes ys := by
  induction xs with
  | nil => simp [allBareTypes]
  | cons c cs ih => simp only [List.cons_append, allBareTypes, ih, List.append_assoc]

theorem printAll_flatMap {α : Type} (f : α → List Code) (as : List α) :
    printAll m (as.flatMap f) = String.join (as.map fun a => printAll m (f a)) := by
  induction as with
  | nil => simp [printAll]
  | cons a as ih => rw [List.flatMap_cons, printAll_append, ih, List.map_cons, String.join_cons]

theorem allBareTypes_flatMap {α : Type} (f : α → List Code) (as : List α) :
    allBareTypes (as.flatMap f) = as.flatMap fun a => allBareTypes (f a) := by
  induction as with
  | nil => rfl
  | cons a as ih => rw [List.flatMap_cons, allBareTypes_append, ih, List.flatMap_cons]

end Code

/-! ## The code of the parts -/

/-- The type that the method returns. -/
def resultCode (m : MethodSpec) (entity uni : String) : List Code :=
  match m.style with
  | .blocking => [.text (if m.returnsArgument then entity else "void")]
  | .reactive =>
    [.text (uni ++ "<"), if m.returnsArgument then .text entity else .bare "Void", .text ">"]

/-- Everything up to the declaration of the argument. -/
def headCode (settings : Settings) (m : MethodSpec) (entity uni nonnull : String) : List Code :=
  [.text "\n"] ++
  (if settings.emitOverride && m.overrides then [.text "@", .bare "Override", .text "\n"]
    else []) ++
  [.text "public "] ++ resultCode m entity uni ++
  [.text (" " ++ m.methodName ++ "(" ++
    (if m.marksNonnull = true ∧ nonnull ≠ "" then "@" ++ nonnull ++ " " else "") ++ entity ++ " ")]

/-- The line that refuses null. The message names the argument, too, but does not refer to it. -/
def guardCode (settings : Settings) (m : MethodSpec) : List Code :=
  [.text (indentation 1 settings.indent ++ "if ("), .use .argument,
   .text " == null) throw new ", .bare "IllegalArgumentException",
   .text ("(\"Null " ++ m.argumentName ++ "\");\n")]

/-- The beginning of the try statement. -/
def openCode (settings : Settings) (m : MethodSpec) : List Code :=
  [.text (openText settings m)]

/-- The call behind the name of the operation. Only here a type stands where an expression may. -/
def tailCode (m : MethodSpec) (list : String) : List Code :=
  match m.kind, m.style with
  | .single, _ => [.text "(", .use .argument, .text ")"]
  | .array, .blocking =>
    [.text "Multiple(", .type list, .text ".of(", .use .argument, .text "))"]
  | .array, .reactive => [.text "All(", .use .argument, .text ")"]
  | .list, .blocking => [.text "Multiple(", .use .argument, .text ")"]
  | .list, .reactive => [.text "All(", .use .argument, .text ".toArray())"]

/-- The call of the session in a pipeline. -/
def pipelineCode (m : MethodSpec) (session : Variable) (list : String) : List Code :=
  if m.operation = .upsert ∧ m.generatesIdentifier = true then
    [.text "(", .use session, .text ".getIdentifier(", .use .argument, .text ") == null ? ",
     .use session, .text ".insert(", .use .argument, .text ") : ", .use session,
     .text ".upsert"] ++ tailCode m list ++ [.text ")"]
  else [.use session, .text ("." ++ m.operation.word)] ++ tailCode m list

/-- The call of the session. -/
def callCode (settings : Settings) (m : MethodSpec) (list : String) : List Code :=
  let body := indentation 2 settings.indent
  let nested := indentation 3 settings.indent
  match m.style with
  | .blocking =>
    if m.operation = .upsert ∧ m.generatesIdentifier = true then
      [.text (body ++ "if ("), .use .field, .text ".getIdentifier(", .use .argument,
       .text (") == null)\n" ++ nested), .use .field, .text ".insert"] ++ tailCode m list ++
      [.text (";\n" ++ body ++ "else\n" ++ nested), .use .field, .text ".upsert"] ++
      tailCode m list ++ [.text ";\n"]
    else [.text body, .use .field, .text ("." ++ m.operation.word)] ++ tailCode m list ++
      [.text ";\n"]
  | .reactive =>
    [.text (indentation 1 settings.indent ++ "return ")] ++
    if m.isDeferred then
      -- The unwrapped session is known up to the bracket that closes the chain.
      [.use .field, .text ".chain(",
       .scope .unwrapped ([.text " -> "] ++ pipelineCode m .unwrapped list), .text ")"]
    else pipelineCode m .field list

/-- The return of the argument. -/
def returnCode (settings : Settings) (m : MethodSpec) : List Code :=
  if m.returnsArgument then
    match m.style with
    | .blocking =>
      [.text (indentation 2 settings.indent ++ "return "), .use .argument, .text ";\n"]
    | .reactive =>
      [.text ("\n" ++ indentation 3 settings.indent ++ ".replaceWith("), .use .argument, .text ")"]
  else []

/-- The end of the try statement. -/
def closeCode (settings : Settings) (m : MethodSpec) : List Code :=
  [.text (closeText settings m)]

/-- A catch clause. -/
def catchCode (indent : String) (f : FailureMapping) : List Code :=
  -- The failure is known in its own clause only, so each clause declares it anew.
  [.text (indent ++ "catch (" ++ f.handled ++ " "),
   .scope .caught
    [.text (") \x7b\n" ++ indentation 2 indent ++ "throw new " ++ f.rethrown ++ "("), .use .caught,
     .text ".getMessage(), ", .use .caught, .text (");\n" ++ indent ++ "\x7d\n")]]

/-- A stage of the pipeline that recovers from a failure. -/
def stageCode (indent : String) (f : FailureMapping) : List Code :=
  [.text ("\n" ++ indentation 3 indent ++ ".onFailure(" ++ f.handled ++ ".class)\n" ++
    indentation 5 indent ++ ".transform("),
   .scope .failed
    [.text (" -> new " ++ f.rethrown ++ "("), .use .failed, .text ".getMessage(), ", .use .failed,
     .text ")"],
   .text ")"]

/-- The treatment of failures. -/
def failuresCode (settings : Settings) (m : MethodSpec) (failures : List FailureMapping) :
    List Code :=
  match m.style with
  | .blocking => failures.flatMap (catchCode settings.indent)
  | .reactive =>
    match settings.reactiveFailures with
    | .recover => failures.flatMap (stageCode settings.indent)
    | .pass => []

/-- Everything in which the argument is known. -/
def bodyCode (settings : Settings) (m : MethodSpec) (types : PrintedTypes) : List Code :=
  [.text ") \x7b\n"] ++ guardCode settings m ++ openCode settings m ++
  callCode settings m types.list ++ returnCode settings m ++ closeCode settings m ++
  failuresCode settings m types.failures ++ [.text (endText m)]

/-- The code of a method, given its printed types. -/
def code (settings : Settings) (m : MethodSpec) (types : PrintedTypes) : List Code :=
  headCode settings m types.entity types.uni types.nonnull ++
  [.scope .argument (bodyCode settings m types)]

/-! ## The code is the text -/

section

variable (settings : Settings) (m : MethodSpec)

open Code

theorem printAll_resultCode (entity uni : String) :
    printAll m (resultCode m entity uni) = resultText m entity uni := by
  unfold resultCode resultText
  cases m.style <;> cases m.returnsArgument <;>
    simp [printAll, print, -String.reduceAppend, String.append_assoc]

theorem printAll_tailCode (list : String) :
    printAll m (tailCode m list) = CallForm.tail m.kind m.style m.argumentName list := by
  unfold tailCode CallForm.tail
  cases m.kind <;> cases m.style <;>
    simp [printAll, print, Variable.name, -String.reduceAppend, String.append_assoc]

theorem printAll_pipelineCode (session : Variable) (list : String) :
    printAll m (pipelineCode m session list) =
      if m.operation = .upsert ∧ m.generatesIdentifier = true then
        "(" ++ session.name m ++ ".getIdentifier(" ++ m.argumentName ++ ") == null ? " ++
        session.name m ++ ".insert(" ++ m.argumentName ++ ") : " ++ session.name m ++ ".upsert" ++
        CallForm.tail m.kind m.style m.argumentName list ++ ")"
      else
        session.name m ++ "." ++ m.operation.word ++
        CallForm.tail m.kind m.style m.argumentName list := by
  unfold pipelineCode
  split <;> simp [printAll_append, printAll, print, printAll_tailCode, Variable.name,
    -String.reduceAppend, String.append_assoc]

theorem printAll_callCode (list : String) :
    printAll m (callCode settings m list) = callText settings m list := by
  cases hstyle : m.style with
  | blocking =>
    by_cases hchoosing : m.operation = .upsert ∧ m.generatesIdentifier = true <;>
      simp [callCode, callText, printAll_append, printAll, print, printAll_tailCode, Variable.name,
        hstyle, hchoosing, -String.reduceAppend, String.append_assoc]
  | reactive =>
    -- The session that is called is the unwrapped one, if there is one, and else the field.
    by_cases hchoosing : m.operation = .upsert ∧ m.generatesIdentifier = true <;>
      cases hdeferred : m.isDeferred <;>
      simp [callCode, callText, MethodSpec.localSession, printAll, print, printAll_pipelineCode,
        Variable.name, hstyle, hchoosing, hdeferred, -String.reduceAppend, String.append_assoc]

theorem printAll_catchCode (indent : String) (f : FailureMapping) :
    printAll m (catchCode indent f) = catchText indent f := by
  -- The text has the variable in the middle of its literals, where the code has it by itself.
  have hopen : " exception) \x7b\n" = " " ++ "exception" ++ ") \x7b\n" := rfl
  have harguments : "(exception.getMessage(), exception);\n" =
      "(" ++ "exception" ++ ".getMessage(), " ++ "exception" ++ ");\n" := rfl
  simp [catchCode, catchText, printAll, print, Variable.name, hopen, harguments,
    -String.reduceAppend, String.append_assoc]

theorem printAll_stageCode (indent : String) (f : FailureMapping) :
    printAll m (stageCode indent f) = stageText indent f := by
  have hopen : ".transform(_ex -> new " = ".transform(" ++ "_ex" ++ " -> new " := rfl
  have harguments : "(_ex.getMessage(), _ex))" =
      "(" ++ "_ex" ++ ".getMessage(), " ++ "_ex" ++ ")" ++ ")" := rfl
  simp [stageCode, stageText, printAll, print, Variable.name, hopen, harguments,
    -String.reduceAppend, String.append_assoc]

theorem printAll_failuresCode (failures : List FailureMapping) :
    printAll m (failuresCode settings m failures) = failuresText settings m failures := by
  unfold failuresCode failuresText
  cases m.style with
  | blocking => simp only [printAll_flatMap, printAll_catchCode]
  | reactive =>
    cases settings.reactiveFailures with
    | pass => rfl
    | recover => simp only [printAll_flatMap, printAll_stageCode]

theorem printAll_returnCode : printAll m (returnCode settings m) = returnText settings m := by
  unfold returnCode returnText
  cases m.returnsArgument <;> cases m.style <;>
    simp [printAll, print, Variable.name, -String.reduceAppend, String.append_assoc]

theorem printAll_headCode (types : PrintedTypes) :
    printAll m (headCode settings m types.entity types.uni types.nonnull) ++
      m.argumentName ++ ") \x7b\n" =
      headerText settings m types.entity types.uni types.nonnull := by
  -- The head ends where the argument is declared, and the header at the brace behind it.
  have hoverride : "@Override\n" = "@" ++ "Override" ++ "\n" := rfl
  unfold headCode headerText
  split <;> simp [printAll_append, printAll, print, printAll_resultCode, hoverride,
    -String.reduceAppend, String.append_assoc]

theorem printAll_guardCode : printAll m (guardCode settings m) = guardText settings m := by
  have hthrow : " == null) throw new IllegalArgumentException(\"Null " =
      " == null) throw new " ++ "IllegalArgumentException" ++ "(\"Null " := rfl
  simp [guardCode, guardText, printAll, print, Variable.name, hthrow, -String.reduceAppend,
    String.append_assoc]

/-- The text of a method is its code, printed. -/
theorem printAll_code (types : PrintedTypes) :
    printAll m (code settings m types) = text settings m types := by
  simp [code, bodyCode, text, openCode, closeCode, printAll_append, printAll, print, Variable.name,
    printAll_guardCode, printAll_callCode, printAll_returnCode, printAll_failuresCode,
    ← printAll_headCode, -String.reduceAppend, String.append_assoc]

/-! ## Types that are not asked for -/

/-- The types that a method writes by their simple names, without asking for them. -/
def bareTypes (settings : Settings) (m : MethodSpec) : List String :=
  (if settings.emitOverride && m.overrides then ["Override"] else []) ++
  (if m.style = .reactive ∧ m.returnsArgument = false then ["Void"] else []) ++
  -- The guard against null is in every method.
  ["IllegalArgumentException"]

theorem allBareTypes_headCode (entity uni nonnull : String) :
    allBareTypes (headCode settings m entity uni nonnull) =
      (if settings.emitOverride && m.overrides then ["Override"] else []) ++
      (if m.style = .reactive ∧ m.returnsArgument = false then ["Void"] else []) := by
  unfold headCode resultCode
  cases settings.emitOverride && m.overrides <;> cases m.style <;> cases m.returnsArgument <;>
    simp [allBareTypes, Code.bareTypes]

theorem allBareTypes_callCode (list : String) : allBareTypes (callCode settings m list) = [] := by
  have htail : allBareTypes (tailCode m list) = [] := by
    unfold tailCode
    cases m.kind <;> cases m.style <;> rfl
  have hpipeline (session : Variable) : allBareTypes (pipelineCode m session list) = [] := by
    unfold pipelineCode
    split <;> simp [allBareTypes_append, allBareTypes, Code.bareTypes, htail]
  by_cases hchoosing : m.operation = .upsert ∧ m.generatesIdentifier = true <;>
    cases hstyle : m.style <;> cases hdeferred : m.isDeferred <;>
    simp [callCode, allBareTypes_append, allBareTypes, Code.bareTypes, htail, hpipeline, hstyle,
      hchoosing, hdeferred]

/-- These are the types in the code of a method that are not asked for, whatever the others are
    printed as. -/
theorem allBareTypes_code (types : PrintedTypes) :
    allBareTypes (code settings m types) = bareTypes settings m := by
  have hreturn : allBareTypes (returnCode settings m) = [] := by
    unfold returnCode
    cases m.returnsArgument <;> cases m.style <;> rfl
  have hfailures : allBareTypes (failuresCode settings m types.failures) = [] := by
    unfold failuresCode
    cases m.style with
    | blocking => simp [allBareTypes_flatMap, catchCode, allBareTypes, Code.bareTypes]
    | reactive =>
      cases settings.reactiveFailures <;>
        simp [allBareTypes_flatMap, stageCode, allBareTypes, Code.bareTypes]
  simp [code, bodyCode, guardCode, openCode, closeCode, allBareTypes_append, allBareTypes,
    Code.bareTypes, allBareTypes_headCode, allBareTypes_callCode, hreturn, hfailures, bareTypes]

end

end Method

end DataMethods
