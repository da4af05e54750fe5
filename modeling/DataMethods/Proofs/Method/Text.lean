import DataMethods.Proofs.CallForm.Pieces
import DataMethods.Proofs.Method.Fragments
import DataMethods.Proofs.Method.Types
import DataMethods.Sample

/-!
# The text of a method in closed form

Writing a method comes down to two things that can be looked at apart: `printTypes` asks the
resolver for the types that the method shows, and `text` puts the answers and the names of the
method together. No template and no pattern can add an error or a character of its own.

## Key results

- `renderParts_eq`, `render_eq`: writing is asking for the types and putting the text together
- `render_eq_text`: the text of every method, for every resolver that grants what it is asked
-/

namespace DataMethods

open Template.Fragment Rendering

namespace Method

/-! ## The text -/

/-- The type that the method returns. -/
def resultText (m : MethodSpec) (entity uni : String) : String :=
  match m.style with
  | .blocking => if m.returnsArgument then entity else "void"
  | .reactive => uni ++ "<" ++ (if m.returnsArgument then entity else "Void") ++ ">"

/-- Everything up to the brace that opens the body. -/
def headerText (settings : Settings) (m : MethodSpec) (entity uni nonnull : String) : String :=
  "\n" ++ (if settings.emitOverride && m.overrides then "@Override\n" else "") ++
  "public " ++ resultText m entity uni ++ " " ++ m.methodName ++ "(" ++
  (if m.marksNonnull = true ∧ nonnull ≠ "" then "@" ++ nonnull ++ " " else "") ++
  entity ++ " " ++ m.argumentName ++ ") \x7b\n"

/-- The line that refuses null. -/
def guardText (settings : Settings) (m : MethodSpec) : String :=
  indentation 1 settings.indent ++ "if (" ++ m.argumentName ++
  " == null) throw new IllegalArgumentException(\"Null " ++ m.argumentName ++ "\");\n"

/-- The beginning of the try statement. -/
def openText (settings : Settings) (m : MethodSpec) : String :=
  match m.style with
  | .blocking => indentation 1 settings.indent ++ "try \x7b\n"
  | .reactive => ""

/-- The call of the session. Where the presence of an identifier decides, there are two. -/
def callText (settings : Settings) (m : MethodSpec) (list : String) : String :=
  let tail := CallForm.tail m.kind m.style m.argumentName list
  match m.style with
  | .blocking =>
    let body := indentation 2 settings.indent
    let nested := indentation 3 settings.indent
    let session := m.sessionName
    if m.operation = .upsert ∧ m.generatesIdentifier = true then
      body ++ "if (" ++ session ++ ".getIdentifier(" ++ m.argumentName ++ ") == null)\n" ++
      nested ++ session ++ ".insert" ++ tail ++ ";\n" ++
      body ++ "else\n" ++
      nested ++ session ++ ".upsert" ++ tail ++ ";\n"
    else body ++ session ++ "." ++ m.operation.word ++ tail ++ ";\n"
  | .reactive =>
    let session := m.localSession
    let call :=
      if m.operation = .upsert ∧ m.generatesIdentifier = true then
        "(" ++ session ++ ".getIdentifier(" ++ m.argumentName ++ ") == null ? " ++
        session ++ ".insert(" ++ m.argumentName ++ ") : " ++ session ++ ".upsert" ++ tail ++ ")"
      else session ++ "." ++ m.operation.word ++ tail
    indentation 1 settings.indent ++ "return " ++
    (if m.isDeferred then m.sessionName ++ ".chain(" ++ session ++ " -> " ++ call ++ ")" else call)

/-- The return of the argument. -/
def returnText (settings : Settings) (m : MethodSpec) : String :=
  if m.returnsArgument then
    match m.style with
    | .blocking => indentation 2 settings.indent ++ "return " ++ m.argumentName ++ ";\n"
    | .reactive => "\n" ++ indentation 3 settings.indent ++ ".replaceWith(" ++ m.argumentName ++ ")"
  else ""

/-- The end of the try statement. -/
def closeText (settings : Settings) (m : MethodSpec) : String :=
  match m.style with
  | .blocking => indentation 1 settings.indent ++ "\x7d\n"
  | .reactive => ""

/-- A catch clause. -/
def catchText (indent : String) (f : FailureMapping) : String :=
  indent ++ "catch (" ++ f.handled ++ " exception) \x7b\n" ++
  indentation 2 indent ++ "throw new " ++ f.rethrown ++ "(exception.getMessage(), exception);\n" ++
  indent ++ "\x7d\n"

/-- A stage of the pipeline that recovers from a failure. -/
def stageText (indent : String) (f : FailureMapping) : String :=
  "\n" ++ indentation 3 indent ++ ".onFailure(" ++ f.handled ++ ".class)\n" ++
  indentation 5 indent ++ ".transform(_ex -> new " ++ f.rethrown ++ "(_ex.getMessage(), _ex))"

/-- The treatment of failures. -/
def failuresText (settings : Settings) (m : MethodSpec) (failures : List FailureMapping) :
    String :=
  match m.style with
  | .blocking => String.join (failures.map (catchText settings.indent))
  | .reactive =>
    match settings.reactiveFailures with
    | .recover => String.join (failures.map (stageText settings.indent))
    | .pass => ""

/-- The end of the method. -/
def endText (m : MethodSpec) : String :=
  match m.style with
  | .blocking => "\x7d"
  | .reactive => ";\n\x7d"

/-- The text of a method, given its printed types. -/
def text (settings : Settings) (m : MethodSpec) (types : PrintedTypes) : String :=
  headerText settings m types.entity types.uni types.nonnull ++
  guardText settings m ++
  openText settings m ++
  callText settings m types.list ++
  returnText settings m ++
  closeText settings m ++
  failuresText settings m types.failures ++
  endText m

variable {σ : Type}

/-! ## Parts without types -/

theorem renderTryOpen_eq (plan : Plan) :
    (renderTryOpen plan : Rendering σ String) = pure (openText plan.settings plan.method) := by
  simp only [renderTryOpen, openText]
  cases plan.method.style <;> rfl

theorem renderDelegate_eq (settings : Settings) (m : MethodSpec) (list : String) :
    (renderDelegate ⟨settings, m, CallForm.tail m.kind m.style m.argumentName list⟩ :
      Rendering σ String) = do
      noteChoice m
      return callText settings m list := by
  by_cases hchoosing : m.operation = .upsert ∧ m.generatesIdentifier = true
  · have htrue : m.choosesByIdentifier = true := (choosesByIdentifier_eq_true_iff m).2 hchoosing
    -- The fragment writes the word of the operation, which is known here.
    have hword : ".upsert" = "." ++ m.operation.word := by rw [hchoosing.1]; rfl
    simp only [renderDelegate, noteChoice, callText, htrue, if_true, fill_reactiveCall,
      fill_blockingCall, if_pos hchoosing, hword]
    cases m.style with
    | blocking => simp [-String.reduceAppend, String.append_assoc]
    | reactive => cases m.isDeferred <;> simp [-String.reduceAppend, String.append_assoc]
  · have hfalse : m.choosesByIdentifier = false := by
      rw [← Bool.not_eq_true, choosesByIdentifier_eq_true_iff]
      exact hchoosing
    simp only [renderDelegate, noteChoice, callText, hfalse, fill_reactiveCall,
      fill_blockingCall, if_neg hchoosing]
    cases m.style with
    | blocking => simp [-String.reduceAppend, String.append_assoc]
    | reactive => cases m.isDeferred <;> simp [-String.reduceAppend, String.append_assoc]

theorem renderResult_eq (plan : Plan) :
    (renderResult plan : Rendering σ String) = pure (returnText plan.settings plan.method) := by
  simp only [renderResult, returnText]
  cases plan.method.returnsArgument <;> cases plan.method.style <;> rfl

theorem renderTryClose_eq (plan : Plan) :
    (renderTryClose plan : Rendering σ String) = pure (closeText plan.settings plan.method) := by
  simp only [renderTryClose, closeText]
  cases plan.method.style <;> rfl

theorem renderClose_eq (plan : Plan) :
    (renderClose plan : Rendering σ String) = pure (endText plan.method) := by
  simp only [renderClose, endText]
  cases plan.method.style <;> rfl

/-- Texts that depend on printed values can be put together after all values are printed. -/
theorem mapM_eq_map {α β γ : Type} {r : α → Rendering σ β} {f : β → γ} {g : α → Rendering σ γ}
    (h : ∀ x, g x = f <$> r x) (xs : List α) : xs.mapM g = List.map f <$> xs.mapM r := by
  induction xs with
  | nil => rfl
  | cons x xs ih =>
    rw [List.mapM_cons, List.mapM_cons, ih, h]
    simp only [map_eq_pure_bind, bind_assoc, pure_bind, List.map_cons]

variable [NameResolver σ]

/-! ## Parts with types -/

theorem plan_eq (settings : Settings) (m : MethodSpec) :
    (plan settings m : Rendering σ Plan) = do
      let list ← printList m
      note (.planned m)
      return ⟨settings, m, CallForm.tail m.kind m.style m.argumentName list⟩ := by
  -- The one combination without a call form is no method.
  have hselect : CallForm.select m.kind m.style m.operation =
      .ok (CallForm.forKind m.kind m.style) := by
    rw [CallForm.select, if_neg m.not_list_upsert]
  rw [plan, hselect]
  simp only [CallForm.render_forKind, printList, map_eq_pure_bind, bind_assoc, pure_bind]

theorem resultType_eq (m : MethodSpec) (entity : String) :
    (resultType m entity : Rendering σ String) = do
      let uni ← printUni m
      return resultText m entity uni := by
  unfold resultType printUni resultText
  cases m.style with
  | blocking => cases m.returnsArgument <;> rfl
  | reactive => rfl

theorem renderHeader_eq (plan : Plan) :
    (renderHeader plan : Rendering σ String) = do
      let entity ← printType plan.method.entityType
      let uni ← printUni plan.method
      let nonnull ← printNonnull plan.settings plan.method
      return headerText plan.settings plan.method entity uni nonnull := by
  unfold headerText
  simp only [renderHeader, resultType_eq, fill_header, printNonnull, bind_assoc, pure_bind]
  cases plan.method.marksNonnull <;> simp

theorem renderCatch_eq (indent : String) (f : FailureMapping) :
    (f.renderCatch indent : Rendering σ String) = catchText indent <$> printMapping f := by
  simp only [FailureMapping.renderCatch, printMapping, FailureMapping.fill_catchClause, catchText,
    map_eq_pure_bind, bind_assoc, pure_bind]

theorem renderStage_eq (indent : String) (f : FailureMapping) :
    (f.renderStage indent : Rendering σ String) = stageText indent <$> printMapping f := by
  simp only [FailureMapping.renderStage, printMapping, FailureMapping.fill_recoveryStage, stageText,
    map_eq_pure_bind, bind_assoc, pure_bind]

theorem renderFailures_eq (plan : Plan) :
    (renderFailures plan : Rendering σ String) = do
      let failures ← printFailures plan.settings plan.method
      return failuresText plan.settings plan.method failures := by
  simp only [renderFailures, printFailures, failuresText]
  cases plan.method.style with
  | blocking =>
    simp only [FailureMapping.renderCatches, mapM_eq_map (renderCatch_eq _), map_eq_pure_bind,
      bind_assoc, pure_bind, true_or, if_true]
  | reactive =>
    cases plan.settings.reactiveFailures with
    | pass => simp
    | recover =>
      simp only [FailureMapping.renderStages, mapM_eq_map (renderStage_eq _), map_eq_pure_bind,
        bind_assoc, pure_bind, or_true, if_true]

/-! ## Writing a method -/

/-- The parts of a method with their texts, given its printed types. -/
def partTexts (settings : Settings) (m : MethodSpec) (types : PrintedTypes) :
    List (MethodPart × String) :=
  [(.header, headerText settings m types.entity types.uni types.nonnull),
   (.nullGuard, guardText settings m),
   (.tryOpen, openText settings m),
   (.delegate, callText settings m types.list),
   (.result, returnText settings m),
   (.tryClose, closeText settings m),
   (.failures, failuresText settings m types.failures),
   (.close, endText m)]

theorem renderParts_eq (settings : Settings) (m : MethodSpec) :
    (renderParts settings m : Rendering σ (List (MethodPart × String))) =
      partTexts settings m <$> printTypes settings m := by
  -- Every part is rewritten to its requests and its text. The requests then stand in the same order
  -- on both sides, and the texts move behind them.
  simp only [renderParts, MethodPart.all, List.mapM_cons, List.mapM_nil, renderPart, plan_eq,
    renderHeader_eq, renderNullGuard, fill_nullGuard, renderTryOpen_eq, renderDelegate_eq,
    renderResult_eq, renderTryClose_eq, renderFailures_eq, renderClose_eq, printTypes,
    map_eq_pure_bind, bind_assoc, pure_bind]
  rfl

theorem render_eq (settings : Settings) (m : MethodSpec) :
    (render settings m : Rendering σ String) = text settings m <$> printTypes settings m := by
  have htext (types : PrintedTypes) :
      String.join ((partTexts settings m types).map Prod.snd) = text settings m types := by
    simp [partTexts, text, String.append_assoc]
  simp only [render, renderParts_eq, map_eq_pure_bind, bind_assoc, pure_bind, htext]

/-- Writing a method asks for its types and does nothing else to the run. -/
theorem start_render_run (settings : Settings) (m : MethodSpec) (names : σ) :
    ((render settings m).start names).2 = ((printTypes settings m).start names).2 := by
  rw [start_eq_exec, start_eq_exec, render_eq, exec_map]

theorem render_of_printTypes {settings : Settings} {m : MethodSpec} {names : σ}
    {types : PrintedTypes} {run : Run σ}
    (h : (printTypes settings m).start names = (.ok types, run)) :
    (render settings m).start names = (.ok (text settings m types), run) := by
  rw [start_eq_exec] at h ⊢
  rw [render_eq, exec_map, h]
  rfl

/-- If the parts of a method are written, its types were printed, and the parts are put together
    from them. -/
theorem exists_types_of_renderParts {settings : Settings} {m : MethodSpec} {names : σ}
    {parts : List (MethodPart × String)} {run : Run σ}
    (h : (renderParts settings m).start names = (.ok parts, run)) :
    ∃ types, (printTypes settings m).start names = (.ok types, run) ∧
      parts = partTexts settings m types := by
  rw [start_eq_exec, renderParts_eq, exec_map] at h
  rw [start_eq_exec]
  rcases hexec : (printTypes settings m).exec (Run.start names) with ⟨_ | types, last⟩
  · simp [hexec, Except.map] at h
  · simp only [hexec, Except.map, Prod.mk.injEq, Except.ok.injEq] at h
    exact ⟨types, by rw [h.2], h.1.symm⟩

theorem renderParts_of_printTypes {settings : Settings} {m : MethodSpec} {names : σ}
    {types : PrintedTypes} {run : Run σ}
    (h : (printTypes settings m).start names = (.ok types, run)) :
    (renderParts settings m).start names = (.ok (partTexts settings m types), run) := by
  rw [start_eq_exec] at h ⊢
  rw [renderParts_eq, exec_map, h]
  rfl

/-- Whenever the types that a method shows are printed, the method is written, and its text is the
    one given above. They are printed if the resolver grants them. -/
theorem render_eq_text (settings : Settings) (m : MethodSpec) (names : σ) :
    (∀ types run, (printTypes settings m).start names = (.ok types, run) →
      (render settings m).start names = (.ok (text settings m types), run)) ∧
    (NameResolver.Grants names (shownTypes settings m) →
      ∃ types run, (printTypes settings m).start names = (.ok types, run) ∧
        run.requests = shownTypes settings m) := by
  constructor
  · intro types run htypes
    exact render_of_printTypes htypes
  · intro hgrants
    obtain ⟨types, events, hexec, hevents⟩ := printTypes_asks settings m (Run.start names) hgrants
    exact ⟨types, _, hexec, hevents⟩

theorem marker_ne_empty : "jakarta.annotation.Nonnull" ≠ "" := by decide

/-- Two blanks for a step of indentation, and recovery from failures. -/
def recovering : Settings := ⟨"jakarta.annotation.Nonnull", "  ", .recover, true, marker_ne_empty⟩

/-- The upsert of an array through a session that has to be unwrapped. -/
theorem render_saveBooks :
    (∃ types run, (printTypes recovering Sample.saveBooks).start (⟨[]⟩ : Verbatim) =
      (.ok types, run) ∧ run.requests = shownTypes recovering Sample.saveBooks) ∧
    ∃ run, (render recovering Sample.saveBooks).start (⟨[]⟩ : Verbatim) = (.ok (String.join
      ["\n@Override\n",
       "public io.smallrye.mutiny.Uni<org.example.Book[]> save(org.example.Book[] books) \x7b\n",
       "  if (books == null) throw new IllegalArgumentException(\"Null books\");\n",
       "  return session.chain(_session -> (_session.getIdentifier(books) == null",
       " ? _session.insert(books) : _session.upsertAll(books)))\n",
       "      .replaceWith(books)\n",
       "      .onFailure(org.hibernate.StaleStateException.class)\n",
       "          .transform(_ex -> new jakarta.data.exceptions.OptimisticLockingFailureException",
       "(_ex.getMessage(), _ex))\n",
       "      .onFailure(jakarta.persistence.PersistenceException.class)\n",
       "          .transform(_ex -> new jakarta.data.exceptions.DataException",
       "(_ex.getMessage(), _ex));\n\x7d"]), run) := by
  have hwritten := render_eq_text recovering Sample.saveBooks (⟨[]⟩ : Verbatim)
  have hgrants : NameResolver.Grants (⟨[]⟩ : Verbatim) (shownTypes recovering Sample.saveBooks) :=
    NameResolver.grants_of_forall (fun _ type => ⟨type, rfl⟩) _ _
  refine ⟨hwritten.2 hgrants, ?_⟩
  have hstyle : Sample.saveBooks.style = .reactive := by decide +kernel
  have htypes : ∃ run, (printTypes recovering Sample.saveBooks).start (⟨[]⟩ : Verbatim) =
      (.ok ⟨"", "org.example.Book[]", Session.uniType, "",
        [FailureMapping.staleState, FailureMapping.persistence]⟩, run) := by
    simp [printTypes, printList, printUni, printNonnull, printFailures, hstyle, start_eq_exec,
      exec_bind, exec_printType, noteChoice, recovering]
    exact ⟨_, rfl⟩
  obtain ⟨run, hrun⟩ := htypes
  refine ⟨run, ?_⟩
  rw [hwritten.1 _ run hrun]
  refine Prod.ext (congrArg Except.ok ?_) rfl
  decide +kernel

end Method

end DataMethods
