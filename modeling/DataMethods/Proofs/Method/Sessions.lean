import DataMethods.Proofs.Method.Variables
import DataMethods.Proofs.Text.Trim

/-!
# Calls of the session

The type of the session decides about two things: the style of the method, and whether the session
is unwrapped before use. White space in the type makes no difference to either, and what is
unwrapped is reactive. In the code of the call the session is a variable: the field, or what a chain
on the field has unwrapped. `allSessionCalls` lists the calls on either. Apart from the chain
itself, a method makes all of them on the same variable.

## Key results

- `style_eq_reactive_iff`, `isDeferred_iff`: the answers for a session type without its white space
- `callCode_of_isDeferred`, `allSessionCalls_callCode`: the calls with and without a chain
- `render_calls_session`: a written method makes the calls that its session type asks for
-/

namespace DataMethods

open Text Rendering Template.Fragment

/-! ## Session types -/

namespace Session

theorem isDeferred_iff {type : String} :
    isDeferred type = true ↔
      compact type ∈ [deferred reactiveType, deferred reactiveStatelessType] := by
  simp [isDeferred]

theorem style_eq_reactive_iff {type : String} :
    style type = .reactive ↔
      compact type ∈ [reactiveType, reactiveStatelessType, deferred reactiveType,
        deferred reactiveStatelessType] := by
  simp [style, isDeferred, or_assoc, -not_or, Bool.or_eq_true]

theorem style_of_isDeferred {type : String} (h : isDeferred type = true) :
    style type = .reactive := by
  simp [style, h]

/-- White space between two parts of a type does not count. -/
theorem compact_insert {blanks : List Char} (h : AllBlank blanks) (before after : List Char) :
    compact (String.ofList (before ++ blanks ++ after)) =
      compact (String.ofList (before ++ after)) := by
  have hblanks : removeBlanks blanks = [] := by simpa [removeBlanks, AllBlank] using h
  simp only [compact, String.toList_ofList, removeBlanks, List.filter_append] at hblanks ⊢
  rw [hblanks, List.append_nil]

end Session

namespace Method

/-! ## Calls -/

namespace Variable

/-- Does the variable stand for the session? -/
def isSession : Variable → Bool
  | field => true
  | unwrapped => true
  | _ => false

end Variable

/-- What is called in front of the first parenthesis. -/
def called (text : String) : String :=
  String.ofList (text.toList.takeWhile (· ≠ '('))

theorem called_eq {text name : String} (rest : String) (htext : text = name ++ "(" ++ rest)
    (h : '(' ∉ name.toList) : called text = name := by
  have hname : ∀ c ∈ name.toList, decide (c ≠ '(') = true := by
    intro c hc
    have hne : c ≠ '(' := fun heq => h (heq ▸ hc)
    exact decide_eq_true hne
  have hchars : text.toList = name.toList ++ '(' :: rest.toList := by simp [htext]
  rw [called, hchars, List.takeWhile_append_of_pos hname]
  simp

namespace Code

mutual

/-- The calls of the session in a stretch of code: the variable that is called, and what is called
    on it, which the code behind the stretch says. -/
def sessionCalls (m : MethodSpec) (behind : List Code) : Code → List (Variable × String)
  | .text _ => []
  | .use v => if v.isSession then [(v, called (printAll m behind))] else []
  | .type _ => []
  | .bare _ => []
  | .scope _ body => allSessionCalls m body

/-- The calls of the session in code, from left to right. -/
def allSessionCalls (m : MethodSpec) : List Code → List (Variable × String)
  | [] => []
  | c :: cs => c.sessionCalls m cs ++ allSessionCalls m cs

end

end Code

open Code

/-- The operations of the session that a method calls, in order. -/
def sessionOperations (m : MethodSpec) : List String :=
  let suffix := (CallForm.forKind m.kind m.style).suffix
  if m.operation = .upsert ∧ m.generatesIdentifier = true then
    [".getIdentifier", ".insert" ++ (if m.style = .blocking then suffix else ""),
     ".upsert" ++ suffix]
  else ["." ++ m.operation.word ++ suffix]

section

variable (m : MethodSpec)

@[simp] theorem allSessionCalls_nil : allSessionCalls m [] = [] := rfl

@[simp] theorem allSessionCalls_text (text : String) (behind : List Code) :
    allSessionCalls m (.text text :: behind) = allSessionCalls m behind := rfl

@[simp] theorem allSessionCalls_argument (behind : List Code) :
    allSessionCalls m (.use .argument :: behind) = allSessionCalls m behind := rfl

@[simp] theorem allSessionCalls_scope (v : Variable) (body behind : List Code) :
    allSessionCalls m (.scope v body :: behind) =
      allSessionCalls m body ++ allSessionCalls m behind := rfl

/-- The arguments of a call do not call the session. -/
@[simp] theorem allSessionCalls_tailCode (list : String) (behind : List Code) :
    allSessionCalls m (tailCode m list ++ behind) = allSessionCalls m behind := by
  unfold tailCode
  cases m.kind <;> cases m.style <;> rfl

/-- Behind the name of an operation stand the suffix and the arguments in parentheses. -/
theorem exists_tail_eq (kind : ArgumentKind) (style : Style) (argument list : String) :
    ∃ arguments, CallForm.tail kind style argument list =
      (CallForm.forKind kind style).suffix ++ "(" ++ arguments := by
  unfold CallForm.tail CallForm.forKind
  cases kind with
  | single => exact ⟨argument ++ ")", by simp [String.append_assoc]⟩
  | array =>
    cases style with
    | blocking => exact ⟨list ++ ".of(" ++ argument ++ "))", by simp [String.append_assoc]⟩
    | reactive => exact ⟨argument ++ ")", by simp [String.append_assoc]⟩
  | list =>
    cases style with
    | blocking => exact ⟨argument ++ ")", by simp [String.append_assoc]⟩
    | reactive => exact ⟨argument ++ ".toArray())", by simp [String.append_assoc]⟩

theorem not_open_word (operation : Operation) : '(' ∉ ("." ++ operation.word).toList := by
  cases operation <;> simp [Operation.word]

section

variable {session : Variable} (hsession : session.isSession = true)

include hsession

/-- A call with arguments of its own. -/
theorem allSessionCalls_open {name text : String} (htext : text = name ++ "(")
    (h : '(' ∉ name.toList) (behind : List Code) :
    allSessionCalls m (.use session :: .text text :: behind) =
      (session, name) :: allSessionCalls m behind := by
  have hcalled : called (printAll m (.text text :: behind)) = name :=
    called_eq (printAll m behind) (by rw [printAll, print, htext]) h
  rw [allSessionCalls, sessionCalls, if_pos hsession, hcalled]
  rfl

/-- A call with the arguments that the method has for its operation. -/
theorem allSessionCalls_operation {name : String} (h : '(' ∉ name.toList) (list : String)
    (behind : List Code) :
    allSessionCalls m (.use session :: .text name :: (tailCode m list ++ behind)) =
      (session, name ++ (CallForm.forKind m.kind m.style).suffix) :: allSessionCalls m behind := by
  have hsuffix : '(' ∉ (CallForm.forKind m.kind m.style).suffix.toList := by
    cases m.kind <;> cases m.style <;> decide
  obtain ⟨arguments, htail⟩ := exists_tail_eq m.kind m.style m.argumentName list
  -- The name of what is called goes on in the next stretch of code, up to its parenthesis.
  have hcalled : called (printAll m (.text name :: (tailCode m list ++ behind))) =
      name ++ (CallForm.forKind m.kind m.style).suffix := by
    refine called_eq (arguments ++ printAll m behind) ?_ (by simp [h, hsuffix])
    rw [printAll, print, printAll_append, printAll_tailCode, htail]
    simp only [String.append_assoc]
  rw [allSessionCalls, sessionCalls, if_pos hsession, hcalled]
  simp

theorem allSessionCalls_getIdentifier (behind : List Code) :
    allSessionCalls m (.use session :: .text ".getIdentifier(" :: behind) =
      (session, ".getIdentifier") :: allSessionCalls m behind :=
  allSessionCalls_open m hsession (by simp) (by simp) behind

theorem allSessionCalls_upsert (list : String) (behind : List Code) :
    allSessionCalls m (.use session :: .text ".upsert" :: (tailCode m list ++ behind)) =
      (session, ".upsert" ++ (CallForm.forKind m.kind m.style).suffix) ::
        allSessionCalls m behind :=
  allSessionCalls_operation m hsession (by simp) list behind

/-- In a pipeline all calls are made on the given variable. -/
theorem allSessionCalls_pipelineCode (hstyle : m.style = .reactive) (list : String) :
    allSessionCalls m (pipelineCode m session list) = (sessionOperations m).map (session, ·) := by
  unfold pipelineCode sessionOperations
  split
  · -- The insertion has the argument itself, and so no suffix.
    have hinsert (behind : List Code) :
        allSessionCalls m (.use session :: .text ".insert(" :: behind) =
          (session, ".insert") :: allSessionCalls m behind :=
      allSessionCalls_open m hsession (by simp) (by simp) behind
    simp [allSessionCalls_getIdentifier m hsession, hinsert, allSessionCalls_upsert m hsession,
      hstyle]
  · have hcall := allSessionCalls_operation m hsession (not_open_word m.operation) list []
    simpa using hcall

end

variable (settings : Settings)

theorem allSessionCalls_callCode_blocking (hstyle : m.style = .blocking) (list : String) :
    allSessionCalls m (callCode settings m list) = (sessionOperations m).map (.field, ·) := by
  have hfield : Variable.field.isSession = true := rfl
  unfold callCode sessionOperations
  by_cases hchoosing : m.operation = .upsert ∧ m.generatesIdentifier = true
  · -- Here the insertion has the arguments of the operation, and its suffix.
    have hinsert := allSessionCalls_operation m hfield
      (by simp : '(' ∉ ".insert".toList) list
    simp [hstyle, hchoosing, allSessionCalls_getIdentifier m hfield, hinsert,
      allSessionCalls_upsert m hfield]
  · have hcall := allSessionCalls_operation m hfield (not_open_word m.operation) list
    simp [hstyle, hchoosing, hcall]

/-- If the session is not unwrapped, all calls of it are made on the field. -/
theorem allSessionCalls_callCode (h : m.isDeferred = false) (list : String) :
    allSessionCalls m (callCode settings m list) = (sessionOperations m).map (.field, ·) := by
  cases hstyle : m.style with
  | blocking => exact allSessionCalls_callCode_blocking m settings hstyle list
  | reactive =>
    have hfield : Variable.field.isSession = true := rfl
    simp [callCode, hstyle, h, allSessionCalls_pipelineCode m hfield hstyle]

/-- If the session is unwrapped, the call is one chain on the field, and all calls in the chain are
    made on the unwrapped session. -/
theorem callCode_of_isDeferred (h : m.isDeferred = true) (list : String) :
    ∃ body, callCode settings m list =
        [.text (indentation 1 settings.indent ++ "return "), .use .field, .text ".chain(",
         .scope .unwrapped body, .text ")"] ∧
      allSessionCalls m body = (sessionOperations m).map (.unwrapped, ·) := by
  have hstyle := style_of_isDeferred h
  have hunwrapped : Variable.unwrapped.isSession = true := rfl
  refine ⟨[.text " -> "] ++ pipelineCode m .unwrapped list, ?_, ?_⟩
  · simp [callCode, hstyle, h]
  · simp [allSessionCalls_pipelineCode m hunwrapped hstyle]

/-- No operation is taken for the unwrapping. -/
theorem chain_not_mem_sessionOperations : ".chain" ∉ sessionOperations m := by
  -- No operation begins with the letter of the chain, whatever its suffix.
  unfold sessionOperations
  split
  · simp [← String.toList_inj]
  · cases m.operation <;> simp [← String.toList_inj, Operation.word]

end

/-! ## Written methods -/

variable {σ : Type} [NameResolver σ]

/-- A session type is reactive if without its white space it is one of the two reactive types or of
    the two deferred ones, and it is deferred if it is one of the latter. White space makes no
    difference in any place, and what is deferred is reactive.

    The call in a method that is written follows the type of its session. For a deferred type it is
    one chain on the field, and in the scope of the unwrapped session, which ends with the chain,
    all calls of the session are made on that one. For any other type all calls are made on the
    field, and none of them is a chain. -/
theorem render_calls_session (settings : Settings) (m : MethodSpec) (names : σ) :
    (∀ type : String,
      let solid := String.ofList (type.toList.filter fun c => !isBlank c)
      (Session.style type = .reactive ↔
        solid ∈ [Session.reactiveType, Session.reactiveStatelessType,
          Session.deferred Session.reactiveType, Session.deferred Session.reactiveStatelessType]) ∧
      (Session.isDeferred type = true ↔
        solid ∈ [Session.deferred Session.reactiveType,
          Session.deferred Session.reactiveStatelessType]) ∧
      (Session.isDeferred type = true → Session.style type = .reactive)) ∧
    (∀ before blanks after, AllBlank blanks →
      let spaced := String.ofList (before ++ blanks ++ after)
      let type := String.ofList (before ++ after)
      Session.style spaced = Session.style type ∧
        Session.isDeferred spaced = Session.isDeferred type) ∧
    (NameResolver.Grants names (shownTypes settings m) →
      ∃ parts run, (renderParts settings m).start names = (.ok parts, run)) ∧
    ∀ parts run, (renderParts settings m).start names = (.ok parts, run) →
      ∃ types, (printTypes settings m).start names = (.ok types, run) ∧
        let call := callCode settings m types.list
        parts.lookup .delegate = some (printAll m call) ∧
        (m.isDeferred = true → m.style = .reactive ∧
          ∃ body, call =
              [.text (indentation 1 settings.indent ++ "return "), .use .field, .text ".chain(",
               .scope .unwrapped body, .text ")"] ∧
            allSessionCalls m body = (sessionOperations m).map (.unwrapped, ·)) ∧
        (m.isDeferred = false →
          allSessionCalls m call = (sessionOperations m).map (.field, ·) ∧
            ".chain" ∉ sessionOperations m) := by
  refine ⟨?types, ?blanks, ?granted, ?written⟩
  case types =>
    intro type
    exact ⟨Session.style_eq_reactive_iff, Session.isDeferred_iff, Session.style_of_isDeferred⟩
  case blanks =>
    intro before blanks after h spaced type
    have hcompact : Session.compact spaced = Session.compact type :=
      Session.compact_insert h before after
    unfold Session.style Session.isDeferred
    rw [hcompact]
    exact ⟨rfl, rfl⟩
  case granted =>
    intro hgrants
    obtain ⟨types, events, hexec, -⟩ := printTypes_asks settings m (Run.start names) hgrants
    exact ⟨_, _, renderParts_of_printTypes hexec⟩
  case written =>
    intro parts run h
    obtain ⟨types, htypes, rfl⟩ := exists_types_of_renderParts h
    refine ⟨types, htypes, ?_, ?_, ?_⟩
    · rw [printAll_callCode]
      rfl
    · intro hdeferred
      exact ⟨style_of_isDeferred hdeferred, callCode_of_isDeferred m settings hdeferred types.list⟩
    · intro hplain
      exact ⟨allSessionCalls_callCode m settings hplain types.list,
        chain_not_mem_sessionOperations m⟩

/-- The sample upsert unwraps its session, and the sample insertion does not. A blank in a session
    type leaves it deferred. -/
theorem render_calls_session_samples :
    let spaced := String.ofList ("io.smallrye.mutiny.Uni<".toList ++ [' '] ++
      "org.hibernate.reactive.mutiny.Mutiny.StatelessSession>".toList)
    (AllBlank [' '] ∧ Session.isDeferred spaced = true ∧ Session.style spaced = .reactive) ∧
    (∃ parts run body list,
      (renderParts recovering Sample.saveBooks).start (⟨[]⟩ : Verbatim) = (.ok parts, run) ∧
      Sample.saveBooks.isDeferred = true ∧
      parts.lookup .delegate =
        some (printAll Sample.saveBooks (callCode recovering Sample.saveBooks list)) ∧
      callCode recovering Sample.saveBooks list =
        [.text (indentation 1 recovering.indent ++ "return "), .use .field, .text ".chain(",
         .scope .unwrapped body, .text ")"] ∧
      allSessionCalls Sample.saveBooks body =
        [(.unwrapped, ".getIdentifier"), (.unwrapped, ".insert"), (.unwrapped, ".upsertAll")]) ∧
    ∃ parts run list,
      (renderParts recovering Sample.insertBook).start (⟨[]⟩ : Verbatim) = (.ok parts, run) ∧
      Sample.insertBook.isDeferred = false ∧
      parts.lookup .delegate =
        some (printAll Sample.insertBook (callCode recovering Sample.insertBook list)) ∧
      allSessionCalls Sample.insertBook (callCode recovering Sample.insertBook list) =
        [(.field, ".insert")] := by
  intro spaced
  have hgrants (types : List String) : NameResolver.Grants (⟨[]⟩ : Verbatim) types :=
    NameResolver.grants_of_forall (fun _ type => ⟨type, rfl⟩) _ _
  obtain ⟨htypes, hblanks, hgranted, hwritten⟩ :=
    render_calls_session recovering Sample.saveBooks (⟨[]⟩ : Verbatim)
  have hdeferred : Sample.saveBooks.isDeferred = true := by decide +kernel
  refine ⟨?_, ?_, ?_⟩
  · have hblank : AllBlank [' '] := by decide
    have hspaced : Session.isDeferred spaced = true := by
      rw [(hblanks _ _ _ hblank).2, ← hdeferred]
      simp [MethodSpec.isDeferred, Sample.saveBooks, Session.deferred, Session.uniType,
        Session.reactiveStatelessType]
    exact ⟨hblank, hspaced, (htypes spaced).2.2 hspaced⟩
  · obtain ⟨parts, run, hparts⟩ := hgranted (hgrants _)
    obtain ⟨types, -, hlookup, hunwraps, -⟩ := hwritten parts run hparts
    obtain ⟨hstyle, body, hcode, hcalls⟩ := hunwraps hdeferred
    refine ⟨parts, run, body, types.list, hparts, hdeferred, hlookup, hcode, ?_⟩
    rw [hcalls, sessionOperations, hstyle]
    simp [Sample.saveBooks, CallForm.forKind]
  · have hplain : Sample.insertBook.isDeferred = false := by decide +kernel
    obtain ⟨-, -, hgranted', hwritten'⟩ :=
      render_calls_session recovering Sample.insertBook (⟨[]⟩ : Verbatim)
    obtain ⟨parts, run, hparts⟩ := hgranted' (hgrants _)
    obtain ⟨types, -, hlookup, -, hcalls⟩ := hwritten' parts run hparts
    refine ⟨parts, run, types.list, hparts, hplain, hlookup, ?_⟩
    rw [(hcalls hplain).1, sessionOperations]
    simp [Sample.insertBook, Operation.word, CallForm.forKind]

end Method

end DataMethods
