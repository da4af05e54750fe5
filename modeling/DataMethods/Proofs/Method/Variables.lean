import DataMethods.MethodSpec.Fields
import DataMethods.Proofs.ImportTable.Names
import DataMethods.Proofs.Method.Code
import DataMethods.Proofs.Method.Refused

/-!
# The variables of a method

Some names in a method are fixed, others are the caller's choice, so a name may refer to another
variable than the one that was meant. `WellScoped` says that every name in the code of a method
refers to what was meant. This is not so for all methods that can be specified: the names of the
argument and of the session's field are looked at one by one, and not next to the fixed names.

## Key results

- `wellScoped_code_iff`, `render_wellScoped_iff`: the names refer to what was meant if and only if
  they are kept apart, in the sense of `NamesApart`
-/

namespace DataMethods

open Rendering

namespace Method

/-! ## Scopes -/

namespace Variable

/-- Is the variable declared in the method? -/
def isLocal : Variable → Bool
  | field => false
  | _ => true

/-- The name of a variable refers to it if no variable declared further in has the same name. The
    variables in scope are given from the innermost one outwards. -/
def Visible (m : MethodSpec) (v : Variable) : List Variable → Prop
  | [] => False
  | w :: outer => w = v ∨ (w.name m ≠ v.name m ∧ v.Visible m outer)

end Variable

namespace Code

mutual

/-- A name refers to what was meant: a variable is the innermost one of its name, a type has the
    name of no variable, and a declared variable has not the name of another local one. -/
def WellScoped (m : MethodSpec) (known : List Variable) : Code → Prop
  | .text _ => True
  | .use v => v.Visible m known
  | .type printed => ∀ v ∈ known, v.name m ≠ QualifiedName.firstSegment printed
  | .bare _ => True
  | .scope v body =>
    -- A local variable may hide a field, but no other local variable.
    (∀ w ∈ known, w.isLocal = true → w.name m ≠ v.name m) ∧ AllWellScoped m (v :: known) body

/-- All names in the code refer to what was meant. -/
def AllWellScoped (m : MethodSpec) (known : List Variable) : List Code → Prop
  | [] => True
  | c :: cs => c.WellScoped m known ∧ AllWellScoped m known cs

end

variable {m : MethodSpec} {known : List Variable}

theorem allWellScoped_append {xs ys : List Code} :
    AllWellScoped m known (xs ++ ys) ↔ AllWellScoped m known xs ∧ AllWellScoped m known ys := by
  induction xs with
  | nil => simp [AllWellScoped]
  | cons c cs ih => simp only [List.cons_append, AllWellScoped, ih, and_assoc]

/-- Code of which every part is well-scoped under the same condition. -/
theorem allWellScoped_flatMap {α : Type} {f : α → List Code} {p : Prop} {as : List α}
    (hne : as ≠ []) (h : ∀ a, AllWellScoped m known (f a) ↔ p) :
    AllWellScoped m known (as.flatMap f) ↔ p := by
  induction as with
  | nil => contradiction
  | cons a as ih =>
    rw [List.flatMap_cons, allWellScoped_append, h a]
    cases as with
    | nil => simp [AllWellScoped]
    | cons b bs => rw [ih (List.cons_ne_nil b bs), and_self]

end Code

/-! ## What the names refer to -/

/-- The names that a method declares or refers to are kept apart. -/
structure NamesApart (settings : Settings) (m : MethodSpec) (list : String) : Prop where
  /-- The argument does not hide the field. -/
  field : m.argumentName ≠ m.sessionName
  /-- The unwrapped session does not hide the argument. -/
  unwrapped : m.isDeferred = true → m.argumentName ≠ Variable.unwrapped.name m
  /-- The failure in a catch clause does not hide the argument. -/
  caught : m.style = .blocking → m.argumentName ≠ Variable.caught.name m
  /-- The failure in a stage of the pipeline does not hide the argument. -/
  failed : m.style = .reactive → settings.reactiveFailures = .recover →
    m.argumentName ≠ Variable.failed.name m
  /-- Neither the argument nor the field hides the type of lists. -/
  list : m.kind = .array → m.style = .blocking →
    m.argumentName ≠ QualifiedName.firstSegment list ∧
      m.sessionName ≠ QualifiedName.firstSegment list

/-- Only a reactive method unwraps its session. -/
theorem style_of_isDeferred {m : MethodSpec} (h : m.isDeferred = true) : m.style = .reactive := by
  rw [MethodSpec.isDeferred] at h
  simp [MethodSpec.style, Session.style, h]

section

variable {settings : Settings} {m : MethodSpec} {known : List Variable}

open Code

theorem wellScoped_guardCode :
    AllWellScoped m [.argument, .field] (guardCode settings m) := by
  simp [guardCode, AllWellScoped, WellScoped, Variable.Visible]

theorem wellScoped_returnCode :
    AllWellScoped m [.argument, .field] (returnCode settings m) := by
  unfold returnCode
  cases m.returnsArgument <;> cases m.style <;>
    simp [AllWellScoped, WellScoped, Variable.Visible]

theorem wellScoped_tailCode {list : String} :
    AllWellScoped m known (tailCode m list) ↔ Variable.argument.Visible m known ∧
      (m.kind = .array → m.style = .blocking →
        ∀ v ∈ known, v.name m ≠ QualifiedName.firstSegment list) := by
  unfold tailCode
  cases m.kind <;> cases m.style <;> simp [AllWellScoped, WellScoped, and_comm]

theorem wellScoped_pipelineCode {session : Variable} {list : String} (h : m.style = .reactive) :
    AllWellScoped m known (pipelineCode m session list) ↔
      session.Visible m known ∧ Variable.argument.Visible m known := by
  unfold pipelineCode
  split
  · have htwice (hsession : session.Visible m known)
        (hargument : Variable.argument.Visible m known) :
        session.Visible m known ∧ Variable.argument.Visible m known ∧
          session.Visible m known ∧ Variable.argument.Visible m known :=
      ⟨hsession, hargument, hsession, hargument⟩
    simpa [allWellScoped_append, AllWellScoped, WellScoped, wellScoped_tailCode, h] using htwice
  · simp [AllWellScoped, WellScoped, wellScoped_tailCode, h]

theorem wellScoped_callCode {list : String} :
    AllWellScoped m [.argument, .field] (callCode settings m list) ↔
      m.argumentName ≠ m.sessionName ∧
      (m.isDeferred = true → m.argumentName ≠ Variable.unwrapped.name m) ∧
      (m.kind = .array → m.style = .blocking →
        m.argumentName ≠ QualifiedName.firstSegment list ∧
          m.sessionName ≠ QualifiedName.firstSegment list) := by
  cases hstyle : m.style with
  | blocking =>
    -- A blocking method calls the field itself.
    have hdeferred : m.isDeferred = false := by
      by_contra h
      rw [Bool.not_eq_false] at h
      exact absurd (hstyle.symm.trans (style_of_isDeferred h)) (by decide)
    by_cases hchoosing : m.operation = .upsert ∧ m.generatesIdentifier = true
    · -- The call stands twice, once for each operation.
      simpa [callCode, allWellScoped_append, AllWellScoped, WellScoped, wellScoped_tailCode, hstyle,
        hchoosing, hdeferred, Variable.Visible, Variable.name] using
        fun hfield hlist => And.intro hfield hlist
    · simp [callCode, allWellScoped_append, AllWellScoped, WellScoped, wellScoped_tailCode, hstyle,
        hchoosing, hdeferred, Variable.Visible, Variable.name]
  | reactive =>
    have hsymm : m.argumentName ≠ Session.unwrappedName ↔ Session.unwrappedName ≠ m.argumentName :=
      ne_comm
    cases hdeferred : m.isDeferred <;>
      simp [callCode, AllWellScoped, WellScoped, hstyle, hdeferred, hsymm,
        wellScoped_pipelineCode hstyle, Variable.Visible, Variable.name, Variable.isLocal]

theorem wellScoped_catchCode {indent : String} (f : FailureMapping) :
    AllWellScoped m [.argument, .field] (catchCode indent f) ↔
      m.argumentName ≠ Variable.caught.name m := by
  simp [catchCode, AllWellScoped, WellScoped, Variable.Visible, Variable.name, Variable.isLocal]

theorem wellScoped_stageCode {indent : String} (f : FailureMapping) :
    AllWellScoped m [.argument, .field] (stageCode indent f) ↔
      m.argumentName ≠ Variable.failed.name m := by
  simp [stageCode, AllWellScoped, WellScoped, Variable.Visible, Variable.name, Variable.isLocal]

theorem wellScoped_failuresCode {failures : List FailureMapping}
    (hne : m.style = .blocking ∨ settings.reactiveFailures = .recover → failures ≠ []) :
    AllWellScoped m [.argument, .field] (failuresCode settings m failures) ↔
      (m.style = .blocking → m.argumentName ≠ Variable.caught.name m) ∧
      (m.style = .reactive → settings.reactiveFailures = .recover →
        m.argumentName ≠ Variable.failed.name m) := by
  unfold failuresCode
  cases hstyle : m.style with
  | blocking =>
    have hscoped : AllWellScoped m [.argument, .field]
        (failures.flatMap (catchCode settings.indent)) ↔ _ :=
      allWellScoped_flatMap (hne (.inl hstyle)) wellScoped_catchCode
    simp [hscoped]
  | reactive =>
    cases hfailures : settings.reactiveFailures with
    | pass => simp [AllWellScoped]
    | recover =>
      have hscoped : AllWellScoped m [.argument, .field]
          (failures.flatMap (stageCode settings.indent)) ↔ _ :=
        allWellScoped_flatMap (hne (.inr hfailures)) wellScoped_stageCode
      simp [hscoped]

/-- Nothing stands before the declaration of the argument but types. -/
theorem wellScoped_headCode (entity uni nonnull : String) :
    AllWellScoped m known (headCode settings m entity uni nonnull) := by
  unfold headCode resultCode
  cases settings.emitOverride && m.overrides <;> cases m.style <;> cases m.returnsArgument <;>
    simp [AllWellScoped, WellScoped]

/-- In a method that treats a failure whenever it treats failures at all, the names refer to what
    was meant if and only if they are kept apart. -/
theorem wellScoped_code_iff {types : PrintedTypes}
    (hne : m.style = .blocking ∨ settings.reactiveFailures = .recover → types.failures ≠ []) :
    AllWellScoped m [.field] (code settings m types) ↔ NamesApart settings m types.list := by
  have hbody : AllWellScoped m [.field] (code settings m types) ↔
      AllWellScoped m [.argument, .field] (callCode settings m types.list) ∧
        AllWellScoped m [.argument, .field] (failuresCode settings m types.failures) := by
    -- The other parts refer to nothing but the argument, and no variable is declared before it.
    simp [code, bodyCode, openCode, closeCode, allWellScoped_append, AllWellScoped, WellScoped,
      wellScoped_headCode, wellScoped_guardCode, wellScoped_returnCode, Variable.isLocal]
  rw [hbody, wellScoped_callCode, wellScoped_failuresCode hne]
  constructor
  · rintro ⟨⟨hfield, hunwrapped, hlist⟩, hcaught, hfailed⟩
    exact ⟨hfield, hunwrapped, hcaught, hfailed, hlist⟩
  · rintro ⟨hfield, hunwrapped, hcaught, hfailed, hlist⟩
    exact ⟨⟨hfield, hunwrapped, hlist⟩, hcaught, hfailed⟩

end

/-! ## Written methods -/

variable {σ : Type} [NameResolver σ]

/-- Every operation has failures to treat, and if a method treats failures, then all of them. -/
theorem failures_of_printTypes {settings : Settings} {m : MethodSpec} {run last : Run σ}
    {types : PrintedTypes} (h : (printTypes settings m).exec run = (.ok types, last))
    (htreats : m.style = .blocking ∨ settings.reactiveFailures = .recover) :
    types.failures ≠ [] := by
  -- Of all that is printed only the last part counts, the mappings of the operation.
  simp only [printTypes, exec_bind_eq_ok_iff] at h
  obtain ⟨_, _, -, _, _, -, _, _, -, _, _, -, _, _, -, _, _, -, failures, next, hfailures, h⟩ := h
  rw [exec_pure, Prod.mk.injEq] at h
  cases h.1
  rw [printFailures, if_pos htreats] at hfailures
  have hlength := length_of_exec_mapM hfailures
  rintro (rfl : failures = [])
  cases hop : m.operation <;> simp [FailureMapping.forOperation, hop] at hlength

/-- A method that is written is the text of its code, and the names in this code refer to what was
    meant if and only if they are kept apart. -/
theorem render_wellScoped_iff {settings : Settings} {m : MethodSpec} {names : σ} {text : String}
    {run : Run σ} (h : (render settings m).start names = (.ok text, run)) :
    ∃ types, (printTypes settings m).start names = (.ok types, run) ∧
      text = Code.printAll m (code settings m types) ∧
      (Code.AllWellScoped m [.field] (code settings m types) ↔
        NamesApart settings m types.list) := by
  -- Writing is asking for the types and putting the text together, so the types were printed.
  have hprinted : ∃ types, (printTypes settings m).start names = (.ok types, run) ∧
      text = Method.text settings m types := by
    rw [start_eq_exec, render_eq, exec_map] at h
    rw [start_eq_exec]
    rcases hexec : (printTypes settings m).exec (Run.start names) with ⟨e | types, last⟩
    · simp [hexec, Except.map] at h
    · simp only [hexec, Except.map, Prod.mk.injEq, Except.ok.injEq] at h
      exact ⟨types, by rw [h.2], h.1.symm⟩
  obtain ⟨types, htypes, htext⟩ := hprinted
  refine ⟨types, htypes, htext.trans (printAll_code settings m types).symm, ?_⟩
  exact wellScoped_code_iff (failures_of_printTypes htypes)

/-- The names of the sample insertion are kept apart. -/
theorem render_wellScoped_insertBook :
    ∃ text types run,
      (render recovering Sample.insertBook).start (⟨[]⟩ : Verbatim) = (.ok text, run) ∧
      text = Code.printAll Sample.insertBook (code recovering Sample.insertBook types) ∧
      Code.AllWellScoped Sample.insertBook [.field] (code recovering Sample.insertBook types) := by
  have hgrants : NameResolver.Grants (⟨[]⟩ : Verbatim) (shownTypes recovering Sample.insertBook) :=
    NameResolver.grants_of_forall (fun _ type => ⟨type, rfl⟩) _ _
  obtain ⟨types, events, hexec, -⟩ :=
    printTypes_asks recovering Sample.insertBook (Run.start (⟨[]⟩ : Verbatim)) hgrants
  have hprinted : (printTypes recovering Sample.insertBook).start (⟨[]⟩ : Verbatim) =
      (.ok types, _) := hexec
  have hrender := render_of_printTypes hprinted
  obtain ⟨types', htypes', htext, hiff⟩ := render_wellScoped_iff hrender
  have hstyle : Sample.insertBook.style = .blocking := by decide +kernel
  have hapart : NamesApart recovering Sample.insertBook types'.list :=
    { field := by decide
      unwrapped := fun _ => by decide
      caught := fun _ => by decide
      failed := fun hreactive => by simp [hstyle] at hreactive
      list := fun harray => by simp [Sample.insertBook] at harray }
  exact ⟨_, types', _, hrender, htext, hiff.mpr hapart⟩

/-- The sample insertion with an argument that has the name of the failure in a catch clause. -/
def hidingInsertion : MethodSpec :=
  { Sample.insertBook with
    argumentName := "exception"
    argumentName_usable := by decide +kernel }

/-- The caller may name the argument like the failure in a catch clause. The method is written all
    the same, and its catch clauses declare a second local variable of that name. -/
theorem render_hidingInsertion :
    MethodSpec.ofFields
      [("entity_type", .str "org.example.Book"), ("method_name", .str "insert"),
       ("parameter_name", .str "exception"), ("session_name", .str "session"),
       ("session_type", .str "org.hibernate.StatelessSession"), ("operation", .str "insert"),
       ("requires_nonnull_annotation", .bool true)] = .ok hidingInsertion ∧
    hidingInsertion.argumentName = Variable.caught.name hidingInsertion ∧
    ∃ types run,
      (render recovering hidingInsertion).start (ImportTable.empty "org.example") =
        (.ok (Code.printAll hidingInsertion (code recovering hidingInsertion types)), run) ∧
      ¬Code.AllWellScoped hidingInsertion [.field] (code recovering hidingInsertion types) := by
  refine ⟨by decide +kernel, rfl, ?_⟩
  have htypes : ∃ types, ((printTypes recovering hidingInsertion).exec
      (Run.start (ImportTable.empty "org.example"))).1 = .ok types := by
    have hends := printTypes_endsIn recovering hidingInsertion (Run.start (.empty "org.example"))
    have hfault : userFault? recovering hidingInsertion = none := by decide +kernel
    rwa [hfault] at hends
  obtain ⟨types, htypes⟩ := htypes
  have hprinted : (printTypes recovering hidingInsertion).start
      (ImportTable.empty "org.example") = (.ok types, _) := Prod.ext htypes rfl
  have hrender := render_of_printTypes hprinted
  refine ⟨types, _, by rw [hrender, printAll_code], fun hscoped => ?_⟩
  have hapart := (wellScoped_code_iff (failures_of_printTypes hprinted)).mp hscoped
  have hstyle : hidingInsertion.style = .blocking := by decide +kernel
  exact hapart.caught hstyle rfl

end Method

end DataMethods
