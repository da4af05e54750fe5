import DataMethods.Proofs.Method.Text

/-!
# The two forms of failure mappings

A row of mappings is written as catch clauses or as stages of a pipeline. The form decides about the
text around the printed types and about nothing else: which types are asked for, in which order, and
where a refusal is the end depends on the row alone. What holds of both forms is therefore shown
once, of any `form` whose text of a mapping is made of the two printed types.

## Key results

- `start_renderAll_eq_ok_iff`: the text of a row is that of its mappings as they are printed
- `start_renderAll_eq_error_iff`: a row that is not written in one form is not written in any other
- `forms_agree`: the texts of both forms, what they ask for, and rows put together
-/

namespace DataMethods.FailureMapping

open Event Method NameResolver Rendering Template.Fragment

variable {σ : Type} [NameResolver σ]

/-- The resolver prints the failures in a row of mappings as those in the second row, when it is
    asked for the handled failure of each mapping and then for the one that is thrown for it. -/
inductive PrintsAs : σ → List FailureMapping → List FailureMapping → Prop where
  | nil (names : σ) : PrintsAs names [] []
  | cons {names : σ} {f printed : FailureMapping} {fs rest : List FailureMapping} :
      (request names f.handled).outcome = .ok printed.handled →
      (request (request names f.handled).state f.rethrown).outcome = .ok printed.rethrown →
      PrintsAs (after names [f.handled, f.rethrown]) fs rest →
      PrintsAs names (f :: fs) (printed :: rest)

/-- The requests for the failures in a row of mappings. -/
def requestsFor (ms : List FailureMapping) : List Event :=
  ms.flatMap fun f => [.requested f.handled, .requested f.rethrown]

/-- The text of a row of mappings, each in the given form. -/
def renderAll (form : FailureMapping → Rendering σ String) (ms : List FailureMapping) :
    Rendering σ String := do
  return String.join (← ms.mapM form)

/-! ## Printed mappings -/

theorem outcome_printMapping_eq_ok_iff {f printed : FailureMapping} {run : Run σ} :
    (exec (printMapping f) run).1 = .ok printed ↔
      (request run.names f.handled).outcome = .ok printed.handled ∧
      (request (request run.names f.handled).state f.rethrown).outcome = .ok printed.rethrown := by
  have hstate : (exec (printType f.handled) run).2.names = (request run.names f.handled).state := by
    rw [exec_printType]
  simp only [printMapping, outcome_bind_eq_ok_iff, outcome_printType_eq_ok_iff, exec_pure, hstate,
    Except.ok.injEq]
  constructor
  · rintro ⟨handled, hhandled, rethrown, hrethrown, rfl⟩
    exact ⟨hhandled, hrethrown⟩
  · rintro ⟨hhandled, hrethrown⟩
    exact ⟨printed.handled, hhandled, printed.rethrown, hrethrown, rfl⟩

/-- Where both failures of a mapping are printed, the resolver has been asked for them. -/
theorem names_printMapping {f printed : FailureMapping} {run : Run σ}
    (h : (exec (printMapping f) run).1 = .ok printed) :
    (exec (printMapping f) run).2.names = after run.names [f.handled, f.rethrown] := by
  obtain ⟨hhandled, hrethrown⟩ := outcome_printMapping_eq_ok_iff.mp h
  obtain ⟨_, _, hexec, -⟩ :=
    (printMapping_follows f).granted run ⟨⟨_, hhandled⟩, ⟨_, hrethrown⟩, trivial⟩
  exact congrArg (·.2.names) hexec

/-- A row of mappings is printed as the resolver prints it from mapping to mapping. -/
theorem outcome_mapM_eq_ok_iff {ms printed : List FailureMapping} {run : Run σ} :
    (exec (ms.mapM printMapping) run).1 = .ok printed ↔ PrintsAs run.names ms printed := by
  -- By induction on the row, from every run that it may go on from.
  induction ms generalizing printed run with
  | nil =>
    rw [List.mapM_nil, exec_pure, Except.ok.injEq]
    constructor
    · rintro rfl
      exact .nil _
    · rintro ⟨⟩
      rfl
  | cons f fs ih =>
    simp only [List.mapM_cons, outcome_bind_eq_ok_iff, ih, exec_pure, Except.ok.injEq]
    constructor
    · rintro ⟨first, hfirst, rest, hrest, rfl⟩
      obtain ⟨hhandled, hrethrown⟩ := outcome_printMapping_eq_ok_iff.mp hfirst
      rw [names_printMapping hfirst] at hrest
      exact .cons hhandled hrethrown hrest
    · rintro (_ | @⟨_, _, first, _, rest, hhandled, hrethrown, hrest⟩)
      have hfirst := outcome_printMapping_eq_ok_iff.mpr ⟨hhandled, hrethrown⟩
      rw [← names_printMapping hfirst] at hrest
      exact ⟨first, hfirst, rest, hrest, rfl⟩

/-! ## Any form -/

omit [NameResolver σ] in
/-- Of two rows the second is written behind the first one, from where that has led to. -/
theorem renderAll_append (form : FailureMapping → Rendering σ String)
    (ms more : List FailureMapping) :
    renderAll form (ms ++ more) = do return (← renderAll form ms) ++ (← renderAll form more) := by
  simp only [renderAll, List.mapM_append, bind_assoc, pure_bind, String.join_append]

section

variable {form : FailureMapping → Rendering σ String} {text : FailureMapping → String}
  (h : ∀ f, form f = text <$> printMapping f) (ms : List FailureMapping) (names : σ)
include h

theorem renderAll_eq :
    renderAll form ms =
      (fun printed => String.join (printed.map text)) <$> ms.mapM printMapping := by
  simp only [renderAll, mapM_eq_map h, map_eq_pure_bind, bind_assoc, pure_bind]

theorem renderAll_follows : Follows (renderAll form ms) (requestsFor ms) := by
  rw [renderAll_eq h]
  exact .map _ (.mapM printMapping_follows ms)

/-- The form of a row makes no difference to the run. -/
theorem start_renderAll_run :
    ((renderAll form ms).start names).2 = ((ms.mapM printMapping).start names).2 := by
  rw [start_eq_exec, start_eq_exec, renderAll_eq h, exec_map]

theorem start_renderAll_eq_ok_iff (written : String) :
    ((renderAll form ms).start names).1 = .ok written ↔ ∃ printed, PrintsAs names ms printed ∧
      written = String.join (printed.map text) ∧
      ownIn ((renderAll form ms).start names).2.journal = requestsFor ms := by
  have hprinted (printed : List FailureMapping) :
      ((ms.mapM printMapping).exec (Run.start names)).1 = .ok printed ↔ PrintsAs names ms printed :=
    outcome_mapM_eq_ok_iff
  have hwritten : ((renderAll form ms).start names).1 = .ok written ↔
      ∃ printed, PrintsAs names ms printed ∧ written = String.join (printed.map text) := by
    rw [start_eq_exec, renderAll_eq h, exec_map]
    simp only [← hprinted]
    cases ((ms.mapM printMapping).exec (Run.start names)).1 <;> simp [Except.map, eq_comm]
  constructor
  · intro hok
    obtain ⟨printed, hprints, htext⟩ := hwritten.mp hok
    exact ⟨printed, hprints, htext, (renderAll_follows h ms).ownIn_of_ok hok⟩
  · rintro ⟨printed, hprints, htext, -⟩
    exact hwritten.mpr ⟨printed, hprints, htext⟩

theorem start_renderAll_eq_error_iff (e : RenderError) :
    ((renderAll form ms).start names).1 = .error e ↔
      ((ms.mapM printMapping).start names).1 = .error e := by
  rw [start_eq_exec, start_eq_exec, renderAll_eq h, exec_map]
  cases ((ms.mapM printMapping).exec (Run.start names)).1 <;> simp [Except.map]

end

/-! ## Both forms -/

/-- If the resolver prints all failures of a row, the row is written in either form: a clause or a
    stage for each mapping, in their order, made of its two printed failures. If it refuses one,
    neither form is written, and the first refusal is the error of both. Either way both have asked
    for the same types, the handled failure of each mapping before the one that is thrown for it,
    and nothing after a refusal, so they leave the resolver in the same state. A row in two parts
    is written part by part, from one state to the next. -/
theorem forms_agree (indent : String) (ms more : List FailureMapping) (names : σ) :
    let catches := (renderCatches indent ms).start names
    let stages := (renderStages indent ms).start names
    (∀ text, catches.1 = .ok text ↔ ∃ printed, PrintsAs names ms printed ∧
      text = String.join (printed.map (catchText indent)) ∧
      ownIn catches.2.journal = requestsFor ms) ∧
    (∀ text, stages.1 = .ok text ↔ ∃ printed, PrintsAs names ms printed ∧
      text = String.join (printed.map (stageText indent)) ∧
      ownIn stages.2.journal = requestsFor ms) ∧
    (∀ e, catches.1 = .error e ↔ ∃ done fault, RefusedAt names (requestsFor ms) done fault ∧
      e = .type fault ∧ ownIn catches.2.journal = done) ∧
    (∀ e, stages.1 = .error e ↔ catches.1 = .error e) ∧
    stages.2 = catches.2 ∧
    (renderCatches indent (ms ++ more) : Rendering σ String) =
      (do return (← renderCatches indent ms) ++ (← renderCatches indent more)) ∧
    (renderStages indent (ms ++ more) : Rendering σ String) =
      (do return (← renderStages indent ms) ++ (← renderStages indent more)) := by
  intro catches stages
  have hcatch : ∀ f, (renderCatch indent f : Rendering σ String) = _ := renderCatch_eq indent
  have hstage : ∀ f, (renderStage indent f : Rendering σ String) = _ := renderStage_eq indent
  have herror (e : RenderError) : stages.1 = .error e ↔ catches.1 = .error e :=
    (start_renderAll_eq_error_iff hstage ms names e).trans
      (start_renderAll_eq_error_iff hcatch ms names e).symm
  have hrun : stages.2 = catches.2 :=
    (start_renderAll_run hstage ms names).trans (start_renderAll_run hcatch ms names).symm
  exact ⟨start_renderAll_eq_ok_iff hcatch ms names, start_renderAll_eq_ok_iff hstage ms names,
    fun e => (renderAll_follows hcatch ms).eq_error_iff, herror, hrun,
    renderAll_append _ ms more, renderAll_append _ ms more⟩

end DataMethods.FailureMapping
