import DataMethods.GeneratedType
import DataMethods.Proofs.Method.Composed
import DataMethods.Proofs.Method.Text
import DataMethods.Proofs.Rendering.Alike

/-!
# Runs of one unit

While a unit is generated, types are asked for and methods are written, in any order, and some of
these steps fail. A run is the list of such steps. Every step moves the table through the requests
it makes, so a run is known by the row of all its requests.

## Key results

- `run_eq_after`: a run ends in the table that its requests lead to
- `run_growsTo`: the table grows during a run
-/

namespace DataMethods.ImportTable

/-- What is done with the table of a unit: a type is asked for, or a method is written. Either may
    fail. -/
inductive Step where
  | request (type : String)
  | write (settings : Settings) (method : MethodSpec)

namespace Step

/-- The types that a step asks for, in order. -/
def requests (t : ImportTable) : Step → List String
  | .request type => [type]
  | .write settings method => ((Method.render settings method).start t).2.requests

/-- The table after a step. -/
def apply (t : ImportTable) : Step → ImportTable
  | .request type => (t.request type).state
  | .write settings method => ((Method.render settings method).start t).2.names

/-- The rendering that a step carries out. -/
def rendering : Step → Rendering ImportTable String
  | .request type => Rendering.printType type
  | .write settings method => Method.render settings method

/-- What a step ends in: a text, or why there is none. -/
def outcome (t : ImportTable) (step : Step) : Except RenderError String :=
  (step.rendering.start t).1

theorem rendering_composed (step : Step) : Rendering.Composed step.rendering := by
  cases step with
  | request type => exact .printType type
  | write settings method => exact Method.render_composed settings method

theorem requests_eq_asked (t : ImportTable) (step : Step) :
    step.requests t = step.rendering.asked (Run.start t) := by
  cases step with
  | request type => exact (Rendering.asked_printType type _).symm
  | write settings method => rfl

theorem apply_eq_names (t : ImportTable) (step : Step) :
    step.apply t = (step.rendering.exec (Run.start t)).2.names := by
  cases step with
  | request type => exact congrArg (·.2.names) (Rendering.exec_printType type (Run.start t)).symm
  | write settings method => rfl

/-- What a written method asks for can be found out without putting its text together. -/
theorem requests_write (t : ImportTable) (settings : Settings) (method : MethodSpec) :
    (write settings method).requests t =
      ((Method.printTypes settings method).start t).2.requests :=
  congrArg Run.requests (Method.start_render_run settings method t)

/-- A step moves the table through its requests and in no other way. -/
theorem apply_eq_after (t : ImportTable) (step : Step) :
    step.apply t = NameResolver.after t (step.requests t) := by
  rw [apply_eq_names, requests_eq_asked]
  exact step.rendering_composed.names_exec (Run.start t)

theorem apply_growsTo (t : ImportTable) (step : Step) : t.GrowsTo (step.apply t) := by
  rw [apply_eq_after]
  exact after_growsTo t _

/-- On tables that answer what it asks for alike, a step has the same outcome, asks for the same
    types, and leads to tables of this kind. -/
theorem apply_alike {related : ImportTable → ImportTable → Prop} {inQuestion : String → Prop}
    (halike : NameResolver.Alike related inQuestion) {t t' : ImportTable} (h : related t t')
    {step : Step} (hstep : ∀ type ∈ step.requests t, inQuestion type) :
    step.outcome t = step.outcome t' ∧ step.requests t = step.requests t' ∧
      related (step.apply t) (step.apply t') := by
  rw [requests_eq_asked] at hstep
  rw [requests_eq_asked, requests_eq_asked, apply_eq_names, apply_eq_names]
  have hrun : related (Run.start t).names (Run.start t').names := h
  exact step.rendering_composed.alike halike hrun hstep

end Step

/-- The table after a run. -/
def run (t : ImportTable) (steps : List Step) : ImportTable :=
  steps.foldl Step.apply t

/-- The types that a run asks for, in order. -/
def requestsOf (t : ImportTable) : List Step → List String
  | [] => []
  | step :: steps => step.requests t ++ requestsOf (step.apply t) steps

theorem run_eq_after (t : ImportTable) (steps : List Step) :
    t.run steps = NameResolver.after t (t.requestsOf steps) := by
  -- By induction on the steps, where what a step asks for depends on the table it finds.
  induction steps generalizing t with
  | nil => rfl
  | cons step steps ih =>
    rw [requestsOf, NameResolver.after_append, ← step.apply_eq_after t]
    exact ih (step.apply t)

theorem run_growsTo (t : ImportTable) (steps : List Step) : t.GrowsTo (t.run steps) := by
  induction steps generalizing t with
  | nil => exact .refl t
  | cons step steps ih => exact (step.apply_growsTo t).trans (ih (step.apply t))

end DataMethods.ImportTable
