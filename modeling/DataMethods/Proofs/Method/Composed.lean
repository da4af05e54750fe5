import DataMethods.Method.Render
import DataMethods.Proofs.Rendering.Composed

/-!
# Generated methods as composed renderings

Whatever the settings and the method, the text is written through requests, notes and errors only.
What holds of composed renderings therefore holds of `Method.render` and of `Method.renderParts`.
-/

namespace DataMethods

open Rendering

variable {σ : Type} [NameResolver σ]

namespace FailureMapping

theorem renderCatch_composed (indent : String) (m : FailureMapping) :
    Composed (renderCatch indent m : Rendering σ String) :=
  .bind (.printType _) fun _ => .bind (.printType _) fun _ => .fillFragment _ _

theorem renderStage_composed (indent : String) (m : FailureMapping) :
    Composed (renderStage indent m : Rendering σ String) :=
  .bind (.printType _) fun _ => .bind (.printType _) fun _ => .fillFragment _ _

theorem renderCatches_composed (indent : String) (ms : List FailureMapping) :
    Composed (renderCatches indent ms : Rendering σ String) :=
  .bind (.mapM (renderCatch_composed indent) ms) fun _ => .pure _

theorem renderStages_composed (indent : String) (ms : List FailureMapping) :
    Composed (renderStages indent ms : Rendering σ String) :=
  .bind (.mapM (renderStage_composed indent) ms) fun _ => .pure _

end FailureMapping

theorem CallForm.render_composed (form : CallForm) (argument : String) :
    Composed (form.render argument : Rendering σ String) := by
  unfold CallForm.render
  split
  · refine .bind (.printType _) fun listType => ?_
    dsimp only
    split
    · exact .pure _
    · exact .throw _
  · refine .bind (.pure _) fun listType => ?_
    dsimp only
    split
    · exact .pure _
    · exact .throw _

namespace Method

theorem plan_composed (settings : Settings) (m : MethodSpec) :
    Composed (plan settings m : Rendering σ Plan) := by
  unfold plan
  split
  · exact .throw _
  · next form _ =>
    exact .bind (form.render_composed _) fun _ => .bind (.note _ rfl) fun _ => .pure _

theorem resultType_composed (m : MethodSpec) (type : String) :
    Composed (resultType m type : Rendering σ String) := by
  unfold resultType
  split
  · exact .pure _
  · exact .bind (.printType _) fun _ => .pure _

theorem renderHeader_composed (plan : Plan) : Composed (renderHeader plan : Rendering σ String) := by
  unfold renderHeader
  refine .bind (.printType _) fun _ => .bind (resultType_composed _ _) fun _ => ?_
  split
  · exact .bind (.printType _) fun _ => .fillFragment _ _
  · exact .bind (.pure _) fun _ => .fillFragment _ _

theorem renderDelegate_composed (plan : Plan) :
    Composed (renderDelegate plan : Rendering σ String) := by
  dsimp only [renderDelegate]
  split
  · refine .bind (.note _ rfl) fun _ => ?_
    split <;> exact .fillFragment _ _
  · split <;> exact .fillFragment _ _

theorem renderFailures_composed (plan : Plan) :
    Composed (renderFailures plan : Rendering σ String) := by
  unfold renderFailures
  split
  · exact FailureMapping.renderCatches_composed _ _
  · exact FailureMapping.renderStages_composed _ _
  · exact .pure _

/-- Every part of a method is composed. -/
theorem renderPart_composed (plan : Plan) (part : MethodPart) :
    Composed (renderPart plan part : Rendering σ String) := by
  cases part with
  | header => exact renderHeader_composed plan
  | nullGuard => exact .fillFragment _ _
  | tryOpen => simp only [renderPart, renderTryOpen]; split <;> exact .pure _
  | delegate => exact renderDelegate_composed plan
  | result =>
    simp only [renderPart, renderResult]
    split
    · split <;> exact .pure _
    · exact .pure _
  | tryClose => simp only [renderPart, renderTryClose]; split <;> exact .pure _
  | failures => exact renderFailures_composed plan
  | close => simp only [renderPart, renderClose]; split <;> exact .pure _

theorem renderParts_composed (settings : Settings) (m : MethodSpec) :
    Composed (renderParts settings m : Rendering σ (List (MethodPart × String))) :=
  .bind (plan_composed settings m) fun plan =>
    .mapM (fun part => .bind (renderPart_composed plan part) fun _ => .pure _) _

theorem render_composed (settings : Settings) (m : MethodSpec) :
    Composed (render settings m : Rendering σ String) :=
  .bind (renderParts_composed settings m) fun _ => .pure _

end Method

end DataMethods
