import DataMethods.Proofs.Method.Text
import DataMethods.Proofs.Rendering.Refused

/-!
# Methods that cannot be written

A unit's import table refuses no type that the generator itself asks for. What is left are the types
that the user gives: that of the argument, and the marker if the argument has one. If one of them is
no type the method is not written, and in no other case; the error is the one of the first.

## Key results

- `printTypes_endsIn`: asking for the types of a method ends in the fault of the user's types
- `render_fails_iff`: the errors of writing a method are the refusals of the user's types
-/

namespace DataMethods

open Rendering

/-! ## Types of the generator -/

/-- Both failures of every mapping are types. -/
theorem FailureMapping.fault?_forOperation (operation : Operation) :
    ∀ f ∈ forOperation operation,
      TypeName.fault? f.handled = none ∧ TypeName.fault? f.rethrown = none := by
  have hopen : ∀ f ∈ forOperation operation, '<' ∉ f.handled.toList ∧ '<' ∉ f.rethrown.toList := by
    cases operation <;> decide
  intro f hf
  exact ⟨TypeName.fault?_of_not_mem (hopen f hf).1, TypeName.fault?_of_not_mem (hopen f hf).2⟩

namespace Method

theorem fault?_listType : TypeName.fault? Session.listType = none :=
  TypeName.fault?_of_not_mem (by decide)

theorem fault?_uniType : TypeName.fault? Session.uniType = none :=
  TypeName.fault?_of_not_mem (by decide)

/-! ## Requests of a method -/

/-- The fault of the first type that the user gives for the method and that is none. -/
def userFault? (settings : Settings) (m : MethodSpec) : Option MalformedType :=
  (TypeName.fault? m.entityType).or
    (if m.marksNonnull = true then TypeName.fault? settings.nonnullMarker else none)

theorem printMapping_endsIn {operation : Operation} {f : FailureMapping}
    (h : f ∈ FailureMapping.forOperation operation) :
    EndsIn (printMapping f : Rendering ImportTable FailureMapping) none := by
  obtain ⟨hhandled, hrethrown⟩ := FailureMapping.fault?_forOperation operation f h
  have hboth : EndsIn (printMapping f) _ :=
    .bind (.printType f.handled) fun _ => .bind (.printType f.rethrown) fun _ => .pure _
  rwa [hhandled, hrethrown] at hboth

theorem printFailures_endsIn (settings : Settings) (m : MethodSpec) :
    EndsIn (printFailures settings m : Rendering ImportTable (List FailureMapping)) none := by
  unfold printFailures
  split
  · exact .mapM fun _ => printMapping_endsIn
  · exact .pure []

theorem noteChoice_endsIn (m : MethodSpec) :
    EndsIn (noteChoice m : Rendering ImportTable Unit) none := by
  unfold noteChoice
  split
  · exact .note _
  · exact .pure ()

/-- Of all the types that a method shows, those of the user alone can be refused. -/
theorem printTypes_endsIn (settings : Settings) (m : MethodSpec) :
    EndsIn (printTypes settings m : Rendering ImportTable PrintedTypes)
      (userFault? settings m) := by
  have hlist : EndsIn (printList m : Rendering ImportTable String) _ :=
    .ite (.printType Session.listType) (.pure "")
  have huni : EndsIn (printUni m : Rendering ImportTable String) _ :=
    .ite (.printType Session.uniType) (.pure "")
  have hnonnull : EndsIn (printNonnull settings m : Rendering ImportTable String) _ :=
    .ite (.printType settings.nonnullMarker) (.pure "")
  have hall : EndsIn (printTypes settings m : Rendering ImportTable PrintedTypes) _ :=
    .bind hlist fun _ => .bind (.note _) fun _ => .bind (.printType m.entityType) fun _ =>
      .bind huni fun _ => .bind hnonnull fun _ => .bind (noteChoice_endsIn m) fun _ =>
        .bind (printFailures_endsIn settings m) fun _ => .pure _
  simpa [fault?_listType, fault?_uniType, userFault?] using hall

/-! ## Writing a method -/

/-- A table refuses a type that the user gives for the method, and the error says why. The type of
    the argument comes first; the marker counts only if the argument has one. -/
def RefusedBy (names : ImportTable) (settings : Settings) (m : MethodSpec) (e : RenderError) :
    Prop :=
  ∃ fault, e = .type fault ∧
    ((names.request m.entityType).outcome = .error fault ∨
      (∃ text, (names.request m.entityType).outcome = .ok text) ∧ m.marksNonnull = true ∧
        (names.request settings.nonnullMarker).outcome = .error fault)

theorem refusedBy_iff {names : ImportTable} {settings : Settings} {m : MethodSpec}
    {e : RenderError} :
    RefusedBy names settings m e ↔
      ∃ fault, userFault? settings m = some fault ∧ e = .type fault := by
  simp only [RefusedBy, ImportTable.request_eq_error_iff, ImportTable.exists_request_eq_ok_iff,
    userFault?, Option.or_eq_some_iff]
  refine exists_congr fun fault => ?_
  rw [and_comm]
  -- Without a marker there is no second fault.
  cases m.marksNonnull <;> simp

/-- A method is not written if, and only if, a table refuses a type that the user gives for it. The
    error is that refusal. It makes no difference how much the table in which the method is written
    has come to hold, or the one that is asked for the types. No other error is possible, be it of a
    fragment, of the pattern of a call, or of the choice of the call. -/
theorem render_fails_iff (settings : Settings) (m : MethodSpec) (t names : ImportTable)
    (e : RenderError) :
    (((render settings m).start t).1 = .error e ↔ RefusedBy names settings m e) ∧
    (((renderParts settings m).start t).1 = .error e ↔ RefusedBy names settings m e) := by
  have htypes := printTypes_endsIn settings m
  have hrender : EndsIn (render settings m) (userFault? settings m) := by
    rw [render_eq]
    exact htypes.map _
  have hparts : EndsIn (renderParts settings m) (userFault? settings m) := by
    rw [renderParts_eq]
    exact htypes.map _
  rw [refusedBy_iff]
  exact ⟨hrender.eq_error_iff t, hparts.eq_error_iff t⟩

end Method

end DataMethods
