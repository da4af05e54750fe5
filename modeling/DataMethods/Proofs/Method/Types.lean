import DataMethods.Method.Render
import DataMethods.Proofs.Rendering.Prints

/-!
# The types that a method shows

While a method is written, the resolver is asked for the types in it. `shownTypes` lists them in the
order of the requests, and `course` lists the requests together with the notes that are left between
them. Settings and method alone decide about both. `printTypes` makes the requests, leaves the notes,
and does nothing else.

## Key results

- `printTypes_follows`: the course of a method is what `printTypes` goes through
- `requestsIn_course`: the requests in it are those for the types that the method shows
- `printTypes_all`: what holds of all printed texts holds of the types that the method shows
-/

namespace DataMethods

open Rendering

/-- The types that a method shows, as they are printed. What a method does not show is empty. -/
structure PrintedTypes where
  list : String
  entity : String
  uni : String
  nonnull : String
  failures : List FailureMapping

/-- All printed types have the property. -/
structure PrintedTypes.All (p : String → Prop) (types : PrintedTypes) : Prop where
  list : p types.list
  entity : p types.entity
  uni : p types.uni
  nonnull : p types.nonnull
  failures : ∀ f ∈ types.failures, p f.handled ∧ p f.rethrown

namespace Method

/-- The types that a method shows, in the order in which they are asked for. -/
def shownTypes (settings : Settings) (m : MethodSpec) : List String :=
  (if m.kind = .array ∧ m.style = .blocking then [Session.listType] else []) ++
  [m.entityType] ++
  (if m.style = .reactive then [Session.uniType] else []) ++
  (if m.marksNonnull then [settings.nonnullMarker] else []) ++
  (if m.style = .blocking ∨ settings.reactiveFailures = .recover then
    (FailureMapping.forOperation m.operation).flatMap fun f => [f.handled, f.rethrown]
  else [])

/-- The requests for these types, and the notes that are left between them: one of the plan, before
    the argument's type is asked for, and one behind the header if the presence of an identifier
    decides. -/
def course (settings : Settings) (m : MethodSpec) : List Event :=
  (if m.kind = .array ∧ m.style = .blocking then [.requested Session.listType] else []) ++
  [.planned m, .requested m.entityType] ++
  (if m.style = .reactive then [.requested Session.uniType] else []) ++
  (if m.marksNonnull then [.requested settings.nonnullMarker] else []) ++
  (if m.operation = .upsert ∧ m.generatesIdentifier = true then [.choosing m.methodName] else []) ++
  (if m.style = .blocking ∨ settings.reactiveFailures = .recover then
    (FailureMapping.forOperation m.operation).flatMap fun f =>
      [.requested f.handled, .requested f.rethrown]
  else [])

variable {σ : Type}

/-- Notes that the presence of an identifier decides, if it does. -/
def noteChoice (m : MethodSpec) : Rendering σ Unit :=
  if m.choosesByIdentifier then note (.choosing m.methodName) else pure ()

variable [NameResolver σ]

/-- Both failures of a mapping, printed. -/
def printMapping (f : FailureMapping) : Rendering σ FailureMapping := do
  let handled ← printType f.handled
  let rethrown ← printType f.rethrown
  return ⟨handled, rethrown⟩

/-- The list type, which a blocking method shows if it takes an array. -/
def printList (m : MethodSpec) : Rendering σ String :=
  if m.kind = .array ∧ m.style = .blocking then printType Session.listType else pure ""

/-- The type of a deferred value, which a reactive method shows. -/
def printUni (m : MethodSpec) : Rendering σ String :=
  if m.style = .reactive then printType Session.uniType else pure ""

/-- The marker, if the argument has one. -/
def printNonnull (settings : Settings) (m : MethodSpec) : Rendering σ String :=
  if m.marksNonnull then printType settings.nonnullMarker else pure ""

/-- The failures that the method treats, in the order of their mappings. -/
def printFailures (settings : Settings) (m : MethodSpec) : Rendering σ (List FailureMapping) :=
  if m.style = .blocking ∨ settings.reactiveFailures = .recover then
    (FailureMapping.forOperation m.operation).mapM printMapping
  else pure []

/-- Asks for all types that the method shows. The two notes stand where writing leaves them. -/
def printTypes (settings : Settings) (m : MethodSpec) : Rendering σ PrintedTypes := do
  let list ← printList m
  note (.planned m)
  let entity ← printType m.entityType
  let uni ← printUni m
  let nonnull ← printNonnull settings m
  noteChoice m
  let failures ← printFailures settings m
  return ⟨list, entity, uni, nonnull, failures⟩

theorem choosesByIdentifier_eq_true_iff (m : MethodSpec) :
    m.choosesByIdentifier = true ↔ m.operation = .upsert ∧ m.generatesIdentifier = true := by
  simp [MethodSpec.choosesByIdentifier]

theorem printMapping_follows (f : FailureMapping) :
    Follows (printMapping f : Rendering σ FailureMapping)
      [.requested f.handled, .requested f.rethrown] :=
  .bind (.printType _) fun _ => .bind (.printType _) fun _ => .pure _

theorem noteChoice_follows (m : MethodSpec) :
    Follows (noteChoice m : Rendering σ Unit)
      (if m.operation = .upsert ∧ m.generatesIdentifier = true then [.choosing m.methodName]
      else []) := by
  simp only [noteChoice, choosesByIdentifier_eq_true_iff]
  exact .ite (.note rfl) (.pure ())

theorem printTypes_follows (settings : Settings) (m : MethodSpec) :
    Follows (printTypes settings m : Rendering σ PrintedTypes) (course settings m) := by
  have hlist : Follows (printList m : Rendering σ String) _ := .ite (.printType _) (.pure _)
  have huni : Follows (printUni m : Rendering σ String) _ := .ite (.printType _) (.pure _)
  have hnonnull : Follows (printNonnull settings m : Rendering σ String) _ :=
    .ite (.printType _) (.pure _)
  have hfailures : Follows (printFailures settings m : Rendering σ (List FailureMapping)) _ :=
    .ite (.mapM printMapping_follows _) (.pure _)
  have hall : Follows (printTypes settings m : Rendering σ PrintedTypes) _ :=
    .bind hlist fun _ => .bind (.note rfl) fun _ => .bind (.printType _) fun _ =>
      .bind huni fun _ => .bind hnonnull fun _ => .bind (noteChoice_follows m) fun _ =>
        .bind hfailures fun _ => .pure _
  simpa [course] using hall

/-- The requests in the course of a method are those for the types that it shows. -/
theorem requestsIn_course (settings : Settings) (m : MethodSpec) :
    Event.requestsIn (course settings m) = shownTypes settings m := by
  have hmappings (fs : List FailureMapping) :
      Event.requestsIn (fs.flatMap fun f => [.requested f.handled, .requested f.rethrown]) =
        fs.flatMap fun f => [f.handled, f.rethrown] := by
    induction fs with
    | nil => rfl
    | cons f fs ih =>
      rw [List.flatMap_cons, Event.requestsIn_append, ih]
      rfl
  have hrequest (type : String) : Event.requestsIn [.requested type] = [type] := rfl
  have hplanned (type : String) : Event.requestsIn [.planned m, .requested type] = [type] := rfl
  have hchoosing : Event.requestsIn [.choosing m.methodName] = [] := rfl
  -- The condition for the second note makes no difference, since a note is no request.
  simp only [course, shownTypes, Event.requestsIn_append, apply_ite Event.requestsIn,
    Event.requestsIn_nil, hmappings, hrequest, hplanned, hchoosing, ite_self, List.append_nil]

theorem printTypes_asks (settings : Settings) (m : MethodSpec) :
    Asks (printTypes settings m : Rendering σ PrintedTypes) (shownTypes settings m) := by
  rw [← requestsIn_course]
  exact (printTypes_follows settings m).asks

theorem printMapping_yields {p : String → Prop} (f : FailureMapping) :
    Yields p (printMapping f : Rendering σ FailureMapping) [f.handled, f.rethrown]
      fun printed => p printed.handled ∧ p printed.rethrown :=
  .bind (.printType _) fun _ hhandled => .bind (.printType _) fun _ hrethrown =>
    .pure ⟨hhandled, hrethrown⟩

/-- What holds of all texts that are printed for the types that a method shows holds of its printed
    types, if it holds of the empty text, which stands for what is not shown. -/
theorem printTypes_all {p : String → Prop} (hempty : p "") (settings : Settings) (m : MethodSpec) :
    Yields p (printTypes settings m : Rendering σ PrintedTypes) (shownTypes settings m)
      (PrintedTypes.All p) := by
  have hlist : Yields p (printList m : Rendering σ String) _ p :=
    .ite (.printType _) (.pure hempty)
  have huni : Yields p (printUni m : Rendering σ String) _ p :=
    .ite (.printType _) (.pure hempty)
  have hnonnull : Yields p (printNonnull settings m : Rendering σ String) _ p :=
    .ite (.printType _) (.pure hempty)
  have hchoice : Yields p (noteChoice m : Rendering σ Unit) _ fun _ => True :=
    .ite (.note _) (.pure trivial)
  have hfailures : Yields p (printFailures settings m : Rendering σ _) _ _ :=
    .ite (.mapM printMapping_yields _) (.pure fun _ hf => absurd hf List.not_mem_nil)
  have hall : Yields p (printTypes settings m : Rendering σ PrintedTypes) _ (PrintedTypes.All p) :=
    .bind hlist fun _ h₁ => .bind (.note _) fun _ _ => .bind (.printType _) fun _ h₂ =>
      .bind huni fun _ h₃ => .bind hnonnull fun _ h₄ => .bind hchoice fun _ _ =>
        .bind hfailures fun _ h₅ => .pure ⟨h₁, h₂, h₃, h₄, h₅⟩
  simpa [shownTypes] using hall

end Method

end DataMethods
