import DataMethods.Proofs.ImportTable.Growth
import DataMethods.Rendering

/-!
# Composed renderings

A rendering may do anything to its run. Those of this library are put together from requests, notes
and errors only, which is what `Composed` says. A composed rendering reaches the resolver through
its requests alone, so the resolver's last state is known from the list of them, and on an import
table such a rendering can be repeated in every later state with the same outcome.

## Key results

- `Composed.exec_run`: the resolver ends in the state that the requests in the journal lead to
- `Composed.growsTo`: an import table grows
- `Composed.again`: repeated in a later state of the table, a rendering has the same outcome, leaves
  the table as it is and records no import
-/

namespace DataMethods

/-- The state of a resolver after requests, granted or not. -/
def NameResolver.after {σ : Type} [NameResolver σ] (names : σ) (types : List String) : σ :=
  types.foldl (fun s type => (NameResolver.request s type).state) names

theorem NameResolver.after_append {σ : Type} [NameResolver σ] (names : σ) (xs ys : List String) :
    after names (xs ++ ys) = after (after names xs) ys :=
  List.foldl_append

namespace Event

/-- The types asked for, in order. -/
def requestsIn (events : List Event) : List String :=
  events.filterMap fun
    | .requested type => some type
    | _ => none

/-- The imports that were recorded, in order. -/
def importsIn (events : List Event) : List String :=
  events.filterMap fun
    | .imported name => some name
    | _ => none

/-- Is the event a note of the writer, and nothing that the resolver did? -/
def isNote : Event → Bool
  | .requested _ => false
  | .imported _ => false
  | .planned _ => true
  | .choosing _ => true

@[simp] theorem requestsIn_nil : requestsIn [] = [] := rfl

@[simp] theorem importsIn_nil : importsIn [] = [] := rfl

@[simp] theorem requestsIn_append (xs ys : List Event) :
    requestsIn (xs ++ ys) = requestsIn xs ++ requestsIn ys :=
  List.filterMap_append

@[simp] theorem importsIn_append (xs ys : List Event) :
    importsIn (xs ++ ys) = importsIn xs ++ importsIn ys :=
  List.filterMap_append

theorem requestsIn_note {event : Event} (h : event.isNote = true) : requestsIn [event] = [] := by
  cases event with
  | requested type => contradiction
  | imported name => contradiction
  | planned m => rfl
  | choosing method => rfl

theorem importsIn_note {event : Event} (h : event.isNote = true) : importsIn [event] = [] := by
  cases event with
  | requested type => contradiction
  | imported name => contradiction
  | planned m => rfl
  | choosing method => rfl

/-- A request leaves itself in the journal, and nothing else that counts as a request. -/
theorem requestsIn_answer (type : String) (imports : List String) :
    requestsIn (.requested type :: imports.map .imported) = [type] := by
  have hnone : requestsIn (imports.map .imported) = [] := by
    induction imports with
    | nil => rfl
    | cons _ _ ih => exact ih
  simp [requestsIn] at hnone ⊢

end Event

namespace Rendering

open Event

variable {σ α β : Type}

/-- The outcome of a rendering that goes on from a run, and the run after it. -/
def exec (r : Rendering σ α) (run : Run σ) : Except RenderError α × Run σ :=
  StateT.run (ExceptT.run r) run

theorem start_eq_exec (r : Rendering σ α) (names : σ) : r.start names = r.exec (.start names) :=
  rfl

@[simp] theorem exec_pure (a : α) (run : Run σ) : exec (pure a) run = (.ok a, run) := rfl

@[simp] theorem exec_throw (e : RenderError) (run : Run σ) :
    exec (throw e : Rendering σ α) run = (.error e, run) :=
  rfl

@[simp] theorem exec_note (event : Event) (run : Run σ) :
    exec (note event) run = (.ok (), ⟨run.names, run.journal ++ [event]⟩) :=
  rfl

theorem exec_get (run : Run σ) : exec (get : Rendering σ (Run σ)) run = (.ok run, run) := rfl

theorem exec_set (next run : Run σ) : exec (set next : Rendering σ PUnit) run = (.ok ⟨⟩, next) :=
  rfl

/-- An error ends the rendering, with the run as it is then. -/
theorem exec_bind (r : Rendering σ α) (f : α → Rendering σ β) (run : Run σ) :
    exec (r >>= f) run =
      match r.exec run with
      | (.ok a, next) => (f a).exec next
      | (.error e, next) => (.error e, next) := by
  unfold exec
  rw [ExceptT.run_bind, StateT.run_bind]
  rcases StateT.run (ExceptT.run r) run with ⟨_ | _, _⟩ <;> rfl

theorem exec_bind_of_ok {r : Rendering σ α} {f : α → Rendering σ β} {run next : Run σ} {a : α}
    (h : r.exec run = (.ok a, next)) : exec (r >>= f) run = (f a).exec next := by
  rw [exec_bind, h]

theorem exec_bind_of_error {r : Rendering σ α} {f : α → Rendering σ β} {run next : Run σ}
    {e : RenderError} (h : r.exec run = (.error e, next)) :
    exec (r >>= f) run = (.error e, next) := by
  rw [exec_bind, h]

/-- A rendering of two parts has a result if the first part has one and the second goes on from
    there to the last result. -/
theorem exec_bind_eq_ok_iff {r : Rendering σ α} {f : α → Rendering σ β} {run last : Run σ} {b : β} :
    exec (r >>= f) run = (.ok b, last) ↔
      ∃ a next, r.exec run = (.ok a, next) ∧ (f a).exec next = (.ok b, last) := by
  rw [exec_bind]
  rcases r.exec run with ⟨e | a, next⟩
  · simp
  · constructor
    · intro h
      exact ⟨a, next, rfl, h⟩
    · rintro ⟨a', next', hfirst, hrest⟩
      cases hfirst
      exact hrest

theorem outcome_bind_eq_ok_iff {r : Rendering σ α} {f : α → Rendering σ β} {run : Run σ} {b : β} :
    (exec (r >>= f) run).1 = .ok b ↔
      ∃ a, (r.exec run).1 = .ok a ∧ ((f a).exec (r.exec run).2).1 = .ok b := by
  rw [exec_bind]
  rcases r.exec run with ⟨_ | _, _⟩ <;> simp

theorem length_of_exec_mapM {f : α → Rendering σ β} {as : List α} {bs : List β} {run last : Run σ}
    (h : exec (as.mapM f) run = (.ok bs, last)) : bs.length = as.length := by
  induction as generalizing bs run last with
  | nil =>
    rw [List.mapM_nil, exec_pure, Prod.mk.injEq] at h
    cases h.1
    rfl
  | cons a as ih =>
    rw [List.mapM_cons] at h
    obtain ⟨b, next, -, h⟩ := exec_bind_eq_ok_iff.mp h
    obtain ⟨rest, next', hrest, h⟩ := exec_bind_eq_ok_iff.mp h
    rw [exec_pure, Prod.mk.injEq] at h
    cases h.1
    rw [List.length_cons, List.length_cons, ih hrest]

/-- What is done with the result leaves the run as it is. -/
theorem exec_map (f : α → β) (r : Rendering σ α) (run : Run σ) :
    exec (f <$> r) run = ((r.exec run).1.map f, (r.exec run).2) := by
  rw [map_eq_pure_bind, exec_bind]
  rcases r.exec run with ⟨_ | _, _⟩ <;> rfl

theorem exec_printType [NameResolver σ] (type : String) (run : Run σ) :
    exec (printType type) run =
      ((NameResolver.request run.names type).outcome.mapError .type,
        ⟨(NameResolver.request run.names type).state, run.journal ++ .requested type ::
          (NameResolver.request run.names type).recorded.map .imported⟩) := by
  unfold printType
  rw [exec_bind_of_ok (exec_get run), exec_bind_of_ok (exec_set _ run)]
  cases (NameResolver.request run.names type).outcome <;> rfl

theorem outcome_printType_eq_ok_iff [NameResolver σ] {type text : String} {run : Run σ} :
    (exec (printType type) run).1 = .ok text ↔
      (NameResolver.request run.names type).outcome = .ok text := by
  rw [exec_printType]
  cases (NameResolver.request run.names type).outcome with
  | ok printed =>
    exact ⟨fun h => congrArg _ (Except.ok.inj h), fun h => congrArg _ (Except.ok.inj h)⟩
  | error fault => exact ⟨nofun, nofun⟩

variable [NameResolver σ]

/-- A rendering put together from requests, notes and errors. -/
inductive Composed : {α : Type} → Rendering σ α → Prop where
  | pure {α : Type} (a : α) : Composed (Pure.pure a : Rendering σ α)
  | throw {α : Type} (e : RenderError) : Composed (throw e : Rendering σ α)
  | note (event : Event) (h : event.isNote = true) : Composed (note event : Rendering σ Unit)
  | printType (type : String) : Composed (printType type : Rendering σ String)
  | bind {α β : Type} {r : Rendering σ α} {f : α → Rendering σ β} :
      Composed r → (∀ a, Composed (f a)) → Composed (r >>= f)

namespace Composed

theorem mapM {f : α → Rendering σ β} (h : ∀ a, Composed (f a)) (xs : List α) :
    Composed (xs.mapM f) := by
  induction xs with
  | nil =>
    rw [List.mapM_nil]
    exact .pure []
  | cons x xs ih =>
    rw [List.mapM_cons]
    exact .bind (h x) fun _ => .bind ih fun _ => .pure _

theorem ite {c : Prop} [Decidable c] {r s : Rendering σ α} (hr : Composed r) (hs : Composed s) :
    Composed (if c then r else s) := by
  split
  · exact hr
  · exact hs

/-- A fragment is filled without the resolver. -/
theorem fillFragment (source : String) (context : Template.Context) :
    Composed (Rendering.fillFragment source context : Rendering σ String) := by
  unfold Rendering.fillFragment
  split
  · exact .throw _
  · split
    · exact .throw _
    · exact .pure _

/-- The journal only gets longer, and the resolver ends in the state that the new requests in the
    journal lead to. -/
theorem exec_run {r : Rendering σ α} (h : Composed r) (run : Run σ) :
    ∃ events, (r.exec run).2 =
      ⟨NameResolver.after run.names (requestsIn events), run.journal ++ events⟩ := by
  -- By induction on how the rendering is put together, from every run that it may go on from.
  induction h generalizing run with
  | pure a => exact ⟨[], by simp [NameResolver.after]⟩
  | throw e => exact ⟨[], by simp [NameResolver.after]⟩
  | note event hnote =>
    refine ⟨[event], ?_⟩
    rw [requestsIn_note hnote]
    rfl
  | printType type =>
    refine ⟨.requested type ::
      (NameResolver.request run.names type).recorded.map .imported, ?_⟩
    rw [exec_printType, requestsIn_answer]
    rfl
  | @bind _ _ r f _ _ ihr ihf =>
    obtain ⟨events, hrun⟩ := ihr run
    -- An error in the first part is the end of the whole; the second part adds no events then.
    rcases hr : r.exec run with ⟨e | a, next⟩
    · rw [hr] at hrun
      exact ⟨events, by rw [exec_bind_of_error hr]; exact hrun⟩
    · rw [hr] at hrun
      obtain ⟨more, hmore⟩ := ihf a next
      refine ⟨events ++ more, ?_⟩
      rw [exec_bind_of_ok hr, hmore, show next = _ from hrun, requestsIn_append,
        NameResolver.after_append, List.append_assoc]

end Composed

end Rendering

namespace ImportTable

theorem after_growsTo (t : ImportTable) (types : List String) :
    t.GrowsTo (NameResolver.after t types) := by
  induction types generalizing t with
  | nil => exact .refl t
  | cons type rest ih => exact (request_growsTo t type).trans (ih _)

end ImportTable

namespace Rendering.Composed

open Event

variable {α : Type}

theorem growsTo {r : Rendering ImportTable α} (h : Composed r) (run : Run ImportTable) :
    run.names.GrowsTo (r.exec run).2.names := by
  obtain ⟨events, hrun⟩ := h.exec_run run
  rw [hrun]
  exact ImportTable.after_growsTo run.names _

theorem growsTo_of_exec {r : Rendering ImportTable α} (h : Composed r) {run next : Run ImportTable}
    {outcome : Except RenderError α} (hexec : r.exec run = (outcome, next)) :
    run.names.GrowsTo next.names := by
  have hgrows := h.growsTo run
  rwa [hexec] at hgrows

/-- Repeated in a later state of the table, a rendering has the same outcome. It leaves the table as
    it is and records no import. -/
theorem again {r : Rendering ImportTable α} (h : Composed r) (run later : Run ImportTable)
    (hlater : (r.exec run).2.names.GrowsTo later.names) :
    ∃ events, importsIn events = [] ∧
      r.exec later = ((r.exec run).1, ⟨later.names, later.journal ++ events⟩) := by
  -- By induction on how the rendering is put together. Only a request looks at the table, and it is
  -- answered alike in both states.
  induction h generalizing run later with
  | pure a => exact ⟨[], rfl, by simp⟩
  | throw e => exact ⟨[], rfl, by simp⟩
  | note event hnote => exact ⟨[event], importsIn_note hnote, rfl⟩
  | printType type =>
    refine ⟨[.requested type], rfl, ?_⟩
    rw [exec_printType] at hlater ⊢
    have hagain : NameResolver.request later.names type = _ := ImportTable.request_again hlater
    rw [hagain, exec_printType]
    rfl
  | @bind _ _ r f hr hf ihr ihf =>
    rcases hfirst : r.exec run with ⟨e | a, next⟩
    · rw [exec_bind_of_error hfirst] at hlater ⊢
      obtain ⟨events, himports, hexec⟩ := ihr run later (by rwa [hfirst])
      rw [hfirst] at hexec
      exact ⟨events, himports, exec_bind_of_error hexec⟩
    · rw [exec_bind_of_ok hfirst] at hlater ⊢
      -- The table after the first part is an earlier state of the later table, too.
      obtain ⟨events, himports, hexec⟩ := ihr run later (by
        rw [hfirst]
        exact ((hf a).growsTo next).trans hlater)
      rw [hfirst] at hexec
      obtain ⟨more, hmore, hrest⟩ :=
        ihf a next ⟨later.names, later.journal ++ events⟩ hlater
      refine ⟨events ++ more, by rw [importsIn_append, himports, hmore]; rfl, ?_⟩
      rw [exec_bind_of_ok hexec, hrest, List.append_assoc]

end Rendering.Composed

/-- What was printed for a type is printed for it in every later state of the table. -/
theorem Rendering.request_of_exec_printType {type text : String} {run next : Run ImportTable}
    {later : ImportTable} (h : (printType type).exec run = (.ok text, next))
    (hgrows : next.names.GrowsTo later) : later.request type = ⟨.ok text, later, []⟩ := by
  have houtcome : (NameResolver.request run.names type).outcome = .ok text :=
    outcome_printType_eq_ok_iff.mp (congrArg Prod.fst h)
  rw [exec_printType] at h
  cases congrArg Prod.snd h
  rw [← houtcome]
  exact ImportTable.request_again hgrows

end DataMethods
