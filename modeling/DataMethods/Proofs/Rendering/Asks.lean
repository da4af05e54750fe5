import DataMethods.Proofs.Rendering.Composed

/-!
# Granted and refused requests

A resolver may refuse any request, and what it grants may depend on what it was asked before. A
rendering `Follows` a row of requests and notes if it makes these requests and leaves these notes,
in this order, as far as the requests are granted: it succeeds if they all are, and otherwise ends
with the first one that is refused.

## Key results

- `grants_or_refusedAt`: all requests in a row are granted, or there is a first that is refused
- `Follows.bind`, `Follows.mapM`: a rendering put together from parts follows what the parts follow
- `Follows.eq_error_iff`: the only errors of such a rendering are refusals in its row
-/

namespace DataMethods

variable {σ α β : Type} [NameResolver σ]

namespace Event

/-- Is the event a request or a note of the writer, and nothing that the resolver did? -/
def isOwn : Event → Bool
  | .imported _ => false
  | _ => true

/-- The requests and notes of the writer, in order. -/
def ownIn (events : List Event) : List Event :=
  events.filter isOwn

@[simp] theorem ownIn_nil : ownIn [] = [] := rfl

@[simp] theorem ownIn_append (xs ys : List Event) : ownIn (xs ++ ys) = ownIn xs ++ ownIn ys :=
  List.filter_append ..

theorem ownIn_note {event : Event} (h : event.isNote = true) : ownIn [event] = [event] := by
  cases event with
  | requested type => contradiction
  | imported name => contradiction
  | planned m => rfl
  | choosing method => rfl

/-- Of a request and its answer, the request is the writer's. -/
theorem ownIn_answer (type : String) (imports : List String) :
    ownIn (.requested type :: imports.map .imported) = [.requested type] := by
  have hnone : ownIn (imports.map .imported) = [] := by
    induction imports with
    | nil => rfl
    | cons _ _ ih => exact ih
  exact congrArg (.requested type :: ·) hnone

/-- What the resolver did counts as no request. -/
theorem requestsIn_ownIn (events : List Event) : requestsIn (ownIn events) = requestsIn events := by
  induction events with
  | nil => rfl
  | cons event events ih =>
    cases event with
    | requested type => exact congrArg (type :: ·) ih
    | imported name => exact ih
    | planned m => exact ih
    | choosing method => exact ih

end Event

namespace NameResolver

open Event

/-- The resolver grants the requests when they are made one after the other. -/
def Grants (names : σ) : List String → Prop
  | [] => True
  | type :: rest =>
    (∃ text, (NameResolver.request names type).outcome = .ok text) ∧
      Grants (NameResolver.request names type).state rest

theorem grants_append {names : σ} {xs ys : List String} :
    Grants names (xs ++ ys) ↔ Grants names xs ∧ Grants (after names xs) ys := by
  induction xs generalizing names with
  | nil => simp [Grants, after]
  | cons type rest ih =>
    rw [List.cons_append, Grants, Grants, ih, and_assoc]
    rfl

/-- A resolver that grants every request grants every row of them. -/
theorem grants_of_forall
    (h : ∀ (names : σ) type, ∃ text, (NameResolver.request names type).outcome = .ok text)
    (names : σ) (types : List String) : Grants names types := by
  induction types generalizing names with
  | nil => trivial
  | cons type rest ih => exact ⟨h names type, ih _⟩

/-- The requests in a row are granted up to one that is refused. `done` is the row up to this
    request, which is its last event. -/
def RefusedAt (names : σ) (row done : List Event) (fault : MalformedType) : Prop :=
  done <+: row ∧ ∃ before type, done = before ++ [.requested type] ∧
    Grants names (requestsIn before) ∧
    (NameResolver.request (after names (requestsIn before)) type).outcome = .error fault

/-- A request is refused in a row if it is refused in a first part of it, or if the first part is
    granted and the request is refused in the rest. -/
theorem refusedAt_append_iff {names : σ} {xs ys done : List Event} {fault : MalformedType} :
    RefusedAt names (xs ++ ys) done fault ↔ RefusedAt names xs done fault ∨
      Grants names (requestsIn xs) ∧ ∃ rest, done = xs ++ rest ∧
        RefusedAt (after names (requestsIn xs)) ys rest fault := by
  constructor
  · rintro ⟨⟨later, hsplit⟩, before, type, rfl, hgrants, hrefused⟩
    rcases List.append_eq_append_iff.mp hsplit with ⟨more, rfl, -⟩ | ⟨rest, hdone, rfl⟩
    · exact .inl ⟨List.prefix_append _ more, before, type, rfl, hgrants, hrefused⟩
    · obtain rfl | ⟨middle, last, rfl⟩ := List.eq_nil_or_concat rest
      · -- The refused request is the last event of the first part.
        rw [List.append_nil] at hdone
        exact .inl ⟨hdone ▸ List.prefix_refl _, before, type, rfl, hgrants, hrefused⟩
      · rw [List.concat_eq_append, ← List.append_assoc] at hdone
        obtain ⟨rfl, hlast⟩ := List.append_inj' hdone rfl
        rw [requestsIn_append, grants_append] at hgrants
        rw [requestsIn_append, after_append] at hrefused
        refine .inr ⟨hgrants.1, middle ++ [.requested type], by simp, ?_⟩
        refine ⟨?_, middle, type, rfl, hgrants.2, hrefused⟩
        rw [List.concat_eq_append, ← hlast]
        exact List.prefix_append _ later
  · rintro (⟨hpre, hlast⟩ | ⟨hfirst, rest, rfl, hpre, middle, type, rfl, hgrants, hrefused⟩)
    · exact ⟨hpre.trans (List.prefix_append xs ys), hlast⟩
    · refine ⟨List.prefix_append_right_inj xs |>.mpr hpre, xs ++ middle, type, by simp, ?_, ?_⟩
      · rw [requestsIn_append, grants_append]
        exact ⟨hfirst, hgrants⟩
      · rw [requestsIn_append, after_append]
        exact hrefused

/-- A single request is granted or refused; no other event can be refused. -/
theorem grants_or_refusedAt_singleton (names : σ) (event : Event) :
    Grants names (requestsIn [event]) ∨ ∃ fault, RefusedAt names [event] [event] fault := by
  cases event with
  | requested type =>
    cases houtcome : (NameResolver.request names type).outcome with
    | ok text => exact .inl ⟨⟨text, houtcome⟩, trivial⟩
    | error fault => exact .inr ⟨fault, List.prefix_refl _, [], type, rfl, trivial, houtcome⟩
  | imported name => exact .inl trivial
  | planned m => exact .inl trivial
  | choosing method => exact .inl trivial

/-- Either all requests in a row are granted, or there is a first one that is refused. -/
theorem grants_or_refusedAt (names : σ) (row : List Event) :
    Grants names (requestsIn row) ∨ ∃ done fault, RefusedAt names row done fault := by
  induction row generalizing names with
  | nil => exact .inl trivial
  | cons event rest ih =>
    have hsplit : event :: rest = [event] ++ rest := rfl
    rw [hsplit, requestsIn_append, grants_append]
    simp only [refusedAt_append_iff]
    rcases grants_or_refusedAt_singleton names event with hfirst | ⟨fault, hfirst⟩
    · rcases ih (after names (requestsIn [event])) with hrest | ⟨done, fault, hrest⟩
      · exact .inl ⟨hfirst, hrest⟩
      · exact .inr ⟨event :: done, fault, .inr ⟨hfirst, done, rfl, hrest⟩⟩
    · exact .inr ⟨[event], fault, .inl hfirst⟩

end NameResolver

namespace Rendering

open Event NameResolver

/-- The rendering makes these requests and no others, and succeeds if they are granted. -/
def Asks (r : Rendering σ α) (types : List String) : Prop :=
  ∀ run, Grants run.names types → ∃ a events,
    r.exec run = (.ok a, ⟨after run.names types, run.journal ++ events⟩) ∧
      requestsIn events = types

/-- The rendering goes through the row of requests and notes. If the requests are granted it
    succeeds at the end of the row, and if one is refused it ends there, with the same fault. -/
structure Follows (r : Rendering σ α) (row : List Event) : Prop where
  granted : ∀ run, Grants run.names (requestsIn row) → ∃ a events,
    r.exec run = (.ok a, ⟨after run.names (requestsIn row), run.journal ++ events⟩) ∧
      ownIn events = row
  refused : ∀ run done fault, RefusedAt run.names row done fault → ∃ next events,
    r.exec run = (.error (.type fault), ⟨next, run.journal ++ events⟩) ∧ ownIn events = done

namespace Follows

theorem asks {r : Rendering σ α} {row : List Event} (h : Follows r row) :
    Asks r (requestsIn row) := by
  intro run hgrants
  obtain ⟨a, events, hexec, hown⟩ := h.granted run hgrants
  exact ⟨a, events, hexec, by rw [← requestsIn_ownIn, hown]⟩

theorem pure (a : α) : Follows (Pure.pure a : Rendering σ α) [] := by
  constructor
  · intro run _
    exact ⟨a, [], by simp [after], rfl⟩
  · rintro run done fault ⟨hpre, before, type, rfl, -⟩
    simp at hpre

theorem note {event : Event} (h : event.isNote = true) :
    Follows (Rendering.note event : Rendering σ Unit) [event] := by
  have hnone : requestsIn [event] = [] := requestsIn_note h
  constructor
  · intro run _
    refine ⟨(), [event], ?_, ownIn_note h⟩
    rw [exec_note, hnone]
    rfl
  · rintro run done fault ⟨hpre, before, type, rfl, -⟩
    -- The only event is no request.
    have hmem : Event.requested type ∈ [event] := hpre.subset (by simp)
    rw [← List.mem_singleton.mp hmem] at h
    contradiction

theorem printType (type : String) :
    Follows (Rendering.printType type : Rendering σ String) [.requested type] := by
  constructor
  · intro run ⟨⟨text, htext⟩, _⟩
    have hexec := exec_printType type run
    rw [htext] at hexec
    exact ⟨text, _, hexec, ownIn_answer _ _⟩
  · rintro run done fault ⟨hpre, before, type', rfl, -, hrefused⟩
    -- The row consists of this request, so nothing stands before it.
    obtain ⟨rfl, rfl⟩ : before = [] ∧ type' = type := by
      cases before with
      | nil => simpa using hpre
      | cons first before => simp at hpre
    have hexec := exec_printType type' run
    rw [show (NameResolver.request run.names type').outcome = .error fault from hrefused] at hexec
    exact ⟨_, _, hexec, ownIn_answer _ _⟩

theorem bind {r : Rendering σ α} {f : α → Rendering σ β} {xs ys : List Event} (hr : Follows r xs)
    (hf : ∀ a, Follows (f a) ys) : Follows (r >>= f) (xs ++ ys) := by
  constructor
  · intro run hgrants
    rw [requestsIn_append, grants_append] at hgrants
    obtain ⟨a, events, hfirst, hevents⟩ := hr.granted run hgrants.1
    -- The second part goes on from the state that the first requests led to.
    obtain ⟨b, more, hsecond, hmore⟩ :=
      (hf a).granted ⟨after run.names (requestsIn xs), run.journal ++ events⟩ hgrants.2
    refine ⟨b, events ++ more, ?_, by rw [ownIn_append, hevents, hmore]⟩
    rw [exec_bind_of_ok hfirst, hsecond, requestsIn_append, after_append, List.append_assoc]
  · intro run done fault hrefused
    rcases refusedAt_append_iff.mp hrefused with hfirst | ⟨hgrants, rest, rfl, hsecond⟩
    · obtain ⟨next, events, hexec, hown⟩ := hr.refused run done fault hfirst
      exact ⟨next, events, exec_bind_of_error hexec, hown⟩
    · obtain ⟨a, events, hfirst, hevents⟩ := hr.granted run hgrants
      obtain ⟨next, more, hexec, hmore⟩ :=
        (hf a).refused ⟨after run.names (requestsIn xs), run.journal ++ events⟩ _ fault hsecond
      refine ⟨next, events ++ more, ?_, by rw [ownIn_append, hevents, hmore]⟩
      rw [exec_bind_of_ok hfirst, hexec, List.append_assoc]

theorem map {r : Rendering σ α} {row : List Event} (f : α → β) (hr : Follows r row) :
    Follows (f <$> r) row := by
  rw [map_eq_pure_bind, ← List.append_nil row]
  exact .bind hr fun a => .pure (f a)

theorem ite {c : Prop} [Decidable c] {r s : Rendering σ α} {xs ys : List Event} (hr : Follows r xs)
    (hs : Follows s ys) : Follows (if c then r else s) (if c then xs else ys) := by
  split
  · exact hr
  · exact hs

theorem mapM {f : α → Rendering σ β} {row : α → List Event} (h : ∀ a, Follows (f a) (row a))
    (as : List α) : Follows (as.mapM f) (as.flatMap row) := by
  -- By induction on the list, with `bind` for each element.
  induction as with
  | nil =>
    rw [List.mapM_nil]
    exact .pure []
  | cons a as ih =>
    rw [List.mapM_cons, List.flatMap_cons]
    exact .bind (h a) fun b => .map (b :: ·) ih

/-! ### Outcomes -/

variable {r : Rendering σ α} {row : List Event} {names : σ}

/-- A rendering that has a result has made all requests in the row. -/
theorem ownIn_of_ok (h : Follows r row) {a : α} (ha : (r.start names).1 = .ok a) :
    ownIn (r.start names).2.journal = row := by
  rcases grants_or_refusedAt names row with hgrants | ⟨done, fault, hrefused⟩
  · obtain ⟨_, events, hexec, hown⟩ := h.granted (Run.start names) hgrants
    exact (congrArg (ownIn ·.2.journal) hexec).trans hown
  · obtain ⟨_, _, hexec, -⟩ := h.refused (Run.start names) done fault hrefused
    rw [start_eq_exec, hexec] at ha
    contradiction

/-- The only errors are refusals. One of them is the error if the rendering has come to its
    request, and not beyond. -/
theorem eq_error_iff (h : Follows r row) {e : RenderError} :
    (r.start names).1 = .error e ↔ ∃ done fault, RefusedAt names row done fault ∧
      e = .type fault ∧ ownIn (r.start names).2.journal = done := by
  constructor
  · intro he
    rcases grants_or_refusedAt names row with hgrants | ⟨done, fault, hrefused⟩
    · obtain ⟨_, _, hexec, -⟩ := h.granted (Run.start names) hgrants
      rw [start_eq_exec, hexec] at he
      contradiction
    · obtain ⟨_, events, hexec, hown⟩ := h.refused (Run.start names) done fault hrefused
      rw [start_eq_exec, hexec, Except.error.injEq] at he
      exact ⟨done, fault, hrefused, he.symm, (congrArg (ownIn ·.2.journal) hexec).trans hown⟩
  · rintro ⟨done, fault, hrefused, rfl, -⟩
    obtain ⟨_, _, hexec, -⟩ := h.refused (Run.start names) done fault hrefused
    exact congrArg Prod.fst hexec

end Follows

end Rendering

end DataMethods
