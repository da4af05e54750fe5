import DataMethods.Proofs.Rendering.Composed

/-!
# Resolvers that answer alike

Two states of a resolver may have come to hold different things and still answer the same requests
alike. A rendering that is put together from requests, notes and errors knows a resolver by its
answers only: from two such states it has the same outcome, and asks for the same types.

## Key results

- `Composed.alike`: a composed rendering cannot tell apart states that answer its requests alike
-/

namespace DataMethods

open Event

/-- Related states give the same answers to the types in question, and are related still after
    each of them. -/
def NameResolver.Alike {σ : Type} [NameResolver σ] (related : σ → σ → Prop)
    (inQuestion : String → Prop) : Prop :=
  ∀ names names', related names names' → ∀ type, inQuestion type →
    (request names type).outcome = (request names' type).outcome ∧
      related (request names type).state (request names' type).state

namespace Rendering

variable {σ α β : Type}

/-- The types that a rendering asks for when it goes on from a run, in order. -/
def asked (r : Rendering σ α) (run : Run σ) : List String :=
  requestsIn ((r.exec run).2.journal.drop run.journal.length)

theorem asked_of_journal {r : Rendering σ α} {run : Run σ} {events : List Event}
    (h : (r.exec run).2.journal = run.journal ++ events) : r.asked run = requestsIn events := by
  rw [asked, h, List.drop_left]

theorem asked_bind_of_error {r : Rendering σ α} {f : α → Rendering σ β} {run next : Run σ}
    {e : RenderError} (h : r.exec run = (.error e, next)) : (r >>= f).asked run = r.asked run := by
  rw [asked, asked, exec_bind_of_error h, h]

variable [NameResolver σ]

theorem asked_printType (type : String) (run : Run σ) : (printType type).asked run = [type] := by
  rw [asked_of_journal (congrArg (·.2.journal) (exec_printType type run)), requestsIn_answer]

namespace Composed

/-- A composed rendering moves the resolver through what it asks for, and in no other way. -/
theorem names_exec {r : Rendering σ α} (h : Composed r) (run : Run σ) :
    (r.exec run).2.names = NameResolver.after run.names (r.asked run) := by
  obtain ⟨events, hrun⟩ := h.exec_run run
  rw [asked_of_journal (congrArg Run.journal hrun), hrun]

theorem asked_bind_of_ok {r : Rendering σ α} {f : α → Rendering σ β} (hr : Composed r)
    (hf : ∀ a, Composed (f a)) {run next : Run σ} {a : α} (h : r.exec run = (.ok a, next)) :
    (r >>= f).asked run = r.asked run ++ (f a).asked next := by
  obtain ⟨events, hrun⟩ := hr.exec_run run
  obtain ⟨more, hrest⟩ := (hf a).exec_run next
  have hfirst : (r.exec run).2.journal = run.journal ++ events := congrArg Run.journal hrun
  have hsecond : ((f a).exec next).2.journal = next.journal ++ more := congrArg Run.journal hrest
  -- The second part finds the journal that the first one has left.
  have hboth : ((r >>= f).exec run).2.journal = run.journal ++ (events ++ more) := by
    rw [h] at hfirst
    rw [exec_bind_of_ok h, hsecond, hfirst, List.append_assoc]
  rw [asked_of_journal hboth, asked_of_journal hfirst, asked_of_journal hsecond,
    requestsIn_append]

/-- From states that answer what is asked for alike, a composed rendering has the same outcome, asks
    for the same types, and leads to states of this kind. -/
theorem alike {related : σ → σ → Prop} {inQuestion : String → Prop}
    (halike : NameResolver.Alike related inQuestion) {r : Rendering σ α} (h : Composed r)
    {run run' : Run σ} (hrun : related run.names run'.names)
    (hasked : ∀ type ∈ r.asked run, inQuestion type) :
    (r.exec run).1 = (r.exec run').1 ∧ r.asked run = r.asked run' ∧
      related (r.exec run).2.names (r.exec run').2.names := by
  -- By induction on how the rendering is put together. Only a request looks at the resolver.
  induction h generalizing run run' with
  | pure a => exact ⟨rfl, by simp [asked], hrun⟩
  | throw e => exact ⟨rfl, by simp [asked], hrun⟩
  | note event hnote => exact ⟨rfl, by simp [asked], hrun⟩
  | printType type =>
    have hquestion : inQuestion type :=
      hasked type (by rw [asked_printType]; exact List.mem_cons_self)
    obtain ⟨houtcome, hstate⟩ := halike _ _ hrun type hquestion
    rw [asked_printType, asked_printType, exec_printType, exec_printType, houtcome]
    exact ⟨rfl, rfl, hstate⟩
  | @bind _ _ r f hr hf ihr ihf =>
    rcases hfirst : r.exec run with ⟨e | a, next⟩
    · -- The first part fails in both, for the same reason.
      rw [asked_bind_of_error hfirst] at hasked ⊢
      obtain ⟨houtcome, hsame, hnext⟩ := ihr hrun hasked
      rw [hfirst] at houtcome hnext
      have hfirst' : r.exec run' = (.error e, (r.exec run').2) := Prod.ext houtcome.symm rfl
      rw [asked_bind_of_error hfirst', exec_bind_of_error hfirst, exec_bind_of_error hfirst']
      exact ⟨rfl, hsame, hnext⟩
    · -- The first part has the same result in both, so the second one is the same rendering.
      rw [asked_bind_of_ok hr hf hfirst, List.forall_mem_append] at hasked
      obtain ⟨houtcome, hsame, hnext⟩ := ihr hrun hasked.1
      rw [hfirst] at houtcome hnext
      have hfirst' : r.exec run' = (.ok a, (r.exec run').2) := Prod.ext houtcome.symm rfl
      obtain ⟨hlast, hmore, hend⟩ := ihf a hnext hasked.2
      rw [asked_bind_of_ok hr hf hfirst, asked_bind_of_ok hr hf hfirst', exec_bind_of_ok hfirst,
        exec_bind_of_ok hfirst', hsame, hmore]
      exact ⟨hlast, rfl, hend⟩

end Composed

end Rendering

end DataMethods
