import DataMethods.Proofs.Method.Text

/-!
# The course of writing a method

Resolvers may answer differently depending on what they were asked before, so the order of requests
shows in the text. It is fixed by the settings and the method: writing a method goes through the
requests and notes of its `course`, with any resolver, and stops where a request is refused.

## Key results

- `render_follows_course`: outcome, requests and notes of writing a method, for every resolver
-/

namespace DataMethods.Method

open Event NameResolver Rendering

variable {σ : Type} [NameResolver σ]

theorem render_follows (settings : Settings) (m : MethodSpec) :
    Follows (render settings m : Rendering σ String) (course settings m) := by
  rw [render_eq]
  exact (printTypes_follows settings m).map _

/-- A method is written if, and only if, the resolver grants the types that it shows, one after the
    other. Then the requests and notes are those of the course, in this order. Otherwise a first
    request is refused; this refusal is the error, and nothing is asked for or noted after it. -/
theorem render_follows_course (settings : Settings) (m : MethodSpec) (names : σ) :
    let outcome := ((render settings m).start names).1
    let own := ownIn ((render settings m).start names).2.journal
    ((∃ text, outcome = .ok text) ↔ Grants names (shownTypes settings m)) ∧
    ((∃ text, outcome = .ok text) → own = course settings m) ∧
    ∀ done fault, RefusedAt names (course settings m) done fault →
      outcome = .error (.type fault) ∧ own = done := by
  intro outcome own
  have hfollows : Follows (render settings m : Rendering σ String) (course settings m) :=
    render_follows settings m
  have hgranted : Grants names (shownTypes settings m) →
      (∃ text, outcome = .ok text) ∧ own = course settings m := by
    intro hgrants
    rw [← requestsIn_course] at hgrants
    obtain ⟨text, events, hexec, hown⟩ := hfollows.granted (Run.start names) hgrants
    exact ⟨⟨text, congrArg Prod.fst hexec⟩, (congrArg (ownIn ·.2.journal) hexec).trans hown⟩
  have hrefused (done : List Event) (fault : MalformedType) :
      RefusedAt names (course settings m) done fault →
        outcome = .error (.type fault) ∧ own = done := by
    intro hrefused
    obtain ⟨next, events, hexec, hown⟩ := hfollows.refused (Run.start names) done fault hrefused
    exact ⟨congrArg Prod.fst hexec, (congrArg (ownIn ·.2.journal) hexec).trans hown⟩
  -- A method that was written had no request refused.
  have hwritten : (∃ text, outcome = .ok text) → Grants names (shownTypes settings m) := by
    rintro ⟨text, htext⟩
    rcases grants_or_refusedAt names (course settings m) with hgrants | ⟨done, fault, hdone⟩
    · rwa [requestsIn_course] at hgrants
    · rw [(hrefused done fault hdone).1] at htext
      contradiction
  exact ⟨⟨hwritten, fun h => (hgranted h).1⟩, fun h => (hgranted (hwritten h)).2, hrefused⟩

/-- The upsert of books shows no list type and no marker, and is noted twice. Of an insertion whose
    marker is no type, the catch clauses are not reached. -/
theorem render_follows_course_books :
    let verbatim : Verbatim := ⟨[]⟩
    let unmarkable : Settings := ⟨"a.Nonnull<", "\t", .pass, true, by decide⟩
    let unit := ImportTable.empty "org.example"
    let done := [.planned Sample.insertBook, .requested "org.example.Book", .requested "a.Nonnull<"]
    (∃ text, ((render recovering Sample.saveBooks).start verbatim).1 = .ok text) ∧
    ownIn ((render recovering Sample.saveBooks).start verbatim).2.journal =
      [.planned Sample.saveBooks, .requested "org.example.Book[]", .requested Session.uniType,
       .choosing "save", .requested "org.hibernate.StaleStateException",
       .requested "jakarta.data.exceptions.OptimisticLockingFailureException",
       .requested "jakarta.persistence.PersistenceException",
       .requested "jakarta.data.exceptions.DataException"] ∧
    RefusedAt unit (course unmarkable Sample.insertBook) done (.unclosed "a.Nonnull<") ∧
    ((render unmarkable Sample.insertBook).start unit).1 =
      .error (.type (.unclosed "a.Nonnull<")) ∧
    ownIn ((render unmarkable Sample.insertBook).start unit).2.journal = done := by
  intro verbatim unmarkable unit done
  obtain ⟨hwritten, hsaved, -⟩ := render_follows_course recovering Sample.saveBooks verbatim
  obtain ⟨-, -, hinserted⟩ := render_follows_course unmarkable Sample.insertBook unit
  have htext : ∃ text, ((render recovering Sample.saveBooks).start verbatim).1 = .ok text :=
    hwritten.mpr (grants_of_forall (fun _ type => ⟨type, rfl⟩) _ _)
  have hrefused : RefusedAt unit (course unmarkable Sample.insertBook) done
      (.unclosed "a.Nonnull<") := by
    have hcourse : done <+: course unmarkable Sample.insertBook := by decide +kernel
    have hbook : ∃ text, (unit.request "org.example.Book").outcome = .ok text :=
      ⟨"Book", by decide +kernel⟩
    exact ⟨hcourse, done.take 2, "a.Nonnull<", rfl, ⟨hbook, trivial⟩, by decide +kernel⟩
  refine ⟨htext, ?_, hrefused, hinserted _ _ hrefused⟩
  rw [hsaved htext]
  decide +kernel

end DataMethods.Method
