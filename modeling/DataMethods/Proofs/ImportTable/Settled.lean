import DataMethods.Proofs.ImportTable.Run
import DataMethods.Proofs.Method.Text

/-!
# Settled printing

Names are claimed as types are asked for, so what a type is printed as depends on everything that
was asked for before. Once it is printed, though, the matter is settled: whatever the unit goes
through afterwards, the type is printed as it was, and so is every method that was written.

## Key results

- `printing_settled`: what was printed once is printed alike ever after
-/

namespace DataMethods.ImportTable

/-- The ways to write a method: by itself, or as a member of a generated type. -/
def Writes (r : Rendering ImportTable String) (settings : Settings) (method : MethodSpec) : Prop :=
  r = Method.render settings method ∨ r = (Member.method method settings).declaration

theorem Writes.eq_render {r : Rendering ImportTable String} {settings : Settings}
    {method : MethodSpec} (h : Writes r settings method) : r = Method.render settings method := by
  rcases h with rfl | rfl <;> rfl

/-- A type that was printed once is printed alike after every run, and asking for it again changes
    neither owners nor imports and records nothing. So it is with a method that was written once:
    written again with the same settings it has the same text, leaves the table as it is and records
    nothing. -/
theorem printing_settled (t : ImportTable) (steps : List Step) :
    (∀ type text, (t.request type).outcome = .ok text →
      let later := (t.request type).state.run steps
      later.request type = ⟨.ok text, later, []⟩) ∧
    (∀ settings method first again text,
      Writes first settings method → Writes again settings method →
      (first.start t).1 = .ok text →
      let later := (first.start t).2.names.run steps
      (again.start later).1 = .ok text ∧ (again.start later).2.names = later ∧
      Event.importsIn (again.start later).2.journal = []) := by
  constructor
  · intro type text htext later
    rw [request_again (run_growsTo _ steps), htext]
  · intro settings method first again text hfirst hagain htext later
    rw [hagain.eq_render]
    -- Both ways to write the method are the same rendering, so it is one rendering that is repeated.
    have hgrows : ((Method.render settings method).start t).2.names.GrowsTo later := by
      rw [← hfirst.eq_render]
      exact run_growsTo _ steps
    obtain ⟨events, himports, hexec⟩ :=
      (Method.render_composed settings method).again (Run.start t) (Run.start later) hgrows
    rw [Rendering.start_eq_exec, hexec]
    rw [hfirst.eq_render] at htext
    exact ⟨htext, rfl, himports⟩

/-- A list type and the upsert of books are settled, though another list is asked for afterwards, a
    text that is no type, and the upsert itself. -/
theorem printing_settled_saveBooks :
    let t := ImportTable.empty "org.example"
    let steps := [Step.request "java.awt.List", .request "org.Book<",
      .write Method.recovering Sample.saveBooks]
    ((t.request "java.util.List").outcome = .ok "List" ∧
      let later := (t.request "java.util.List").state.run steps
      later.request "java.util.List" = ⟨.ok "List", later, []⟩) ∧
    ∃ text,
      let first : Rendering ImportTable String := Method.render Method.recovering Sample.saveBooks
      let again := (Member.method Sample.saveBooks Method.recovering).declaration
      (first.start t).1 = .ok text ∧
      let later := (first.start t).2.names.run steps
      (again.start later).1 = .ok text ∧ (again.start later).2.names = later ∧
      Event.importsIn (again.start later).2.journal = [] := by
  intro t steps
  have hlist : (t.request "java.util.List").outcome = .ok "List" := by decide +kernel
  have hsettled := printing_settled t steps
  refine ⟨⟨hlist, hsettled.1 "java.util.List" "List" hlist⟩, ?_⟩
  -- The text itself does not matter here, only that there is one.
  have hprinted : ((Method.printTypes Method.recovering Sample.saveBooks).start t).1.isOk := by
    decide +kernel
  rcases htypes : (Method.printTypes Method.recovering Sample.saveBooks).start t with ⟨e | types, run⟩
  · rw [htypes] at hprinted
    contradiction
  have hwritten := congrArg Prod.fst (Method.render_of_printTypes htypes)
  exact ⟨_, hwritten, hsettled.2 _ _ _ _ _ (.inl rfl) (.inr rfl) hwritten⟩

end DataMethods.ImportTable
