import DataMethods.Proofs.Rendering.Composed
import DataMethods.Proofs.TypeName.Faults

/-!
# Refused requests

An import table refuses a type whose text is none, and prints all others. Which texts these are
depends on the text alone, and not on the owners that the table has come to hold. So of a rendering
that makes fixed requests it is known beforehand whether it ends in a text or in a fault, and in
which.

## Key results

- `request_eq_error_iff`: every table refuses the same texts for the same faults
- `EndsIn.bind`: a rendering put together from parts ends in the first fault among them
-/

namespace DataMethods

/-- Why a text is no type, unless it is one. White space at its ends does not count. -/
def TypeName.fault? (type : String) : Option MalformedType :=
  (read (Text.trim type.toList)).fault

/-- A text without an opening bracket is a type. -/
theorem TypeName.fault?_of_not_mem {type : String} (h : '<' ∉ type.toList) : fault? type = none :=
  read_fault_of_not_mem (not_mem_trim h)

namespace ImportTable

theorem request_eq_error_iff {t : ImportTable} {type : String} {fault : MalformedType} :
    (t.request type).outcome = .error fault ↔ TypeName.fault? type = some fault := by
  simp only [request, TypeName.fault?]
  cases (TypeName.read (Text.trim type.toList)).fault with
  | none => simp
  | some other => simp

theorem exists_request_eq_ok_iff {t : ImportTable} {type : String} :
    (∃ text, (t.request type).outcome = .ok text) ↔ TypeName.fault? type = none := by
  simp only [request, TypeName.fault?]
  cases (TypeName.read (Text.trim type.toList)).fault with
  | none => simp
  | some fault => simp

end ImportTable

namespace Rendering

variable {α β : Type}

/-- The outcome is the given fault, or a result if there is none. -/
def IsOutcome : Option MalformedType → Except RenderError α → Prop
  | none, outcome => ∃ a, outcome = .ok a
  | some fault, outcome => outcome = .error (.type fault)

/-- From every run the rendering ends in the given fault, or in a result if there is none. -/
def EndsIn (r : Rendering ImportTable α) (fault? : Option MalformedType) : Prop :=
  ∀ run, IsOutcome fault? (r.exec run).1

namespace EndsIn

theorem pure (a : α) : EndsIn (Pure.pure a : Rendering ImportTable α) none :=
  fun _ => ⟨a, rfl⟩

theorem note (event : Event) : EndsIn (Rendering.note event) none :=
  fun _ => ⟨(), rfl⟩

/-- A request ends in the fault of its text. -/
theorem printType (type : String) : EndsIn (Rendering.printType type) (TypeName.fault? type) := by
  intro run
  have hexec : ((Rendering.printType type).exec run).1 =
      (run.names.request type).outcome.mapError .type := by
    rw [exec_printType]
    rfl
  rw [hexec]
  -- What the table answers is decided by the fault, whatever the run has led to.
  cases hfault : TypeName.fault? type with
  | none =>
    obtain ⟨text, htext⟩ := ImportTable.exists_request_eq_ok_iff (t := run.names).mpr hfault
    rw [htext]
    exact ⟨text, rfl⟩
  | some fault =>
    rw [ImportTable.request_eq_error_iff.mpr hfault]
    rfl

/-- Of two parts the second is reached only if the first has a result. -/
theorem bind {r : Rendering ImportTable α} {f : α → Rendering ImportTable β}
    {x y : Option MalformedType} (hr : EndsIn r x) (hf : ∀ a, EndsIn (f a) y) :
    EndsIn (r >>= f) (x.or y) := by
  intro run
  have hfirst := hr run
  rcases hexec : r.exec run with ⟨outcome, next⟩
  rw [hexec] at hfirst
  cases x with
  | none =>
    obtain ⟨a, rfl⟩ : ∃ a, outcome = .ok a := hfirst
    rw [exec_bind_of_ok hexec]
    exact hf a next
  | some fault =>
    obtain rfl : outcome = .error (.type fault) := hfirst
    rw [exec_bind_of_error hexec]
    rfl

theorem ite {c : Prop} [Decidable c] {r s : Rendering ImportTable α} {x y : Option MalformedType}
    (hr : EndsIn r x) (hs : EndsIn s y) : EndsIn (if c then r else s) (if c then x else y) := by
  split
  · exact hr
  · exact hs

theorem mapM {f : α → Rendering ImportTable β} {as : List α} (h : ∀ a ∈ as, EndsIn (f a) none) :
    EndsIn (as.mapM f) none := by
  induction as with
  | nil =>
    rw [List.mapM_nil]
    exact .pure []
  | cons a as ih =>
    rw [List.mapM_cons]
    have hrest : EndsIn (as.mapM f) none := ih fun b hb => h b (List.mem_cons_of_mem a hb)
    exact .bind (h a List.mem_cons_self) fun b => .bind hrest fun bs => .pure (b :: bs)

theorem map {r : Rendering ImportTable α} {x : Option MalformedType} (f : α → β)
    (hr : EndsIn r x) : EndsIn (f <$> r) x := by
  rw [map_eq_pure_bind, ← Option.or_none (o := x)]
  exact .bind hr fun a => .pure (f a)

/-- What a rendering ends in is its only error. -/
theorem eq_error_iff {r : Rendering ImportTable α} {x : Option MalformedType} (h : EndsIn r x)
    (t : ImportTable) {e : RenderError} :
    (r.start t).1 = .error e ↔ ∃ fault, x = some fault ∧ e = .type fault := by
  have hrun := h (Run.start t)
  rw [start_eq_exec]
  cases x with
  | none =>
    obtain ⟨a, ha⟩ : ∃ a, (r.exec (Run.start t)).1 = .ok a := hrun
    simp [ha]
  | some fault =>
    have herror : (r.exec (Run.start t)).1 = .error (.type fault) := hrun
    simp [herror, eq_comm]

end EndsIn

end Rendering

end DataMethods
