import DataMethods.Proofs.Rendering.Asks

/-!
# Properties of printed texts

What holds of all texts that a resolver prints for a row of requests holds of the texts that a
rendering gets for them. `Yields` says so of a whole rendering: it makes the requests in the row,
and what it results in has a property, provided that the texts that it gets on the way have one.

## Key results

- `Yields.bind`, `Yields.mapM`: a rendering put together from parts yields what the parts do
-/

namespace DataMethods

variable {σ α β : Type} [NameResolver σ] {p : String → Prop}

namespace NameResolver

/-- Of the requests, made one after the other, those that are granted are printed as texts with the
    property. -/
def PrintsOnly (p : String → Prop) (names : σ) : List String → Prop
  | [] => True
  | type :: rest =>
    (∀ text, (NameResolver.request names type).outcome = .ok text → p text) ∧
      PrintsOnly p (NameResolver.request names type).state rest

theorem printsOnly_append {names : σ} {xs ys : List String} :
    PrintsOnly p names (xs ++ ys) ↔ PrintsOnly p names xs ∧ PrintsOnly p (after names xs) ys := by
  induction xs generalizing names with
  | nil => simp [PrintsOnly, after]
  | cons type rest ih =>
    rw [List.cons_append, PrintsOnly, PrintsOnly, ih, and_assoc]
    rfl

/-- Types that are printed as they are have the properties of their texts. -/
theorem printsOnly_verbatim {types : List String} (h : ∀ type ∈ types, p type)
    (names : Verbatim) : PrintsOnly p names types := by
  induction types generalizing names with
  | nil => trivial
  | cons type rest ih =>
    obtain ⟨htype, hrest⟩ := List.forall_mem_cons.mp h
    refine ⟨fun text htext => ?_, ih hrest _⟩
    obtain rfl : type = text := Except.ok.inj htext
    exact htype

end NameResolver

namespace Rendering

open NameResolver

/-- If it has a result, the rendering makes these requests, and the result has the property `q`
    where the printed texts have the property `p`. -/
def Yields (p : String → Prop) (r : Rendering σ α) (types : List String) (q : α → Prop) : Prop :=
  ∀ run a next, PrintsOnly p run.names types → r.exec run = (.ok a, next) →
    next.names = after run.names types ∧ q a

namespace Yields

variable {q : α → Prop} {q' : β → Prop} {xs ys : List String}

theorem pure {a : α} (h : q a) : Yields p (Pure.pure a : Rendering σ α) [] q := by
  intro run b next _ hexec
  rw [exec_pure] at hexec
  cases hexec
  exact ⟨rfl, h⟩

theorem imp {r : Rendering σ α} {q₂ : α → Prop} (hr : Yields p r xs q) (h : ∀ a, q a → q₂ a) :
    Yields p r xs q₂ := by
  intro run a next hprints hexec
  obtain ⟨hnext, ha⟩ := hr run a next hprints hexec
  exact ⟨hnext, h a ha⟩

theorem note (event : Event) :
    Yields p (Rendering.note event : Rendering σ Unit) [] fun _ => True := by
  intro run a next _ hexec
  rw [exec_note] at hexec
  cases hexec
  exact ⟨rfl, trivial⟩

theorem printType (type : String) :
    Yields p (Rendering.printType type : Rendering σ String) [type] p := by
  intro run text next hprints hexec
  rw [exec_printType] at hexec
  cases houtcome : (NameResolver.request run.names type).outcome with
  | error fault =>
    rw [houtcome] at hexec
    cases hexec
  | ok printed =>
    rw [houtcome] at hexec
    cases hexec
    exact ⟨rfl, hprints.1 _ houtcome⟩

theorem bind {r : Rendering σ α} {f : α → Rendering σ β} (hr : Yields p r xs q)
    (hf : ∀ a, q a → Yields p (f a) ys q') : Yields p (r >>= f) (xs ++ ys) q' := by
  intro run b last hprints hexec
  rw [printsOnly_append] at hprints
  obtain ⟨a, next, hfirst, hsecond⟩ := exec_bind_eq_ok_iff.mp hexec
  -- The second part begins in the state that the first requests led to.
  obtain ⟨hnext, ha⟩ := hr run a next hprints.1 hfirst
  rw [← hnext] at hprints
  obtain ⟨hlast, hb⟩ := hf a ha next b last hprints.2 hsecond
  rw [after_append, ← hnext]
  exact ⟨hlast, hb⟩

theorem ite {c : Prop} [Decidable c] {r s : Rendering σ α} (hr : Yields p r xs q)
    (hs : Yields p s ys q) : Yields p (if c then r else s) (if c then xs else ys) q := by
  split
  · exact hr
  · exact hs

theorem mapM {f : α → Rendering σ β} {row : α → List String}
    (h : ∀ a, Yields p (f a) (row a) q') (as : List α) :
    Yields p (as.mapM f) (as.flatMap row) fun bs => ∀ b ∈ bs, q' b := by
  induction as with
  | nil =>
    rw [List.mapM_nil]
    exact .pure fun _ hb => absurd hb List.not_mem_nil
  | cons a as ih =>
    rw [List.mapM_cons, List.flatMap_cons]
    refine .bind (h a) fun b hb => ?_
    rw [← List.append_nil (as.flatMap row)]
    exact .bind ih fun bs hbs => .pure (List.forall_mem_cons.mpr ⟨hb, hbs⟩)

end Yields

end Rendering

end DataMethods
