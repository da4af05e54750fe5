import DataMethods.Proofs.CallForm.Pieces
import DataMethods.Proofs.Rendering.Composed

/-!
# Call forms and resolvers

The list type of a call form is printed by the resolver, which is asked for it before the pattern is
read, once, and only if the pattern shows its field. What is wrong with a pattern makes no
difference to this.

## Key results

- `start_render_of_usesListType`, `start_render_of_not_usesListType`: the text of a call, and the
  run behind it, for every form
- `render_patternOf`: a form whose pattern is written from pieces is rendered as the pieces put
  together
-/

namespace DataMethods.CallForm

open Rendering

/-- A pattern written from pieces shows the list type if one of them is the list type. -/
theorem usesListType_patternOf_append (suffix : String) {pieces : List Piece} (h : .list ∈ pieces)
    (rest : String) : usesListType ⟨suffix, patternOf pieces ++ rest⟩ = true := by
  obtain ⟨before, after, rfl⟩ := List.append_of_mem h
  rw [usesListType, Text.occursIn_iff]
  refine ⟨before.flatMap Piece.source, after.flatMap Piece.source ++ rest.toList, ?_⟩
  simp [patternOf, Piece.source, String.toList_append]

/-- What stands for a piece that is not the list type does not depend on how that is printed. -/
theorem values_of_not_mem {pieces : List Piece} (h : .list ∉ pieces)
    (argument listType other : String) :
    pieces.map (Piece.value argument listType) = pieces.map (Piece.value argument other) := by
  refine List.map_congr_left fun piece hpiece => ?_
  cases piece with
  | literal s => rfl
  | argument => rfl
  | list => exact absurd hpiece h

variable {σ : Type} [NameResolver σ]

section

variable {form : CallForm} (argument : String) (names : σ)

/-- The request comes first, and the pattern is read only if it is granted. -/
theorem start_render_of_usesListType (h : form.usesListType = true) :
    (form.render argument).start names =
      (match (NameResolver.request names Session.listType).outcome with
        | .ok listType => (form.fillWith argument listType).mapError .pattern
        | .error fault => .error (.type fault),
      ((printType Session.listType).start names).2) := by
  have hfirst : (printType Session.listType).exec (Run.start names) =
      ((NameResolver.request names Session.listType).outcome.mapError .type,
        ((printType Session.listType).start names).2) := by
    rw [start_eq_exec, exec_printType]
    rfl
  rw [start_eq_exec, render, if_pos h]
  cases houtcome : (NameResolver.request names Session.listType).outcome with
  | error fault =>
    rw [houtcome] at hfirst
    rw [exec_bind_of_error hfirst]
  | ok listType =>
    rw [houtcome] at hfirst
    rw [exec_bind_of_ok hfirst]
    dsimp only
    cases form.fillWith argument listType <;> rfl

theorem start_render_of_not_usesListType (h : form.usesListType = false) :
    (form.render argument).start names =
      ((form.fillWith argument "").mapError .pattern, Run.start names) := by
  rw [start_eq_exec, render, h, if_neg Bool.false_ne_true, pure_bind]
  dsimp only
  cases form.fillWith argument "" <;> rfl

end

theorem requests_start_printType (names : σ) (type : String) :
    ((printType type).start names).2.requests = [type] := by
  rw [start_eq_exec, exec_printType]
  exact Event.requestsIn_answer type _

theorem fillWith_patternOf (suffix argument listType : String) (pieces : List Piece) :
    fillWith ⟨suffix, patternOf pieces⟩ argument listType =
      .ok (suffix ++ "(" ++ String.join (pieces.map (Piece.value argument listType)) ++ ")") := by
  rw [fillWith, ← values, fillPattern_patternOf]
  rfl

/-- A form whose pattern is written from pieces is rendered as its suffix and, in parentheses, what
    stands for the pieces, for every text of the suffix, of the literals, of the argument and of the
    printed list type: braces in them mean nothing. The resolver is asked for the list type once if
    the pattern shows its field, as it does if one of the pieces is the list type, and for nothing
    else. It is asked before the pattern is read: the run is the same whatever follows in the
    pattern, even if the pattern cannot be filled then. -/
theorem render_patternOf (suffix argument : String) (pieces : List Piece) (names : σ)
    {listType : String}
    (hgranted : (NameResolver.request names Session.listType).outcome = .ok listType) :
    let form : CallForm := ⟨suffix, patternOf pieces⟩
    ∃ run, (form.render argument).start names =
        (.ok (suffix ++ "(" ++ String.join (pieces.map (Piece.value argument listType)) ++ ")"),
          run) ∧
      run.requests = (if form.usesListType then [Session.listType] else []) ∧
      (.list ∈ pieces → form.usesListType = true ∧ ∀ rest : String,
        ((render ⟨suffix, patternOf pieces ++ rest⟩ argument).start names).2 = run) := by
  intro form
  cases huses : form.usesListType with
  | true =>
    refine ⟨((printType Session.listType).start names).2, ?_, ?_,
      fun hlist => ⟨rfl, fun rest => ?_⟩⟩
    · rw [start_render_of_usesListType argument names huses, hgranted]
      simp only [form, fillWith_patternOf]
      rfl
    · exact requests_start_printType names _
    · have hshown := usesListType_patternOf_append suffix hlist rest
      rw [start_render_of_usesListType argument names hshown]
  | false =>
    have hlist : .list ∉ pieces := by
      intro hlist
      have hshown := usesListType_patternOf_append suffix hlist ""
      rw [String.append_empty, huses] at hshown
      contradiction
    refine ⟨Run.start names, ?_, rfl, fun hmem => absurd hmem hlist⟩
    rw [start_render_of_not_usesListType argument names huses,
      values_of_not_mem hlist _ listType ""]
    simp only [form, fillWith_patternOf]
    rfl

/-- Braces at a field, a literal that looks like a field, and braces in what is put in. -/
theorem render_patternOf_braces :
    let names : Verbatim := ⟨[]⟩
    let pieces := [.literal "\x7b", .argument, .literal "\x7d\x7bparameter\x7d", .list]
    (NameResolver.request names Session.listType).outcome = .ok "java.util.List" ∧
    patternOf pieces =
      "\x7b\x7b\x7bparameter\x7d\x7d\x7d\x7b\x7bparameter\x7d\x7d\x7blist_type\x7d" ∧
    ∃ run, (render ⟨"\x7b0\x7d", patternOf pieces⟩ "\x7blist_type\x7d").start names =
        (.ok "\x7b0\x7d(\x7b\x7blist_type\x7d\x7d\x7bparameter\x7djava.util.List)", run) ∧
      run.requests = ["java.util.List"] ∧
      ((render ⟨"\x7b0\x7d", patternOf pieces ++ "\x7b"⟩ "\x7blist_type\x7d").start names).2 =
        run := by
  intro names pieces
  have hgranted : (NameResolver.request names Session.listType).outcome =
      .ok "java.util.List" := rfl
  obtain ⟨run, htext, hrequests, hlist⟩ :=
    render_patternOf "\x7b0\x7d" "\x7blist_type\x7d" pieces names hgranted
  obtain ⟨huses, hrun⟩ := hlist (by decide)
  rw [huses] at hrequests
  exact ⟨hgranted, by decide +kernel, run, htext, hrequests, hrun "\x7b"⟩

end DataMethods.CallForm
