import DataMethods.CallForm.Basic

/-!
# Call forms in pieces

The pattern of a call form is text with fields for the argument and for the list type. Written from
such pieces, with every brace of the text doubled, a pattern is filled by putting the pieces
together: neither the text nor what stands for a field is read again.

## Key results

- `fillPattern_patternOf`: a pattern written from pieces is filled with the pieces
- `render_forKind`: the text of a call for each kind of argument and each style
-/

namespace DataMethods.CallForm

/-- A piece of a pattern. -/
inductive Piece where
  | literal (s : String)
  | argument
  | list
deriving Repr, DecidableEq

/-- Text in a pattern, its braces doubled. -/
def escaped : List Char → List Char
  | [] => []
  | c :: s => if c = '{' ∨ c = '}' then c :: c :: escaped s else c :: escaped s

namespace Piece

/-- The piece as a pattern holds it. -/
def source : Piece → List Char
  | .literal s => escaped s.toList
  | .argument => (field argumentField).toList
  | .list => (field listField).toList

/-- What stands for the piece in the filled pattern. -/
def value (argument listType : String) : Piece → String
  | .literal s => s
  | .argument => argument
  | .list => listType

end Piece

/-- The pattern that is written from pieces. -/
def patternOf (pieces : List Piece) : String :=
  String.ofList (pieces.flatMap Piece.source)

/-! ## Filling from left to right -/

theorem fillText_cons {values : PatternValues} {c : Char} {s : List Char} (hopen : c ≠ '{')
    (hclose : c ≠ '}') : fillText values (c :: s) = (fillText values s).map (c :: ·) := by
  rw [fillText]
  · rfl
  -- The patterns with braces do not apply.
  all_goals intros; simp_all

/-- Doubled braces stand for themselves, as all other characters do. -/
theorem fillText_escaped (values : PatternValues) (s rest : List Char) :
    fillText values (escaped s ++ rest) = (fillText values rest).map (s ++ ·) := by
  induction s with
  | nil => cases h : fillText values rest <;> simp [escaped, h, Except.map]
  | cons c s ih =>
    have hstep : ∀ tail, fillText values tail = (fillText values rest).map (s ++ ·) →
        (fillText values tail).map (c :: ·) = (fillText values rest).map (c :: s ++ ·) := by
      intro tail htail
      rw [htail]
      cases fillText values rest <;> rfl
    rw [← hstep _ ih]
    -- The two braces are doubled, and what is doubled gives one brace back.
    by_cases hopen : c = '{'
    · subst hopen
      simp only [escaped, true_or, if_true, List.cons_append]
      rw [fillText]
      rfl
    · by_cases hclose : c = '}'
      · subst hclose
        simp only [escaped, or_true, if_true, List.cons_append]
        rw [fillText]
        rfl
      · simp only [escaped, hopen, hclose, or_self, if_false, List.cons_append]
        exact fillText_cons hopen hclose

/-- A name without braces and exclamation marks is read up to the brace that closes the field. -/
theorem fillField_name (values : PatternValues) {name : List Char} (before rest : List Char)
    (h : ∀ c ∈ name, c ≠ '{' ∧ c ≠ '}' ∧ c ≠ '!') :
    fillField values before (name ++ '}' :: rest) =
      (patternValue values (before.reverse ++ name)).bind fun v =>
        (fillText values rest).map (v ++ ·) := by
  -- By induction on what is still to be read of the name; `before` holds the rest of it, reversed.
  induction name generalizing before with
  | nil =>
    rw [List.nil_append, fillField, List.append_nil]
    rfl
  | cons c name ih =>
    obtain ⟨hopen, hclose, hmark⟩ := h c List.mem_cons_self
    have hnext : fillField values before (c :: (name ++ '}' :: rest)) =
        fillField values (c :: before) (name ++ '}' :: rest) := by
      rw [fillField]
      all_goals intros; simp_all
    rw [List.cons_append, hnext, ih (c :: before) fun d hd => h d (List.mem_cons_of_mem c hd),
      List.reverse_cons, List.append_assoc, List.singleton_append]

/-- The values that a call form gives to its fields. -/
def values (argument listType : String) : PatternValues :=
  [(argumentField, argument), (listField, listType)]

theorem fillText_field {vs : PatternValues} {name v : String} (rest : List Char)
    (hplain : (name.toList.all fun c => c != '{' && c != '}' && c != '!') = true)
    (hvalue : patternValue vs name.toList = .ok v.toList) (hne : name.toList ≠ []) :
    fillText vs ((field name).toList ++ rest) = (fillText vs rest).map (v.toList ++ ·) := by
  have hname : ∀ c ∈ name.toList, c ≠ '{' ∧ c ≠ '}' ∧ c ≠ '!' := by
    simpa [and_assoc] using hplain
  have hsource : (field name).toList ++ rest = '{' :: (name.toList ++ '}' :: rest) := by
    simp [field, String.toList_append]
  rw [hsource]
  obtain ⟨c, tail, hc⟩ := List.exists_cons_of_ne_nil hne
  have hopen : c ≠ '{' := (hname c (by simp [hc])).1
  have henter : fillText vs ('{' :: (name.toList ++ '}' :: rest)) =
      fillField vs [] (name.toList ++ '}' :: rest) := by
    rw [hc, List.cons_append, fillText]
    intros; simp_all
  rw [henter, fillField_name vs [] rest hname, List.reverse_nil, List.nil_append, hvalue]
  rfl

/-- A pattern that is written from pieces is filled with what stands for the pieces. -/
theorem fillPattern_patternOf (argument listType : String) (pieces : List Piece) :
    fillPattern (values argument listType) (patternOf pieces) =
      .ok (String.join (pieces.map (Piece.value argument listType))) := by
  have hpieces : fillText (values argument listType) (pieces.flatMap Piece.source) =
      .ok (String.join (pieces.map (Piece.value argument listType))).toList := by
    -- By induction on the pieces, which are filled from left to right.
    induction pieces with
    | nil => rfl
    | cons piece rest ih =>
      rw [List.flatMap_cons, List.map_cons, String.join_cons, String.toList_append]
      cases piece with
      | literal s => rw [Piece.source, fillText_escaped, ih]; rfl
      | argument =>
        rw [Piece.source, fillText_field (v := argument) _ (by decide) rfl (by decide), ih]
        rfl
      | list =>
        rw [Piece.source, fillText_field (v := listType) _ (by decide) rfl (by decide), ih]
        rfl
  rw [fillPattern, patternOf, String.toList_ofList, hpieces, Except.map, String.ofList_toList]

/-! ## The forms for each kind and style -/

/-- The text of a call behind the name of the operation, for one entity, an array or a list. -/
def tail (kind : ArgumentKind) (style : Style) (argument listType : String) : String :=
  match kind, style with
  | .single, _ => "(" ++ argument ++ ")"
  | .array, .blocking => "Multiple(" ++ listType ++ ".of(" ++ argument ++ "))"
  | .array, .reactive => "All(" ++ argument ++ ")"
  | .list, .blocking => "Multiple(" ++ argument ++ ")"
  | .list, .reactive => "All(" ++ argument ++ ".toArray())"

/-- The form for a kind and a style, in pieces. -/
def piecesFor : ArgumentKind → Style → List Piece
  | .array, .blocking => [.list, .literal ".of(", .argument, .literal ")"]
  | .list, .reactive => [.argument, .literal ".toArray()"]
  | _, _ => [.argument]

theorem argument_forKind (kind : ArgumentKind) (style : Style) :
    (forKind kind style).argument = patternOf (piecesFor kind style) := by
  cases kind <;> cases style <;> rfl

theorem fillWith_forKind (kind : ArgumentKind) (style : Style) (argument listType : String) :
    (forKind kind style).fillWith argument listType = .ok (tail kind style argument listType) := by
  have hfill := fillPattern_patternOf argument listType (piecesFor kind style)
  rw [← argument_forKind, values] at hfill
  rw [fillWith, hfill]
  cases kind <;> cases style <;>
    simp [Except.map, forKind, piecesFor, Piece.value, tail, String.append_assoc]

theorem usesListType_forKind (kind : ArgumentKind) (style : Style) :
    (forKind kind style).usesListType = decide (kind = .array ∧ style = .blocking) := by
  cases kind <;> cases style <;> rfl

/-- Filling the form for a kind and a style cannot fail. The list type is asked for if a blocking
    method takes an array. -/
theorem render_forKind {σ : Type} [NameResolver σ] (kind : ArgumentKind) (style : Style)
    (argument : String) :
    ((forKind kind style).render argument : Rendering σ String) =
      tail kind style argument <$>
        if kind = .array ∧ style = .blocking then Rendering.printType Session.listType
        else pure "" := by
  simp only [render, usesListType_forKind, fillWith_forKind, decide_eq_true_eq,
    map_eq_pure_bind]
  split <;> simp only [pure_bind]

end DataMethods.CallForm
