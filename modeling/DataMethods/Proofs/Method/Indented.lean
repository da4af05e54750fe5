import DataMethods.Proofs.Method.Text
import DataMethods.Proofs.Text.Indented

/-!
# The indentation of methods

The parts of a method indent their lines each by itself, at up to five levels. All of them write the
indentation that is set at the beginning of a line and nowhere else, and none of them writes a tab of
its own. So a method with any indentation is the method with tabs, reindented. Only the printed types
could begin further lines, and it is assumed that they do not.

## Key results

- `reindents_callText`, `reindents_failuresText` and the like: each part of a method is reindented
- `reindented_text`: so is the whole text
- `render_reindented`: so is every method that is written, and nothing else changes
-/

namespace DataMethods

open Text Template.Fragment NameResolver Rendering

/-! ## Names and calls -/

theorem Text.Unbroken.of_isUsableName {name : String} (h : isUsableName name = true) :
    Unbroken name :=
  not_mem_of_isUsableName h (by decide)

/-- A name can stand anywhere, at the beginning of a line too. -/
theorem Text.Reindents.name {unit name : String} {atStart : Bool} (h : isUsableName name = true) :
    Reindents unit atStart name name false :=
  .word (ne_empty_of_isUsableName h) (not_mem_of_isUsableName h (by decide))
    (.of_isUsableName h)

theorem CallForm.unbroken_tail (kind : ArgumentKind) (style : Style) {argument list : String}
    (hargument : Unbroken argument) (hlist : Unbroken list) :
    Unbroken (tail kind style argument list) := by
  cases kind <;> cases style <;> simp only [tail, unbroken_append, hargument, hlist] <;> decide

/-- The settings with another indentation. -/
def Settings.withIndent (settings : Settings) (unit : String) : Settings :=
  { settings with indent := unit }

namespace Method

/-! ## Parts of the text

Up to the call, each part ends with its line, and so do the later parts of a blocking method. Those
of a reactive method end within a line, which the next part goes on with or breaks. -/

/-- Do the call and the parts behind it end with their lines? -/
def endsLines (m : MethodSpec) : Bool :=
  match m.style with
  | .blocking => true
  | .reactive => false

section

variable (settings : Settings) (m : MethodSpec) (unit : String)

theorem unbroken_resultText {entity uni : String} (hentity : Unbroken entity)
    (huni : Unbroken uni) : Unbroken (resultText m entity uni) := by
  unfold resultText
  cases m.style with
  | blocking =>
    dsimp only
    split
    · exact hentity
    · decide
  | reactive =>
    dsimp only
    split <;> simp only [unbroken_append, huni, hentity] <;> decide

theorem reindents_headerText {entity uni nonnull : String} (hentity : Unbroken entity)
    (huni : Unbroken uni) (hnonnull : Unbroken nonnull) :
    Reindents unit true (headerText (settings.withIndent "\t") m entity uni nonnull)
      (headerText (settings.withIndent unit) m entity uni nonnull) true := by
  have hbreak : Reindents unit true "\n" "\n" true := .ending (by decide)
  have hoverride : Reindents unit true
      (if settings.emitOverride && m.overrides then "@Override\n" else "")
      (if settings.emitOverride && m.overrides then "@Override\n" else "") true := by
    split
    · exact .ending (by decide)
    · exact .empty
  have hmarker : Unbroken
      (if m.marksNonnull = true ∧ nonnull ≠ "" then "@" ++ nonnull ++ " " else "") := by
    split
    · simp only [unbroken_append, hnonnull]
      decide
    · decide
  exact hbreak.append hoverride
    |>.append (.inner (by decide))
    |>.append (.unbroken (unbroken_resultText m hentity huni))
    |>.append (.unbroken (by decide))
    |>.append (.name m.methodName_usable)
    |>.append (.unbroken (by decide))
    |>.append (.unbroken hmarker)
    |>.append (.unbroken hentity)
    |>.append (.unbroken (by decide))
    |>.append (.name m.argumentName_usable)
    |>.append (.ending (by decide))

theorem reindents_guardText :
    Reindents unit true (guardText (settings.withIndent "\t") m)
      (guardText (settings.withIndent unit) m) true :=
  Reindents.indentation 1
    |>.append (.inner (by decide))
    |>.append (.name m.argumentName_usable)
    |>.append (.inner (by decide))
    |>.append (.name m.argumentName_usable)
    |>.append (.ending (by decide))

theorem reindents_openText :
    Reindents unit true (openText (settings.withIndent "\t") m)
      (openText (settings.withIndent unit) m) true := by
  unfold openText
  cases m.style with
  | blocking => exact (Reindents.indentation 1).append (.ending (by decide))
  | reactive => exact .empty

theorem unbroken_localSession : Unbroken m.localSession := by
  unfold MethodSpec.localSession
  split
  · decide
  · exact .of_isUsableName m.sessionName_usable

theorem reindents_callText {list : String} (hlist : Unbroken list) :
    Reindents unit true (callText (settings.withIndent "\t") m list)
      (callText (settings.withIndent unit) m list) (endsLines m) := by
  have hargument := Unbroken.of_isUsableName m.argumentName_usable
  have hfield := Unbroken.of_isUsableName m.sessionName_usable
  have hlocal := unbroken_localSession m
  have hword : Unbroken m.operation.word := by cases m.operation <;> decide
  have htail (style : Style) := CallForm.unbroken_tail m.kind style hargument hlist
  unfold callText endsLines
  cases m.style with
  | blocking =>
    dsimp only
    split
    · -- The condition.
      exact Reindents.indentation 2
        |>.append (.inner (by decide))
        |>.append (.name m.sessionName_usable)
        |>.append (.inner (by decide))
        |>.append (.name m.argumentName_usable)
        |>.append (.ending (by decide))
        -- The insertion.
        |>.append (.indentation 3)
        |>.append (.name m.sessionName_usable)
        |>.append (.inner (by decide))
        |>.append (.unbroken (htail .blocking))
        |>.append (.ending (by decide))
        -- The line between the two calls, and the upsert.
        |>.append (.indentation 2)
        |>.append (.ending (by decide))
        |>.append (.indentation 3)
        |>.append (.name m.sessionName_usable)
        |>.append (.inner (by decide))
        |>.append (.unbroken (htail .blocking))
        |>.append (.ending (by decide))
    · exact Reindents.indentation 2
        |>.append (.name m.sessionName_usable)
        |>.append (.inner (by decide))
        |>.append (.unbroken hword)
        |>.append (.unbroken (htail .blocking))
        |>.append (.ending (by decide))
  | reactive =>
    -- All that follows the first word stands in the line that it begins.
    have hline : Reindents unit true (indentation 1 "\t" ++ "return ")
        (indentation 1 unit ++ "return ") false :=
      (Reindents.indentation 1).append (.inner (by decide))
    refine hline.append (.unbroken ?_)
    split <;> split <;>
      simp only [unbroken_append, hargument, hfield, hlocal, hword, htail] <;> decide

theorem reindents_returnText :
    Reindents unit (endsLines m) (returnText (settings.withIndent "\t") m)
      (returnText (settings.withIndent unit) m) (endsLines m) := by
  unfold returnText endsLines
  cases m.style with
  | blocking =>
    dsimp only
    split
    · exact Reindents.indentation 2
        |>.append (.inner (by decide))
        |>.append (.name m.argumentName_usable)
        |>.append (.ending (by decide))
    · exact .empty
  | reactive =>
    have hbreak : Reindents unit false "\n" "\n" true := .ending (by decide)
    dsimp only
    split
    · exact hbreak.append (.indentation 3)
        |>.append (.inner (by decide))
        |>.append (.name m.argumentName_usable)
        |>.append (.inner (by decide))
    · exact .empty

theorem reindents_closeText :
    Reindents unit (endsLines m) (closeText (settings.withIndent "\t") m)
      (closeText (settings.withIndent unit) m) (endsLines m) := by
  unfold closeText endsLines
  cases m.style with
  | blocking => exact (Reindents.indentation 1).append (.ending (by decide))
  | reactive => exact .empty

theorem reindents_catchText {f : FailureMapping} (hhandled : Unbroken f.handled)
    (hrethrown : Unbroken f.rethrown) :
    Reindents unit true (catchText "\t" f) (catchText unit f) true :=
  Reindents.tab
    |>.append (.inner (by decide))
    |>.append (.unbroken hhandled)
    |>.append (.ending (by decide))
    |>.append (.indentation 2)
    |>.append (.inner (by decide))
    |>.append (.unbroken hrethrown)
    |>.append (.ending (by decide))
    |>.append .tab
    |>.append (.ending (by decide))

theorem reindents_stageText {f : FailureMapping} (hhandled : Unbroken f.handled)
    (hrethrown : Unbroken f.rethrown) :
    Reindents unit false (stageText "\t" f) (stageText unit f) false := by
  have hbreak : Reindents unit false "\n" "\n" true := .ending (by decide)
  exact hbreak.append (.indentation 3)
    |>.append (.inner (by decide))
    |>.append (.unbroken hhandled)
    |>.append (.ending (by decide))
    |>.append (.indentation 5)
    |>.append (.inner (by decide))
    |>.append (.unbroken hrethrown)
    |>.append (.inner (by decide))

theorem reindents_failuresText {failures : List FailureMapping}
    (hfailures : ∀ f ∈ failures, Unbroken f.handled ∧ Unbroken f.rethrown) :
    Reindents unit (endsLines m) (failuresText (settings.withIndent "\t") m failures)
      (failuresText (settings.withIndent unit) m failures) (endsLines m) := by
  unfold failuresText endsLines
  cases m.style with
  | blocking =>
    exact .join fun f hf => reindents_catchText unit (hfailures f hf).1 (hfailures f hf).2
  | reactive =>
    have hsame (unit : String) :
        (settings.withIndent unit).reactiveFailures = settings.reactiveFailures := rfl
    simp only [hsame]
    cases settings.reactiveFailures with
    | recover =>
      exact .join fun f hf => reindents_stageText unit (hfailures f hf).1 (hfailures f hf).2
    | pass => exact .empty

theorem reindents_endText : Reindents unit (endsLines m) (endText m) (endText m) false := by
  unfold endText endsLines
  cases m.style with
  | blocking => exact .inner (by decide)
  | reactive => exact .inner (by decide)

/-! ## The whole text -/

/-- The text of a method with an indentation is its text with tabs, reindented, if there are no line
    breaks in the types that it shows. -/
theorem reindented_text {types : PrintedTypes} (htypes : types.All Unbroken) :
    reindented unit (text (settings.withIndent "\t") m types) =
      text (settings.withIndent unit) m types :=
  Reindents.reindented_eq <|
    (reindents_headerText settings m unit htypes.entity htypes.uni htypes.nonnull)
    |>.append (reindents_guardText settings m unit)
    |>.append (reindents_openText settings m unit)
    |>.append (reindents_callText settings m unit htypes.list)
    |>.append (reindents_returnText settings m unit)
    |>.append (reindents_closeText settings m unit)
    |>.append (reindents_failuresText settings m unit htypes.failures)
    |>.append (reindents_endText m unit)

end

/-- The indentation that is set does nothing but indent. If the resolver grants what a method shows,
    and prints no line breaks for it, the method is written with any indentation, and it is the
    method written with tabs, in which each tab at the beginning of a line is replaced by it. The
    run is the same: the resolver is asked for the same types and is left in the same state. -/
theorem render_reindented {σ : Type} [NameResolver σ] (settings : Settings) (m : MethodSpec)
    (names : σ) (unit : String) (hgrants : Grants names (shownTypes settings m))
    (hprinted : PrintsOnly Unbroken names (shownTypes settings m)) :
    ∃ tabbed run,
      (render (settings.withIndent "\t") m).start names = (.ok tabbed, run) ∧
      (render (settings.withIndent unit) m).start names = (.ok (reindented unit tabbed), run) := by
  obtain ⟨types, events, htypes, -⟩ := printTypes_asks settings m (Run.start names) hgrants
  obtain ⟨-, hunbroken⟩ :=
    printTypes_all (by decide) settings m (Run.start names) types _ hprinted htypes
  -- Which types are asked for does not depend on the indentation.
  have hwritten (unit : String) : (render (settings.withIndent unit) m).start names =
      (.ok (text (settings.withIndent unit) m types), _) := render_of_printTypes htypes
  refine ⟨_, _, hwritten "\t", ?_⟩
  rw [reindented_text settings m unit hunbroken]
  exact hwritten unit

/-- The insertion of a book, with four blanks for a tab in its lines and its catch clauses. -/
theorem render_reindented_insertBook :
    let names : Verbatim := ⟨[]⟩
    Grants names (shownTypes recovering Sample.insertBook) ∧
    PrintsOnly Unbroken names (shownTypes recovering Sample.insertBook) ∧
    ∃ tabbed run,
      (render (recovering.withIndent "\t") Sample.insertBook).start names = (.ok tabbed, run) ∧
      (render (recovering.withIndent "    ") Sample.insertBook).start names =
        (.ok (reindented "    " tabbed), run) := by
  intro names
  have hgrants : Grants names (shownTypes recovering Sample.insertBook) :=
    grants_of_forall (fun _ type => ⟨type, rfl⟩) _ _
  have hstyle : Sample.insertBook.style = .blocking := by decide +kernel
  have htypes : ∀ type ∈ shownTypes recovering Sample.insertBook, Unbroken type := by
    rw [shownTypes, hstyle]
    decide +kernel
  have hprinted := printsOnly_verbatim htypes names
  exact ⟨hgrants, hprinted,
    render_reindented recovering Sample.insertBook names "    " hgrants hprinted⟩

end Method

end DataMethods
