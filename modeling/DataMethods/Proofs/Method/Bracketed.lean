import DataMethods.Proofs.Method.Text
import DataMethods.Proofs.Rendering.Prints
import DataMethods.Proofs.Text.Brackets

/-!
# Methods are blocks

The brackets of a method are opened and closed in different parts of it, some of them under
conditions. They agree in all cases: the text of a method is a block, from the brace that opens the
body to the one at the end, and its brackets nest. Only the names, the indentation and the printed
types could bring in others. Names have none; of the rest it is assumed.

## Key results

- `NoBrackets.of_isUsableName`: names have no brackets
- `printTypes_yields`: nor have the types that a method shows, if the resolver prints no brackets
- `isBlock_text`: the text of a method is a block if the types that it shows have no brackets
- `render_isBlock`: so is every method that is written
-/

namespace DataMethods

open Text Template.Fragment NameResolver Rendering

/-! ## Texts without brackets -/

/-- The text has no round or curly bracket. -/
def NoBrackets (text : String) : Prop :=
  Bracketless text.toList

instance (text : String) : Decidable (NoBrackets text) :=
  inferInstanceAs (Decidable (Bracketless _))

namespace NoBrackets

theorem append {a b : String} (ha : NoBrackets a) (hb : NoBrackets b) : NoBrackets (a ++ b) := by
  rw [NoBrackets, String.toList_append]
  exact Bracketless.append ha hb

/-- Such a text is read over. -/
theorem read {text : String} (h : NoBrackets text) (stack : List Char) :
    readBrackets stack text.toList = some stack :=
  (Bracketless.nested h).read stack

theorem not_mem {text : String} (h : NoBrackets text) : '{' ∉ text.toList :=
  fun hmem => h '{' hmem (by decide)

/-- No bracket can stand in a name. -/
theorem of_isUsableName {name : String} (h : isUsableName name = true) : NoBrackets name := by
  have hbrackets : brackets.all fun c => !isIdentifierContinue (if c = '$' then '_' else c) := by
    decide
  intro c hc hbracket
  have hnot := List.all_eq_true.mp hbrackets c hbracket
  exact not_mem_of_isUsableName h ((Bool.not_eq_true' _).mp hnot) hc

theorem indentation {unit : String} (h : NoBrackets unit) (depth : Nat) :
    NoBrackets (indentation depth unit) := by
  induction depth with
  | zero => exact fun _ hc => absurd hc List.not_mem_nil
  | succ depth ih =>
    rw [indentation_succ]
    exact h.append ih

end NoBrackets

/-! ## Printed types -/

/-- None of the printed types has a bracket. -/
structure PrintedTypes.NoBrackets (types : PrintedTypes) : Prop where
  list : DataMethods.NoBrackets types.list
  entity : DataMethods.NoBrackets types.entity
  uni : DataMethods.NoBrackets types.uni
  nonnull : DataMethods.NoBrackets types.nonnull
  failures : ∀ f ∈ types.failures,
    DataMethods.NoBrackets f.handled ∧ DataMethods.NoBrackets f.rethrown

namespace Method

section

variable {σ : Type} [NameResolver σ]

/-- If no bracket is printed for the types that a method shows, there is none in them. What is not
    shown is empty. -/
theorem printTypes_yields (settings : Settings) (m : MethodSpec) :
    Yields NoBrackets (printTypes settings m : Rendering σ PrintedTypes) (shownTypes settings m)
      PrintedTypes.NoBrackets := by
  have hall : Yields NoBrackets (printTypes settings m : Rendering σ PrintedTypes) _ _ :=
    printTypes_all (by decide) settings m
  exact hall.imp fun _ h => ⟨h.list, h.entity, h.uni, h.nonnull, h.failures⟩

end

/-! ## Parts of the text

Each part is read from left to right. What has no brackets is read over, and the rest of a part is
fixed. -/

section

variable (settings : Settings) (m : MethodSpec)

theorem nested_join {texts : List String} (h : ∀ text ∈ texts, Nested text.toList) :
    Nested (String.join texts).toList := by
  induction texts with
  | nil => rfl
  | cons text texts ih =>
    obtain ⟨htext, htexts⟩ := List.forall_mem_cons.mp h
    rw [String.join_cons, String.toList_append]
    exact htext.append (ih htexts)

theorem nested_tail (kind : ArgumentKind) (style : Style) {argument list : String}
    (hargument : NoBrackets argument) (hlist : NoBrackets list) :
    Nested (CallForm.tail kind style argument list).toList := by
  cases kind <;> cases style <;>
    simp only [Nested, CallForm.tail, String.toList_append, readBrackets_append, hargument.read,
      hlist.read] <;>
    rfl

variable {settings} (hindent : NoBrackets settings.indent)
include hindent

theorem nested_guardText : Nested (guardText settings m).toList := by
  have hargument := (NoBrackets.of_isUsableName m.argumentName_usable).read
  simp only [Nested, guardText, String.toList_append, readBrackets_append, hargument,
    (hindent.indentation 1).read]
  rfl

theorem nested_callText {list : String} (hlist : NoBrackets list) :
    Nested (callText settings m list).toList := by
  have hargument := NoBrackets.of_isUsableName m.argumentName_usable
  have hfield := NoBrackets.of_isUsableName m.sessionName_usable
  have hlocal : NoBrackets m.localSession := by
    unfold MethodSpec.localSession
    split
    · decide
    · exact hfield
  have hword : NoBrackets m.operation.word := by cases m.operation <;> decide
  have htail (style : Style) := (nested_tail m.kind style hargument hlist).read
  unfold callText
  cases m.style with
  | blocking =>
    dsimp only
    split
    · simp only [Nested, String.toList_append, readBrackets_append, hargument.read, hfield.read,
        htail, (hindent.indentation 2).read, (hindent.indentation 3).read]
      rfl
    · simp only [Nested, String.toList_append, readBrackets_append, hfield.read, hword.read, htail,
        (hindent.indentation 2).read]
      rfl
  | reactive =>
    -- The parentheses of the choice stand in those of the chain, if there are any.
    dsimp only
    split <;> split <;>
      simp only [Nested, String.toList_append, readBrackets_append, hargument.read, hfield.read,
        hlocal.read, hword.read, htail, (hindent.indentation 1).read] <;>
      rfl

theorem nested_returnText : Nested (returnText settings m).toList := by
  have hargument := NoBrackets.of_isUsableName m.argumentName_usable
  unfold returnText
  split
  · cases m.style <;>
      simp only [Nested, String.toList_append, readBrackets_append, hargument.read,
        (hindent.indentation 2).read, (hindent.indentation 3).read] <;>
      rfl
  · rfl

theorem nested_catchText {f : FailureMapping} (hhandled : NoBrackets f.handled)
    (hrethrown : NoBrackets f.rethrown) : Nested (catchText settings.indent f).toList := by
  simp only [Nested, catchText, String.toList_append, readBrackets_append, hhandled.read,
    hrethrown.read, hindent.read, (hindent.indentation 2).read]
  rfl

theorem nested_stageText {f : FailureMapping} (hhandled : NoBrackets f.handled)
    (hrethrown : NoBrackets f.rethrown) : Nested (stageText settings.indent f).toList := by
  simp only [Nested, stageText, String.toList_append, readBrackets_append, hhandled.read,
    hrethrown.read, (hindent.indentation 3).read, (hindent.indentation 5).read]
  rfl

theorem nested_failuresText {failures : List FailureMapping}
    (hfailures : ∀ f ∈ failures, NoBrackets f.handled ∧ NoBrackets f.rethrown) :
    Nested (failuresText settings m failures).toList := by
  have hcatches : Nested (String.join (failures.map (catchText settings.indent))).toList := by
    apply nested_join
    rw [List.forall_mem_map]
    exact fun f hf => nested_catchText hindent (hfailures f hf).1 (hfailures f hf).2
  have hstages : Nested (String.join (failures.map (stageText settings.indent))).toList := by
    apply nested_join
    rw [List.forall_mem_map]
    exact fun f hf => nested_stageText hindent (hfailures f hf).1 (hfailures f hf).2
  unfold failuresText
  cases m.style with
  | blocking => exact hcatches
  | reactive =>
    cases settings.reactiveFailures with
    | recover => exact hstages
    | pass => rfl

/-- The try statement is closed where it has been opened. -/
theorem nested_tryText {list : String} (hlist : NoBrackets list) :
    Nested (openText settings m ++ callText settings m list ++ returnText settings m ++
      closeText settings m).toList := by
  have hcall := (nested_callText m hindent hlist).read
  have hreturn := (nested_returnText m hindent).read
  simp only [Nested, openText, closeText, String.toList_append, readBrackets_append, hcall, hreturn]
  cases m.style with
  | blocking =>
    simp only [String.toList_append, readBrackets_append, (hindent.indentation 1).read]
    rfl
  | reactive => rfl

end

/-! ## The whole text -/

/-- The header without the brace that opens the body. -/
def signatureText (settings : Settings) (m : MethodSpec) (entity uni nonnull : String) : String :=
  "\n" ++ (if settings.emitOverride && m.overrides then "@Override\n" else "") ++
  "public " ++ resultText m entity uni ++ " " ++ m.methodName ++ "(" ++
  (if m.marksNonnull = true ∧ nonnull ≠ "" then "@" ++ nonnull ++ " " else "") ++
  entity ++ " " ++ m.argumentName ++ ") "

section

variable (settings : Settings) (m : MethodSpec)

theorem headerText_eq (entity uni nonnull : String) :
    headerText settings m entity uni nonnull =
      signatureText settings m entity uni nonnull ++ "\x7b\n" := by
  have hend : ") \x7b\n" = ") " ++ "\x7b\n" := by decide
  unfold headerText
  rw [hend, ← String.append_assoc]
  rfl

theorem noBrackets_resultText {entity uni : String} (hentity : NoBrackets entity)
    (huni : NoBrackets uni) : NoBrackets (resultText m entity uni) := by
  unfold resultText
  cases m.style with
  | blocking =>
    dsimp only
    split
    · exact hentity
    · decide
  | reactive =>
    have hvalue : NoBrackets (if m.returnsArgument = true then entity else "Void") := by
      split
      · exact hentity
      · decide
    have hopen : NoBrackets "<" := by decide
    have hclose : NoBrackets ">" := by decide
    exact ((huni.append hopen).append hvalue).append hclose

/-- There is no brace in the signature, and its only brackets are those around the argument. -/
theorem nested_signatureText {entity uni nonnull : String} (hentity : NoBrackets entity)
    (huni : NoBrackets uni) (hnonnull : NoBrackets nonnull) :
    Nested (signatureText settings m entity uni nonnull).toList ∧
      '{' ∉ (signatureText settings m entity uni nonnull).toList := by
  have hmethod := NoBrackets.of_isUsableName m.methodName_usable
  have hargument := NoBrackets.of_isUsableName m.argumentName_usable
  have hresult := noBrackets_resultText m hentity huni
  have hoverride :
      NoBrackets (if settings.emitOverride && m.overrides then "@Override\n" else "") := by
    split <;> decide
  have hmarker : NoBrackets
      (if m.marksNonnull = true ∧ nonnull ≠ "" then "@" ++ nonnull ++ " " else "") := by
    split
    · have hat : NoBrackets "@" := by decide
      have hspace : NoBrackets " " := by decide
      exact (hat.append hnonnull).append hspace
    · decide
  unfold signatureText
  constructor
  · simp only [Nested, String.toList_append, readBrackets_append, hoverride.read, hresult.read,
      hmethod.read, hmarker.read, hentity.read, hargument.read]
    rfl
  · simp only [String.toList_append, List.mem_append, hoverride.not_mem, hresult.not_mem,
      hmethod.not_mem, hmarker.not_mem, hentity.not_mem, hargument.not_mem]
    decide

/-- The text of a method is a block if the types that it shows have no brackets. -/
theorem isBlock_text {types : PrintedTypes} (hindent : NoBrackets settings.indent)
    (htypes : types.NoBrackets) : IsBlock (text settings m types).toList := by
  obtain ⟨hsignature, hfirst⟩ :=
    nested_signatureText settings m htypes.entity htypes.uni htypes.nonnull
  -- A pipeline ends in a semicolon before the last brace.
  obtain ⟨last, hlast, hend⟩ :
      ∃ last : String, Nested last.toList ∧ endText m = last ++ "\x7d" := by
    unfold endText
    cases m.style with
    | blocking => exact ⟨"", rfl, rfl⟩
    | reactive => exact ⟨";\n", rfl, rfl⟩
  have hbreak : Nested "\n".toList := rfl
  have hbody := ((((hbreak.append (nested_guardText m hindent)).append
    (nested_tryText m hindent htypes.list)).append
    (nested_failuresText m hindent htypes.failures)).append hlast)
  have hblock := isBlock_of_nested hsignature hfirst hbody
  simpa [text, headerText_eq, hend] using hblock

end

/-- A method that is written is a block, whatever its names and its options are: its brackets nest,
    and the brace that opens its body is closed by the last character and no earlier. The
    indentation has to be free of brackets, and so do the texts that the resolver prints for the
    types that the method shows. The method is written if the resolver grants these types. -/
theorem render_isBlock {σ : Type} [NameResolver σ] (settings : Settings) (m : MethodSpec)
    (names : σ) (hindent : NoBrackets settings.indent)
    (hprinted : PrintsOnly NoBrackets names (shownTypes settings m)) :
    (∀ text run, (render settings m).start names = (.ok text, run) → IsBlock text.toList) ∧
    (Grants names (shownTypes settings m) →
      ∃ text run, (render settings m).start names = (.ok text, run)) := by
  constructor
  · intro written run hwritten
    rcases htypes : (printTypes settings m).start names with ⟨e | types, next⟩
    · -- Without its types the method is not written.
      rw [start_eq_exec, render_eq, exec_map, ← start_eq_exec, htypes] at hwritten
      have herror : Except.error e = Except.ok written := congrArg Prod.fst hwritten
      contradiction
    · have hprints := printTypes_yields settings m (Run.start names) types next hprinted htypes
      rw [render_of_printTypes htypes, Prod.mk.injEq, Except.ok.injEq] at hwritten
      rw [← hwritten.1]
      exact isBlock_text settings m hindent hprints.2
  · intro hgrants
    obtain ⟨types, events, htypes, -⟩ := printTypes_asks settings m (Run.start names) hgrants
    exact ⟨_, _, render_of_printTypes htypes⟩

/-- The upsert of an array is a block, with a choice in a chain and two stages behind it. -/
theorem render_isBlock_saveBooks :
    let names : Verbatim := ⟨[]⟩
    NoBrackets recovering.indent ∧
    PrintsOnly NoBrackets names (shownTypes recovering Sample.saveBooks) ∧
    ∃ text run, (render recovering Sample.saveBooks).start names = (.ok text, run) ∧
      IsBlock text.toList := by
  intro names
  have hindent : NoBrackets recovering.indent := by decide
  have htypes : ∀ type ∈ shownTypes recovering Sample.saveBooks, NoBrackets type := by
    decide +kernel
  have hprinted := printsOnly_verbatim htypes names
  have hgrants : Grants names (shownTypes recovering Sample.saveBooks) :=
    grants_of_forall (fun _ type => ⟨type, rfl⟩) _ _
  obtain ⟨hblock, hwritten⟩ := render_isBlock recovering Sample.saveBooks names hindent hprinted
  obtain ⟨text, run, htext⟩ := hwritten hgrants
  exact ⟨hindent, hprinted, text, run, htext, hblock text run htext⟩

end Method

end DataMethods
