import DataMethods.Proofs.Template.Chunks
import DataMethods.Proofs.Template.Grammar

/-!
# Written templates

A template is written with a space on both sides of what stands in a tag, and without the block
`else` where nothing follows it. Its source compiles to the template again, provided that its texts
can be told from each other and from the tags, and that no block of it stands alone on a line.

## Key results

- `separated_row`: the chunks of a written template can be told apart in its source
- `derives_row`: the grammar derives the template from them
- `compile_written`: the source of a template compiles to the template
-/

namespace DataMethods.Template

open Text

/-! ## Writing a template -/

/-- What stands in the block that opens a branch. -/
def conditionText (name : String) (negated : Bool) : String :=
  (if negated then " if not " else " if ") ++ name ++ " "

/-- The chunks that a template is written with. -/
def row : Template → List Chunk
  | .done => []
  | .text s rest => Fragment.plain s :: rest.row
  | .slot name rest => Fragment.slot name :: rest.row
  | .branch name negated yes no rest =>
    .block (conditionText name negated).toList ::
      (yes.row ++ ((if no = .done then [] else Fragment.otherwise :: no.row) ++
        Fragment.finish :: rest.row))

/-- The source of a template. -/
def written (t : Template) : String :=
  Fragment.source t.row

/-! ## Templates that can be written -/

/-- Does the template begin with a text? -/
def beginsWithText : Template → Bool
  | .text _ _ => true
  | _ => false

/-- The texts of the template can be told from each other and from its tags, and its variables have
names. A tag follows the end of the template if it is a part of a branch. -/
def Writable (inBranch : Bool) : Template → Prop
  | .done => True
  | .text s rest =>
    s ≠ "" ∧ occursIn ['{', '{'] s.toList = false ∧ occursIn ['{', '%'] s.toList = false ∧
      (s.toList.getLast? = some '{' → rest = .done ∧ inBranch = false) ∧
      rest.beginsWithText = false ∧ rest.Writable inBranch
  | .slot name rest => isVariableName name.toList = true ∧ rest.Writable inBranch
  | .branch name _ yes no rest =>
    isVariableName name.toList = true ∧ yes.Writable true ∧ no.Writable true ∧
      rest.Writable inBranch

instance decidableWritable (inBranch : Bool) : (t : Template) → Decidable (t.Writable inBranch)
  | .done => inferInstanceAs (Decidable True)
  | .text _ rest =>
    have := decidableWritable inBranch rest
    inferInstanceAs (Decidable (_ ∧ _ ∧ _ ∧ (_ → _ ∧ _) ∧ _ ∧ rest.Writable inBranch))
  | .slot _ rest =>
    have := decidableWritable inBranch rest
    inferInstanceAs (Decidable (_ ∧ rest.Writable inBranch))
  | .branch _ _ yes no rest =>
    have := decidableWritable true yes
    have := decidableWritable true no
    have := decidableWritable inBranch rest
    inferInstanceAs (Decidable (_ ∧ yes.Writable true ∧ no.Writable true ∧ rest.Writable inBranch))

/-! ## Tags with a space on both sides -/

theorem solid_name {name : List Char} (h : isVariableName name = true) : Solid name :=
  .of_forall (ne_nil_of_isVariableName h) (isBlank_of_mem_name h)

theorem trim_spaced {s : List Char} (h : Solid s) : trim (' ' :: s ++ [' ']) = s := by
  have hspace : AllBlank [' '] := by decide
  exact h.trim_between hspace hspace

theorem any_isMark_name {name : List Char} (h : isVariableName name = true) :
    name.any isMark = false := by
  rw [List.any_eq_false]
  intro c hc hmark
  have hname := isAlphanum_of_mem_name h c hc
  simp only [isMark, Bool.or_eq_true, beq_iff_eq] at hmark
  rcases hmark with (rfl | rfl) | rfl <;> contradiction

theorem any_isMark_slot {name : String} (h : isVariableName name.toList = true) :
    (" " ++ name ++ " ").toList.any isMark = false := by
  simp only [String.toList_append, List.any_append, any_isMark_name h]
  decide

theorem any_isMark_condition {name : String} (h : isVariableName name.toList = true)
    (negated : Bool) : (conditionText name negated).toList.any isMark = false := by
  simp only [conditionText, String.toList_append, List.any_append, any_isMark_name h]
  cases negated <;> decide

theorem trim_slot {name : String} (h : isVariableName name.toList = true) :
    trim (" " ++ name ++ " ").toList = name.toList := by
  have hsource : (" " ++ name ++ " ").toList = ' ' :: name.toList ++ [' '] := by simp
  rw [hsource, trim_spaced (solid_name h)]

theorem trim_condition (word : String) (hword : Solid word.toList) {name : String}
    (h : isVariableName name.toList = true) :
    trim (" " ++ word ++ " " ++ name ++ " ").toList = word.toList ++ " ".toList ++ name.toList := by
  have hsource : (" " ++ word ++ " " ++ name ++ " ").toList =
      ' ' :: (word.toList ++ " ".toList ++ name.toList) ++ [' '] := by simp
  rw [hsource, trim_spaced (hword.append " ".toList (solid_name h))]

theorem opens_condition {name : String} (h : isVariableName name.toList = true) (negated : Bool) :
    Opens (conditionText name negated).toList ⟨name, negated⟩ := by
  have hopens : Opens (conditionText name negated).toList
      ⟨String.ofList name.toList, negated⟩ := by
    cases negated with
    | false =>
      have htrim := trim_condition "if" (by decide) h
      exact .plain [] name.toList (by simp) h htrim
    | true =>
      have htrim := trim_condition "if not" (by decide) h
      exact .negated [] [] name.toList (by simp) (by simp) h htrim
  rwa [String.ofList_toList] at hopens

/-! ## The chunks of a written template -/

theorem startsWithText_row {t : Template} {cs : List Chunk} (ht : t.beginsWithText = false)
    (hcs : startsWithText cs = false) : startsWithText (t.row ++ cs) = false := by
  cases t with
  | done => exact hcs
  | text s rest => contradiction
  | slot name rest => rfl
  | branch name negated yes no rest => rfl

/-- The chunks of a template can be told apart in its source, and from the tags that follow it. -/
theorem separated_row {inBranch : Bool} {t : Template} {cs : List Chunk}
    (ht : t.Writable inBranch) (hcs : Separated cs) (hstart : startsWithText cs = false)
    (hend : inBranch = false → cs = []) : Separated (t.row ++ cs) := by
  induction t generalizing inBranch cs with
  | done => exact hcs
  | text s rest ih =>
    obtain ⟨hne, hslots, hblocks, hlast, hrest, hwritable⟩ := ht
    refine ⟨?_, ?_, ?_, startsWithText_row hrest hstart, ih hwritable hcs hstart hend⟩
    · simpa using hne
    · rw [hasOpening_eq, hslots, hblocks]
      rfl
    · by_cases hbrace : s.toList.getLast? = some '{'
      · obtain ⟨rfl, hbranch⟩ := hlast hbrace
        exact .inl (hend hbranch)
      · exact .inr hbrace
  | slot name rest ih =>
    obtain ⟨hname, hwritable⟩ := ht
    exact ⟨any_isMark_slot hname, ih hwritable hcs hstart hend⟩
  | branch name negated yes no rest ihYes ihNo ihRest =>
    obtain ⟨hname, hyes, hno, hrest⟩ := ht
    have hfinish : Separated (Fragment.finish :: (rest.row ++ cs)) :=
      ⟨by decide, ihRest hrest hcs hstart hend⟩
    have hyesRow : ∀ after, Separated after → startsWithText after = false →
        Separated (.block (conditionText name negated).toList :: (yes.row ++ after)) :=
      fun after hafter hnoText =>
        ⟨any_isMark_condition hname negated, ihYes hyes hafter hnoText (fun h => nomatch h)⟩
    by_cases hempty : no = .done
    · have hrow := hyesRow _ hfinish rfl
      simpa [row, hempty] using hrow
    · have helse :
          Separated (Fragment.otherwise :: (no.row ++ Fragment.finish :: (rest.row ++ cs))) :=
        ⟨by decide, ihNo hno hfinish rfl (fun h => nomatch h)⟩
      have hrow := hyesRow _ helse rfl
      simpa [row, hempty] using hrow

/-- The grammar derives a template from the chunks that it is written with. -/
theorem derives_row {inBranch : Bool} {t : Template} (h : t.Writable inBranch) :
    Derives t.row t := by
  induction t generalizing inBranch with
  | done => exact .nil
  | text s rest ih =>
    obtain ⟨-, -, -, -, -, hwritable⟩ := h
    have htext := Derives.text s.toList (ih hwritable)
    rwa [String.ofList_toList] at htext
  | slot name rest ih =>
    obtain ⟨hname, hwritable⟩ := h
    have htrim := trim_slot hname
    have hslot := Derives.slot (by rwa [htrim]) (ih hwritable)
    rwa [htrim, String.ofList_toList] at hslot
  | branch name negated yes no rest ihYes ihNo ihRest =>
    obtain ⟨hname, hyes, hno, hrest⟩ := h
    have hopens := opens_condition hname negated
    have hfinish : trim " endif ".toList = "endif".toList := by decide
    by_cases hempty : no = .done
    · subst hempty
      exact .branch hopens (ihYes hyes) hfinish (ihRest hrest)
    · have helse : trim " else ".toList = "else".toList := by decide
      rw [row, if_neg hempty, List.cons_append]
      exact .branchElse hopens (ihYes hyes) helse (ihNo hno) hfinish (ihRest hrest)

/-- The source of a template compiles to the template, if no block stands alone on a line. -/
theorem compile_written {t : Template} (hwritable : t.Writable false)
    (hlines : hasBlockLine [] t.row = false) : compile t.written = .ok t := by
  have hseparated : Separated t.row := by
    rw [← List.append_nil t.row]
    exact separated_row hwritable trivial rfl fun _ => rfl
  rw [compile, written, Fragment.source, String.toList_ofList, chunksOf_sourceOf hseparated hlines]
  exact ofChunks_eq_ok_iff.mpr (derives_row hwritable)

/-- Braces and percent signs beside tags, and a branch in the second part of a branch. -/
theorem compile_written_nested :
    let t : Template :=
      .text "%\x7d \x7b " <|
      .branch "x" true (.text "\x7d\x7d\n" <| .slot "not" <| .text "\x7d" .done)
        (.branch "else" false (.text " " .done) .done .done) <|
      .text "\n \x7b" .done
    t.Writable false ∧ hasBlockLine [] t.row = false ∧ compile t.written = .ok t := by
  intro t
  have hwritable : t.Writable false := by decide +kernel
  have hlines : hasBlockLine [] t.row = false := by decide +kernel
  exact ⟨hwritable, hlines, compile_written hwritable hlines⟩

end DataMethods.Template
