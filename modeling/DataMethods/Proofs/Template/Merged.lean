import DataMethods.Proofs.Template.Chunks
import DataMethods.Proofs.Template.Grammar
import DataMethods.Template.Fill
import Mathlib.Data.List.Basic

/-!
# Texts that meet

A row in which texts meet is not what its source is cut into, for there is one text where the row
has several. `merge` joins the texts that meet. This changes neither the source of a row nor what
the template that it is prints.

## Key results

- `sourceOf_merge`: a merged row has the source of the row
- `separated_addText`: which texts can be put in front of a separated row
- `exists_derives_merge`: a merged row is a template that prints the same
-/

namespace DataMethods.Template

/-- Puts a text in front of a row, into its first text if it begins with one. -/
def addText (s : List Char) : List Chunk → List Chunk
  | .text s' :: cs => .text (s ++ s') :: cs
  | cs => .text s :: cs

/-- Puts a chunk in front of a row. -/
def addChunk : Chunk → List Chunk → List Chunk
  | .text s, cs => addText s cs
  | chunk, cs => chunk :: cs

/-- The row `cs` in front of the row `ds`, with all texts that meet joined. -/
def mergeOnto (cs ds : List Chunk) : List Chunk :=
  cs.foldr addChunk ds

/-- The row with the texts that meet joined. -/
def merge (cs : List Chunk) : List Chunk :=
  mergeOnto cs []

section

variable {s : List Char} {cs ds : List Chunk}

theorem addText_of_startsWithText (h : startsWithText cs = false) :
    addText s cs = .text s :: cs := by
  cases cs with
  | nil => rfl
  | cons chunk cs =>
    cases chunk with
    | text s' => contradiction
    | slot inside => rfl
    | block inside => rfl

theorem addText_append (hds : startsWithText ds = false) :
    addText s (cs ++ ds) = addText s cs ++ ds := by
  cases cs with
  | nil => exact addText_of_startsWithText hds
  | cons chunk cs => cases chunk <;> rfl

theorem mergeOnto_append (as bs ds : List Chunk) :
    mergeOnto (as ++ bs) ds = mergeOnto as (mergeOnto bs ds) :=
  List.foldr_append

/-- In front of a row that begins with no text, a row is merged by itself. -/
theorem mergeOnto_eq_append (hds : startsWithText ds = false) :
    mergeOnto cs ds = merge cs ++ ds := by
  induction cs with
  | nil => rfl
  | cons chunk cs ih =>
    have hstep : mergeOnto (chunk :: cs) ds = addChunk chunk (merge cs ++ ds) :=
      congrArg (addChunk chunk) ih
    rw [hstep]
    cases chunk with
    | text s => exact addText_append hds
    | slot inside => rfl
    | block inside => rfl

/-! ## Sources -/

theorem sourceOf_addText (s : List Char) (cs : List Chunk) :
    sourceOf (addText s cs) = s ++ sourceOf cs := by
  cases cs with
  | nil => rfl
  | cons chunk cs =>
    cases chunk with
    | text s' =>
      rw [addText, sourceOf_cons, sourceOf_cons]
      exact List.append_assoc s s' _
    | slot inside => rfl
    | block inside => rfl

theorem sourceOf_mergeOnto (cs ds : List Chunk) :
    sourceOf (mergeOnto cs ds) = sourceOf cs ++ sourceOf ds := by
  induction cs with
  | nil => rfl
  | cons chunk cs ih =>
    have hstep : sourceOf (addChunk chunk (mergeOnto cs ds)) =
        chunk.source ++ sourceOf (mergeOnto cs ds) := by
      cases chunk with
      | text s => exact sourceOf_addText s _
      | slot inside => rfl
      | block inside => rfl
    rw [sourceOf_cons, List.append_assoc, ← ih]
    exact hstep

theorem sourceOf_merge (cs : List Chunk) : sourceOf (merge cs) = sourceOf cs := by
  rw [merge, sourceOf_mergeOnto]
  exact List.append_nil _

/-! ## Separated rows -/

/-- Two texts have no opening between them if the first does not end in a brace, or the second
    begins with a line break. -/
theorem hasOpening_append_eq_false {a b : List Char} (ha : hasOpening a = false)
    (hb : hasOpening b = false) (hjoin : a.getLast? ≠ some '{' ∨ b.head? = some '\n') :
    hasOpening (a ++ b) = false := by
  induction a with
  | nil => exact hb
  | cons c a ih =>
    cases a with
    | nil =>
      cases b with
      | nil => rfl
      | cons d b =>
        have hpair : (c == '{' && (d == '{' || d == '%')) = false := by
          rcases hjoin with hlast | hhead
          · have hc : c ≠ '{' := by simpa using hlast
            simp [hc]
          · obtain rfl : d = '\n' := by simpa using hhead
            simp
        rw [List.singleton_append, hasOpening, hpair, hb, Bool.or_self]
    | cons d a =>
      simp only [hasOpening, Bool.or_eq_false_iff] at ha
      have hrest : hasOpening (d :: a ++ b) = false := ih ha.2 (by simpa using hjoin)
      rw [List.cons_append, List.cons_append, hasOpening, ha.1, Bool.false_or]
      exact hrest

/-- A text without an opening stays so in front of a separated row, if it does not end in a brace
    or the row begins with a line break. -/
theorem separated_addText (hne : s ≠ []) (hs : hasOpening s = false) (hcs : Separated cs)
    (hjoin : s.getLast? ≠ some '{' ∨ (sourceOf cs).head? = some '\n') :
    Separated (addText s cs) := by
  cases cs with
  | nil => exact ⟨hne, hs, .inl rfl, rfl, trivial⟩
  | cons chunk cs =>
    cases chunk with
    | text s' =>
      obtain ⟨hne', hs', hlast', hstart, hcs⟩ := hcs
      have hhead : (sourceOf (.text s' :: cs)).head? = s'.head? := by
        rw [sourceOf_cons]
        exact List.head?_append_of_ne_nil s' hne'
      rw [hhead] at hjoin
      refine ⟨by simp [hne'], hasOpening_append_eq_false hs hs' hjoin, ?_, hstart, hcs⟩
      rwa [List.getLast?_append_of_ne_nil _ hne']
    | slot inside =>
      -- A tag begins with a brace and not with a line break.
      exact ⟨hne, hs, .inr (hjoin.resolve_right (by simp [sourceOf_cons, Chunk.source])), rfl, hcs⟩
    | block inside =>
      exact ⟨hne, hs, .inr (hjoin.resolve_right (by simp [sourceOf_cons, Chunk.source])), rfl, hcs⟩

/-- A separated row can be put in front of another one that begins with a line break. -/
theorem separated_mergeOnto (hcs : Separated cs) (hds : Separated ds)
    (hhead : (sourceOf ds).head? = some '\n') : Separated (mergeOnto cs ds) := by
  induction cs with
  | nil => exact hds
  | cons chunk cs ih =>
    cases chunk with
    | text s =>
      obtain ⟨hne, hs, hlast, -, hcs⟩ := hcs
      refine separated_addText hne hs (ih hcs) ?_
      rcases hlast with rfl | hlast
      · exact .inr hhead
      · exact .inl hlast
    | slot inside => exact ⟨hcs.1, ih hcs.2⟩
    | block inside => exact ⟨hcs.1, ih hcs.2⟩

end

/-! ## Templates -/

/-- The two templates print the same in every context. -/
def PrintsAlike (t t' : Template) : Prop :=
  ∀ context, t.print context = t'.print context

namespace PrintsAlike

variable {t t' : Template}

theorem text (s : String) (h : PrintsAlike t t') : PrintsAlike (.text s t) (.text s t') := by
  intro context
  rw [print_text, print_text, h]

theorem slot (name : String) (h : PrintsAlike t t') :
    PrintsAlike (.slot name t) (.slot name t') := by
  intro context
  rw [print, print, h]

theorem branch {y y' n n' : Template} (name : String) (negated : Bool) (hy : PrintsAlike y y')
    (hn : PrintsAlike n n') (h : PrintsAlike t t') :
    PrintsAlike (.branch name negated y n t) (.branch name negated y' n' t') := by
  intro context
  simp only [print, hy context, hn context, h context]

/-- One text prints the same as two. -/
theorem join (s s' : String) (t : Template) :
    PrintsAlike (.text (s ++ s') t) (.text s (.text s' t)) := by
  intro context
  rw [print_text, print_text, print_text]
  cases t.print context with
  | error e => rfl
  | ok text => exact congrArg Except.ok String.append_assoc

end PrintsAlike

/-- A text in front of a template may be joined with the text that the template begins with. -/
theorem exists_derives_addText {cs : List Chunk} {t : Template} (h : Derives cs t) (s : List Char) :
    ∃ t', Derives (addText s cs) t' ∧ PrintsAlike t' (.text (String.ofList s) t) := by
  have hfront : Derives (.text s :: cs) (.text (String.ofList s) t) := .text s h
  cases h with
  | @text s' cs t hcs =>
    refine ⟨_, .text (s ++ s') hcs, ?_⟩
    rw [String.ofList_append]
    exact .join _ _ t
  | nil => exact ⟨_, hfront, fun _ => rfl⟩
  | slot => exact ⟨_, hfront, fun _ => rfl⟩
  | branch => exact ⟨_, hfront, fun _ => rfl⟩
  | branchElse => exact ⟨_, hfront, fun _ => rfl⟩

/-- A block stands between texts, so that they do not meet. -/
theorem merge_append_block (cs : List Chunk) (inside : List Char) (ds : List Chunk) :
    merge (cs ++ .block inside :: ds) = merge cs ++ .block inside :: merge ds := by
  rw [merge, mergeOnto_append]
  exact mergeOnto_eq_append rfl

/-- A merged row is a template that prints the same as the row. -/
theorem exists_derives_merge {cs : List Chunk} {t : Template} (h : Derives cs t) :
    ∃ t', Derives (merge cs) t' ∧ PrintsAlike t' t := by
  induction h with
  | nil => exact ⟨_, .nil, fun _ => rfl⟩
  | text s _ ih =>
    obtain ⟨t, hderives, halike⟩ := ih
    obtain ⟨t', hderives', halike'⟩ := exists_derives_addText hderives s
    exact ⟨t', hderives', fun context => (halike' context).trans (halike.text _ context)⟩
  | slot hname _ ih =>
    obtain ⟨t, hderives, halike⟩ := ih
    exact ⟨_, .slot hname hderives, halike.slot _⟩
  | @branch opening finish c yes cs _ _ hopens _ hfinish _ ihYes ih =>
    obtain ⟨y, hyes, halikeYes⟩ := ihYes
    obtain ⟨t, hcs, halike⟩ := ih
    refine ⟨.branch c.name c.negated y .done t, ?_, .branch _ _ halikeYes (fun _ => rfl) halike⟩
    have hrow := Derives.branch hopens hyes hfinish hcs
    rwa [← merge_append_block] at hrow
  | branchElse hopens _ hmiddle _ hfinish _ ihYes ihNo ih =>
    obtain ⟨y, hyes, halikeYes⟩ := ihYes
    obtain ⟨n, hno, halikeNo⟩ := ihNo
    obtain ⟨t, hcs, halike⟩ := ih
    refine ⟨_, ?_, .branch _ _ halikeYes halikeNo halike⟩
    have hrow := Derives.branchElse hopens hyes hmiddle hno hfinish hcs
    rwa [← merge_append_block, ← merge_append_block] at hrow

end DataMethods.Template
