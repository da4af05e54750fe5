import DataMethods.Proofs.TypeName.Cut

/-!
# Balanced brackets

A text is `Balanced` if it closes the brackets that it opens and no others. `bracketed` is what is
left of a text when everything in front of its first opening bracket is dropped (`unbracketed`),
closing brackets included. A text `HasBlankArgument` if a part of a row in brackets is white space.
`WellBracketed` texts are balanced from the first opening bracket on and have no blank argument.
They are put together like types, and white space around them makes no difference.

## Key results

- `Balanced.uncut`, `Balanced.of_parts`: how balanced texts are cut at commas
- `hasBlankPart_iff`: a row has a blank part if the cut finds one
- `WellBracketed.generic`: a generic type is well bracketed if the parts of its row are
- `WellBracketed.between`: and so is a type between texts without brackets
-/

namespace DataMethods.TypeName

open Text

/-! ## Balanced texts -/

/-- As many brackets are opened as are closed, and none is closed before it is opened. -/
structure Balanced (s : List Char) : Prop where
  total : totalNesting s = 0
  nonneg : ∀ p, p <+: s → 0 ≤ totalNesting p

theorem balanced_iff_take {s : List Char} :
    Balanced s ↔ totalNesting s = 0 ∧ ∀ n ≤ s.length, 0 ≤ totalNesting (s.take n) := by
  constructor
  · rintro ⟨htotal, hnonneg⟩
    exact ⟨htotal, fun n _ => hnonneg _ (List.take_prefix n s)⟩
  · rintro ⟨htotal, hnonneg⟩
    refine ⟨htotal, fun p hp => ?_⟩
    rw [List.prefix_iff_eq_take.mp hp]
    exact hnonneg p.length hp.length_le

instance (s : List Char) : Decidable (Balanced s) :=
  decidable_of_iff _ balanced_iff_take.symm

/-- Without opening brackets the nesting only goes down. -/
theorem totalNesting_nonpos {s : List Char} (hopen : '<' ∉ s) : totalNesting s ≤ 0 := by
  induction s with
  | nil => exact Int.le_refl 0
  | cons c s ih =>
    obtain ⟨hc, hs⟩ : '<' ≠ c ∧ '<' ∉ s := by simpa using hopen
    have hnesting : nesting c ≤ 0 := by
      rw [nesting, if_neg hc.symm]
      split <;> decide
    have hrest := ih hs
    rw [totalNesting_cons]
    omega

/-- The text neither opens nor closes a bracket. -/
structure Bracketless (s : List Char) : Prop where
  not_open : '<' ∉ s
  not_close : '>' ∉ s

namespace Bracketless

theorem of_subset {s s' : List Char} (h : Bracketless s) (hsub : s' ⊆ s) : Bracketless s' :=
  ⟨fun hmem => h.not_open (hsub hmem), fun hmem => h.not_close (hsub hmem)⟩

theorem append {a b : List Char} (ha : Bracketless a) (hb : Bracketless b) :
    Bracketless (a ++ b) :=
  ⟨by simp [ha.not_open, hb.not_open], by simp [ha.not_close, hb.not_close]⟩

theorem of_allBlank {blanks : List Char} (h : AllBlank blanks) : Bracketless blanks :=
  ⟨fun hmem => absurd (h _ hmem) (by decide), fun hmem => absurd (h _ hmem) (by decide)⟩

theorem totalNesting {s : List Char} (h : Bracketless s) : totalNesting s = 0 := by
  induction s with
  | nil => rfl
  | cons c s ih =>
    have hopen : c ≠ '<' := fun heq => h.not_open (by simp [heq])
    have hclose : c ≠ '>' := fun heq => h.not_close (by simp [heq])
    have hnesting : nesting c = 0 := by rw [nesting, if_neg hopen, if_neg hclose]
    rw [totalNesting_cons, hnesting, ih (h.of_subset (List.subset_cons_self c s))]
    rfl

end Bracketless

namespace Balanced

variable {s : List Char}

theorem of_bracketless (h : Bracketless s) : Balanced s := by
  refine ⟨h.totalNesting, ?_⟩
  intro p hp
  exact Int.le_of_eq (h.of_subset hp.subset).totalNesting.symm

theorem append {a b : List Char} (ha : Balanced a) (hb : Balanced b) : Balanced (a ++ b) := by
  refine ⟨by rw [totalNesting_append, ha.total, hb.total]; rfl, ?_⟩
  intro p hp
  -- A beginning ends within the first text, or it is that text and a beginning of the second.
  rcases List.prefix_or_prefix_of_prefix hp (List.prefix_append a b) with hfirst | ⟨q, rfl⟩
  · exact ha.nonneg p hfirst
  · have hq := hb.nonneg q ((List.prefix_append_right_inj a).mp hp)
    have htotal := ha.total
    rw [totalNesting_append]
    omega

theorem brackets (h : Balanced s) : Balanced ('<' :: s ++ ['>']) := by
  have hopen : nesting '<' = 1 := rfl
  have hclose : totalNesting ['>'] = -1 := rfl
  have htotal := h.total
  constructor
  · rw [List.cons_append, totalNesting_cons, totalNesting_append]
    omega
  · intro p hp
    rw [List.cons_append] at hp
    rcases List.prefix_cons_iff.mp hp with rfl | ⟨q, rfl, hq⟩
    · exact Int.le_refl 0
    · rw [totalNesting_cons]
      rcases List.prefix_concat_iff.mp hq with rfl | hq
      · rw [totalNesting_append]
        omega
      · have hnonneg := h.nonneg q hq
        omega

theorem intercalate {parts : List (List Char)} (h : ∀ p ∈ parts, Balanced p) :
    Balanced ([','].intercalate parts) := by
  induction parts with
  | nil => decide
  | cons part parts ih =>
    have hpart : Balanced part := h part List.mem_cons_self
    cases parts with
    | nil => rwa [List.intercalate_singleton]
    | cons next parts =>
      have hcomma : Balanced [','] := by decide
      have hrest := ih fun p hp => h p (List.mem_cons_of_mem part hp)
      rw [List.intercalate_cons_cons]
      exact (hpart.append hcomma).append hrest

/-- A text whose parts are balanced is balanced. -/
theorem of_parts (h : ∀ p ∈ cutAtCommas 0 s, Balanced p) : Balanced s := by
  rw [← intercalate_cutAtCommas 0 s]
  exact intercalate h

/-- Within brackets a balanced text is not cut. -/
theorem uncut (h : Balanced s) : Uncut 1 s := by
  refine ⟨h.total, ?_⟩
  intro depth hdepth rest
  have hopen : ∀ p, p <+: s → 0 < depth + totalNesting p := by
    intro p hp
    have hnonneg := h.nonneg p hp
    omega
  rw [cutAtCommas_append_of_open hopen, h.total, Int.add_zero]

/-- An open bracket is closed in one place. -/
theorem eq_of_prefix {a b : List Char} (ha : Balanced a) (hb : Balanced b)
    (h : a ++ ['>'] <+: b ++ ['>']) : a = b := by
  rcases List.prefix_concat_iff.mp h with heq | hwithin
  · exact List.append_cancel_right heq
  · have hnonneg := hb.nonneg _ hwithin
    have hclose : totalNesting ['>'] = -1 := rfl
    rw [totalNesting_append, ha.total, hclose] at hnonneg
    omega

/-- Brackets within a balanced text are closed within it. -/
theorem infix_of_infix_close {inner row : List Char} (hinner : Balanced inner) (hrow : Balanced row)
    (h : '<' :: inner ++ ['>'] <:+: row ++ ['>']) : '<' :: inner ++ ['>'] <:+: row := by
  rcases List.infix_concat_iff.mp h with ⟨before, hend⟩ | hwithin
  · have hsplit : before ++ '<' :: inner ++ ['>'] = row ++ ['>'] := by simpa using hend
    obtain rfl : before ++ '<' :: inner = row := List.append_cancel_right hsplit
    have hbefore : 0 ≤ totalNesting before := hrow.nonneg before (List.prefix_append _ _)
    have htotal := hrow.total
    have hopen : nesting '<' = 1 := rfl
    rw [totalNesting_append, totalNesting_cons, hinner.total] at htotal
    omega
  · exact hwithin

end Balanced

/-! ## From the first opening bracket on -/

/-- The text in front of its first opening bracket. -/
def unbracketed (s : List Char) : List Char :=
  s.takeWhile (· ≠ '<')

/-- The text from its first opening bracket on. -/
def bracketed (s : List Char) : List Char :=
  s.dropWhile (· ≠ '<')

theorem unbracketed_append_bracketed (s : List Char) : unbracketed s ++ bracketed s = s :=
  List.takeWhile_append_dropWhile

theorem not_mem_unbracketed (s : List Char) : '<' ∉ unbracketed s := by
  intro hmem
  have hall : (unbracketed s).all (· ≠ '<') = true := List.all_takeWhile
  have hne := List.all_eq_true.mp hall '<' hmem
  simp at hne

theorem bracketed_append {before : List Char} (h : '<' ∉ before) (s : List Char) :
    bracketed (before ++ s) = bracketed s :=
  List.dropWhile_append_of_pos fun _ hc => decide_eq_true fun heq => h (heq ▸ hc)

theorem bracketed_of_not_mem {s : List Char} (h : '<' ∉ s) : bracketed s = [] := by
  have hdrop := bracketed_append h []
  rwa [List.append_nil] at hdrop

theorem exists_bracketed_eq_cons {s : List Char} (h : '<' ∈ s) : ∃ r, bracketed s = '<' :: r := by
  obtain ⟨a, b, rfl, ha⟩ := List.eq_append_cons_of_mem h
  exact ⟨b, bracketed_append ha _⟩

theorem bracketed_append_of_mem {s : List Char} (h : '<' ∈ s) (after : List Char) :
    bracketed (s ++ after) = bracketed s ++ after := by
  obtain ⟨a, b, rfl, ha⟩ := List.eq_append_cons_of_mem h
  rw [List.append_assoc, bracketed_append ha, bracketed_append ha]
  rfl

namespace Balanced

variable {s : List Char}

theorem of_bracketed (h : Balanced (bracketed s)) (hclose : '>' ∉ unbracketed s) : Balanced s := by
  have hwhole := (of_bracketless ⟨not_mem_unbracketed s, hclose⟩).append h
  rwa [unbracketed_append_bracketed] at hwhole

/-- If the brackets balance from the first opening one on, and are as many opening as closing ones
in the whole text, none precedes the first opening one. -/
theorem of_bracketed_of_total (h : Balanced (bracketed s)) (hs : totalNesting s = 0) :
    Balanced s := by
  refine h.of_bracketed fun hmem => ?_
  obtain ⟨a, b, hsplit⟩ := List.append_of_mem hmem
  have hopen := not_mem_unbracketed s
  rw [← unbracketed_append_bracketed s, totalNesting_append, h.total, hsplit,
    totalNesting_append, totalNesting_cons] at hs
  rw [hsplit] at hopen
  -- Closing brackets without opening ones cannot be made up for.
  have ha : totalNesting a ≤ 0 := totalNesting_nonpos fun hmem => hopen (by simp [hmem])
  have hb : totalNesting b ≤ 0 := totalNesting_nonpos fun hmem => hopen (by simp [hmem])
  have hbracket : nesting '>' = -1 := rfl
  omega

end Balanced

/-! ## Blank arguments -/

/-- White space is all there is between two commas outside brackets, or between such a comma and an
end of the row, or in the row. -/
def HasBlankPart (row : List Char) : Prop :=
  ∃ before blanks after, row = before ++ blanks ++ after ∧ AllBlank blanks ∧
    (before = [] ∨ ∃ b, before = b ++ [','] ∧ totalNesting b = 0) ∧
    (after = [] ∨ ∃ a, after = ',' :: a)

/-- A row between an opening bracket and the one that closes it has a blank part. -/
def HasBlankArgument (s : List Char) : Prop :=
  ∃ row, '<' :: row ++ ['>'] <:+: s ∧ Balanced row ∧ HasBlankPart row

theorem HasBlankPart.exists_part {row : List Char} (h : HasBlankPart row) :
    ∃ part ∈ cutAtCommas 0 row, AllBlank part := by
  obtain ⟨before, blanks, after, rfl, hblanks, hbefore, hafter⟩ := h
  -- The white space comes first if the row is cut in front of it.
  have hfirst : blanks ∈ cutAtCommas 0 (blanks ++ after) := by
    have huncut : Uncut 0 blanks := Uncut.of_allBlank hblanks
    rcases hafter with rfl | ⟨a, rfl⟩
    · rw [List.append_nil, huncut.cutAtCommas_eq]
      exact List.mem_cons_self
    · rw [huncut.cutAtCommas_row]
      exact List.mem_cons_self
  refine ⟨blanks, ?_, hblanks⟩
  rcases hbefore with rfl | ⟨b, rfl, hb⟩
  · exact hfirst
  · have hsplit : b ++ [','] ++ blanks ++ after = b ++ ',' :: (blanks ++ after) := by simp
    rw [hsplit, cutAtCommas_append_comma (by omega)]
    exact List.mem_append_right _ hfirst

theorem hasBlankPart_iff {row : List Char} :
    HasBlankPart row ↔ ∃ part ∈ cutAtCommas 0 row, AllBlank part := by
  refine ⟨HasBlankPart.exists_part, ?_⟩
  rintro ⟨part, hpart, hblank⟩
  obtain ⟨first, others, hcut, hparts⟩ := exists_parts 0 row
  rw [hcut] at hpart
  rcases List.mem_cons.mp hpart with rfl | hpart
  · obtain ⟨after, hrow, hafter⟩ := hparts.exists_after
    exact ⟨[], part, after, hrow, hblank, .inl rfl, hafter⟩
  · obtain ⟨before, after, hrow, hbefore, hafter⟩ := hparts.exists_before hpart
    refine ⟨before ++ [','], part, after, by simp [hrow], hblank, .inr ⟨before, rfl, ?_⟩, hafter⟩
    omega

/-! ## Well bracketed texts -/

/-- What begins with another character than those in front begins behind them. -/
theorem infix_of_append_left {c : Char} {part before s : List Char} (hc : c ∉ before)
    (h : c :: part <:+: before ++ s) : c :: part <:+: s := by
  induction before with
  | nil => exact h
  | cons d before ih =>
    obtain ⟨hd, hbefore⟩ : c ≠ d ∧ c ∉ before := by simpa using hc
    rcases List.infix_cons_iff.mp h with hfront | hbehind
    · exact absurd (List.cons_prefix_cons.mp hfront).1 hd
    · exact ih hbefore hbehind

theorem infix_of_append_right {c : Char} {part s after : List Char} (hc : c ∉ after)
    (h : part ++ [c] <:+: s ++ after) : part ++ [c] <:+: s := by
  rw [← List.reverse_infix] at h ⊢
  rw [List.reverse_append, List.reverse_append] at h
  rw [List.reverse_append]
  exact infix_of_append_left (by simpa using hc) h

/-- The brackets balance from the first opening one on, and no argument is blank. -/
structure WellBracketed (s : List Char) : Prop where
  balanced : Balanced (bracketed s)
  no_blank : ¬HasBlankArgument s

namespace WellBracketed

variable {s : List Char}

/-- A text that opens no bracket is well bracketed, whatever it closes. -/
theorem of_not_mem (h : '<' ∉ s) : WellBracketed s := by
  constructor
  · rw [bracketed_of_not_mem h]
    decide
  · rintro ⟨row, hrow, -, -⟩
    exact h (hrow.subset (by simp))

/-- Nothing changes between texts without brackets. In front there may even be closing ones. -/
theorem between {before after : List Char} (h : WellBracketed s) (hbefore : '<' ∉ before)
    (hafter : Bracketless after) : WellBracketed (before ++ s ++ after) := by
  constructor
  · rw [List.append_assoc, bracketed_append hbefore]
    by_cases hmem : '<' ∈ s
    · rw [bracketed_append_of_mem hmem]
      exact h.balanced.append (.of_bracketless hafter)
    · rw [bracketed_append hmem, bracketed_of_not_mem hafter.not_open]
      decide
  · rintro ⟨row, hrow, hbalanced, hblank⟩
    have hleft : '<' :: row ++ ['>'] <:+: s :=
      infix_of_append_left hbefore (infix_of_append_right hafter.not_close hrow)
    exact h.no_blank ⟨row, hleft, hbalanced, hblank⟩

/-- The row of a generic type is balanced if its parts are well bracketed. -/
theorem balanced_row {row : List Char} (htotal : totalNesting row = 0)
    (h : ∀ part ∈ cutAtCommas 0 row, WellBracketed part) : Balanced row :=
  .of_parts fun part hpart =>
    (h part hpart).balanced.of_bracketed_of_total (totalNesting_of_mem_cutAtCommas htotal hpart)

/-- A generic type is well bracketed if the parts of its row are, and none of them is blank. -/
theorem generic {head row : List Char} (hhead : '<' ∉ head) (htotal : totalNesting row = 0)
    (hparts : ∀ part ∈ cutAtCommas 0 row, WellBracketed part)
    (hsolid : ∀ part ∈ cutAtCommas 0 row, ¬AllBlank part) :
    WellBracketed (head ++ ('<' :: row ++ ['>'])) := by
  have hrow : Balanced row := balanced_row htotal hparts
  constructor
  · rw [bracketed_append hhead]
    exact hrow.brackets
  · rintro ⟨inner, hinner, hbalanced, hblank⟩
    have hin := infix_of_append_left hhead hinner
    -- The row with the blank part is the one of the type, or it lies within a part of that.
    rcases List.infix_cons_iff.mp hin with hwhole | hin
    · obtain rfl : inner = row := hbalanced.eq_of_prefix hrow (List.cons_prefix_cons.mp hwhole).2
      obtain ⟨part, hpart, hpartBlank⟩ := hblank.exists_part
      exact hsolid part hpart hpartBlank
    · obtain ⟨before, after, hsplit⟩ := hbalanced.infix_of_infix_close hrow hin
      have huncut : Uncut 0 ('<' :: inner ++ ['>']) := hbalanced.uncut.brackets
      have hopen : 0 ≤ 0 + totalNesting before := by
        have hnonneg := hrow.nonneg before ⟨_, by rw [← hsplit, List.append_assoc]⟩
        omega
      obtain ⟨part, hpart, hinPart⟩ := huncut.exists_part hopen after
      rw [hsplit] at hpart
      exact (hparts part hpart).no_blank ⟨inner, hinPart, hbalanced, hblank⟩

end WellBracketed

end DataMethods.TypeName
