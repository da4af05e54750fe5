import Mathlib.Data.List.Basic

/-!
# Nested brackets

A text is read from left to right with a stack of the round and curly brackets that are open. Its
brackets are `Nested` if each closes the innermost one that is open, and none is open at the end.
What is nested by itself may stand anywhere: reading it leaves the brackets around it alone.

## Key results

- `readBrackets_append`, `Nested.read`: a text is read part by part, over the nested ones
- `isBlock_of_nested`: a nested text behind another one and in braces is a block
-/

namespace DataMethods.Text

/-- The round and the curly brackets. -/
def brackets : List Char :=
  ['(', ')', '{', '}']

/-- The bracket that closes the given one. -/
def closing? (c : Char) : Option Char :=
  if c = '(' then some ')' else if c = '{' then some '}' else none

/-- Does the character close a bracket? -/
def isClosing (c : Char) : Bool :=
  c == ')' || c == '}'

/-- Reads one character. The stack holds the brackets that are to close those that are open, the
    innermost first. Reading fails at a bracket that is not the one to come next. -/
def readBracket (stack : List Char) (c : Char) : Option (List Char) :=
  match closing? c with
  | some close => some (close :: stack)
  | none =>
    if isClosing c then
      match stack with
      | [] => none
      | close :: outer => if c = close then some outer else none
    else some stack

/-- Reads a text from left to right. -/
def readBrackets (stack s : List Char) : Option (List Char) :=
  s.foldlM readBracket stack

/-- The brackets of the text close each other. -/
def Nested (s : List Char) : Prop :=
  readBrackets [] s = some []

/-- The text has no round or curly bracket. -/
def Bracketless (s : List Char) : Prop :=
  ∀ c ∈ s, c ∉ brackets

/-- The brackets of the text are nested, and the first brace in it is the outermost bracket from
    there on: it is open until the last character, which closes it. -/
def IsBlock (s : List Char) : Prop :=
  Nested s ∧ ∃ before inside, s = before ++ '{' :: (inside ++ ['}']) ∧ '{' ∉ before ∧
    ∀ part, part <+: inside →
      ∃ opened, readBrackets [] (before ++ '{' :: part) = some (opened ++ ['}'])

instance (s : List Char) : Decidable (Nested s) :=
  inferInstanceAs (Decidable (_ = _))

instance (s : List Char) : Decidable (Bracketless s) :=
  decidable_of_iff (s.all (!brackets.contains ·) = true) (by simp [Bracketless])

/-! ## Reading part by part -/

theorem readBrackets_append (stack a b : List Char) :
    readBrackets stack (a ++ b) = (readBrackets stack a).bind (readBrackets · b) :=
  List.foldlM_append

theorem readBrackets_cons (stack : List Char) (c : Char) (s : List Char) :
    readBrackets stack (c :: s) = (readBracket stack c).bind (readBrackets · s) :=
  List.foldlM_cons

/-- Brackets further down in the stack make no difference to a text that does not close them. -/
theorem readBracket_base {stack left : List Char} {c : Char} (h : readBracket stack c = some left)
    (base : List Char) : readBracket (stack ++ base) c = some (left ++ base) := by
  unfold readBracket at h ⊢
  cases hclose : closing? c with
  | some close =>
    simp only [hclose, Option.some.injEq] at h ⊢
    rw [← h, List.cons_append]
  | none =>
    simp only [hclose] at h ⊢
    by_cases hclosing : isClosing c = true
    · rw [if_pos hclosing] at h ⊢
      cases stack with
      | nil => contradiction
      | cons close outer =>
        by_cases hc : c = close
        · simp only [if_pos hc, Option.some.injEq, List.cons_append] at h ⊢
          rw [h]
        · simp [hc] at h
    · rw [if_neg hclosing] at h ⊢
      rw [Option.some.inj h]

theorem readBrackets_base {stack left s : List Char} (h : readBrackets stack s = some left)
    (base : List Char) : readBrackets (stack ++ base) s = some (left ++ base) := by
  induction s generalizing stack with
  | nil =>
    cases h
    rfl
  | cons c s ih =>
    rw [readBrackets_cons] at h ⊢
    obtain ⟨next, hnext, hrest⟩ := Option.bind_eq_some_iff.mp h
    rw [readBracket_base hnext base]
    exact ih hrest

/-- What has been read of a text before its end has been read without failure. -/
theorem exists_readBrackets_of_prefix {stack left part s : List Char}
    (h : readBrackets stack s = some left) (hpart : part <+: s) :
    ∃ opened, readBrackets stack part = some opened := by
  obtain ⟨rest, rfl⟩ := hpart
  rw [readBrackets_append] at h
  obtain ⟨opened, hopened, -⟩ := Option.bind_eq_some_iff.mp h
  exact ⟨opened, hopened⟩

/-! ## Nested texts -/

namespace Nested

variable {a b s : List Char}

/-- A nested text is read over. -/
theorem read (h : Nested s) (stack : List Char) : readBrackets stack s = some stack :=
  readBrackets_base h stack

theorem append (ha : Nested a) (hb : Nested b) : Nested (a ++ b) := by
  rw [Nested, readBrackets_append, ha]
  exact hb

end Nested

theorem Bracketless.nested {s : List Char} (h : Bracketless s) : Nested s := by
  induction s with
  | nil => rfl
  | cons c s ih =>
    obtain ⟨hc, hs⟩ := List.forall_mem_cons.mp h
    simp only [brackets, List.mem_cons, List.not_mem_nil, or_false, not_or] at hc
    have hstep : readBracket [] c = some [] := by
      simp [readBracket, closing?, isClosing, hc]
    rw [Nested, readBrackets_cons, hstep]
    exact ih hs

theorem Bracketless.append {a b : List Char} (ha : Bracketless a) (hb : Bracketless b) :
    Bracketless (a ++ b) :=
  List.forall_mem_append.mpr ⟨ha, hb⟩

/-- A nested text without braces, and behind it another nested one in braces. -/
theorem isBlock_of_nested {before inside : List Char} (hbefore : Nested before)
    (hfirst : '{' ∉ before) (hinside : Nested inside) :
    IsBlock (before ++ '{' :: (inside ++ ['}'])) := by
  have hopen (s : List Char) : readBrackets [] (before ++ '{' :: s) = readBrackets ['}'] s := by
    rw [readBrackets_append, hbefore]
    rfl
  refine ⟨?nested, before, inside, rfl, hfirst, ?last⟩
  case nested =>
    rw [Nested, hopen, readBrackets_append, hinside.read]
    rfl
  case last =>
    intro part hpart
    obtain ⟨opened, hopened⟩ := exists_readBrackets_of_prefix hinside hpart
    exact ⟨opened, (hopen part).trans (readBrackets_base hopened ['}'])⟩

end DataMethods.Text
