import DataMethods.Proofs.Text.Trim
import DataMethods.Template.Basic

/-!
# The forms of tags

What may stand inside a tag, said without the reader: a slot holds a name; a block is one of the
words `else` and `endif`, or opens a branch by `if` and a name, with `not` before the name if the
branch goes by the opposite. A space has to follow `if` and `not`, and more white space may stand
there and around the whole.

## Key results

- `read_eq_ends_iff`, `exists_read_eq_opens_iff`: a block is read as its form says
- `readSlot_eq_ok_iff`: so is a slot
-/

namespace DataMethods.Template

open Text

/-- The block that stands between the parts of a branch. -/
def IsElse (inside : List Char) : Prop :=
  trim inside = "else".toList

/-- The block that ends a branch. -/
def IsEndif (inside : List Char) : Prop :=
  trim inside = "endif".toList

/-- The block that opens a branch on a condition. -/
inductive Opens (inside : List Char) : Condition → Prop where
  | plain (blanks name : List Char) :
      (∀ c ∈ blanks, isBlank c = true) → isVariableName name = true →
      trim inside = "if ".toList ++ (blanks ++ name) → Opens inside ⟨String.ofList name, false⟩
  | negated (blanks blanks' name : List Char) :
      (∀ c ∈ blanks, isBlank c = true) → (∀ c ∈ blanks', isBlank c = true) →
      isVariableName name = true →
      trim inside = "if ".toList ++ (blanks ++ ("not ".toList ++ (blanks' ++ name))) →
      Opens inside ⟨String.ofList name, true⟩

/-! ## Names of variables -/

theorem isBlank_eq_false_of_isAlphanum {c : Char} (h : (c.isAlphanum || c == '_') = true) :
    isBlank c = false := by
  have hrange : 48 ≤ c.toNat ∧ c.toNat ≤ 122 := by
    rw [Bool.or_eq_true, beq_iff_eq] at h
    rcases h with h | rfl
    · -- There are three ranges: of capital letters, of small letters and of digits.
      change (decide (65 ≤ c.val ∧ c.val ≤ 90) ||
        (decide (97 ≤ c.val) && decide (c.val ≤ 122)) ||
        (decide (48 ≤ c.val) && decide (c.val ≤ 57))) = true at h
      simp only [Bool.or_eq_true, Bool.and_eq_true, decide_eq_true_eq, UInt32.le_iff_toNat_le] at h
      change ((65 ≤ c.toNat ∧ c.toNat ≤ 90) ∨ (97 ≤ c.toNat ∧ c.toNat ≤ 122)) ∨
        (48 ≤ c.toNat ∧ c.toNat ≤ 57) at h
      omega
    · decide
  obtain ⟨hlow, hhigh⟩ := hrange
  -- The code point lies between the second and the third range of white space.
  have h1 : ¬ c.toNat ≤ 0x0D := by omega
  have h2 : ¬ c.toNat ≤ 0x20 := by omega
  have h3 : c.toNat ≤ 0x85 := by omega
  have h4 : ¬ 0x85 ≤ c.toNat := by omega
  simp [isBlank, blankRanges, Ranges.holds, h1, h2, h3, h4]

theorem isAlphanum_of_mem_name {name : List Char} (h : isVariableName name = true) :
    ∀ c ∈ name, (c.isAlphanum || c == '_') = true := by
  intro c hc
  cases name with
  | nil => exact absurd hc List.not_mem_nil
  | cons first rest =>
    simp only [isVariableName, Bool.and_eq_true, List.all_eq_true] at h
    -- The first character may not be a digit, the others may.
    rcases List.mem_cons.mp hc with rfl | hc
    · have hfirst := h.1
      simp only [Char.isAlphanum, Bool.or_eq_true] at hfirst ⊢
      rcases hfirst with hfirst | hfirst
      · exact .inl (.inl hfirst)
      · exact .inr hfirst
    · exact h.2 c hc

theorem isBlank_of_mem_name {name : List Char} (h : isVariableName name = true) :
    ∀ c ∈ name, isBlank c = false :=
  fun c hc => isBlank_eq_false_of_isAlphanum (isAlphanum_of_mem_name h c hc)

theorem ne_nil_of_isVariableName {name : List Char} (h : isVariableName name = true) :
    name ≠ [] := by
  rintro rfl
  contradiction

/-- A name with white space before it is all that trimming leaves. -/
theorem trim_blanks_name {blanks name : List Char} (hblanks : ∀ c ∈ blanks, isBlank c = true)
    (hname : isVariableName name = true) : trim (blanks ++ name) = name := by
  have hsolid := isBlank_of_mem_name hname
  apply trim_append hblanks _ (trimRight_of_forall hsolid)
  obtain ⟨c, cs, rfl⟩ := List.exists_cons_of_ne_nil (ne_nil_of_isVariableName hname)
  exact trimLeft_cons (hsolid c List.mem_cons_self)

/-- If trimming leaves a name of the end of a trimmed text, only white space stood before it. -/
theorem exists_blanks_of_trim {s a b : List Char} (h : trim s = a ++ b) :
    ∃ blanks, (∀ c ∈ blanks, isBlank c = true) ∧ b = blanks ++ trim b := by
  refine ⟨b.takeWhile isBlank, fun c hc => List.all_eq_true.mp List.all_takeWhile c hc, ?_⟩
  rw [trim_eq_dropWhile h, List.takeWhile_append_dropWhile]

/-! ## Reading a block -/

theorem ofWord?_eq_some_iff {word : List Char} {ending : BlockEnd} :
    BlockEnd.ofWord? word = some ending ↔ word = ending.word.toList := by
  constructor
  · intro h
    have hword := List.find?_some h
    exact (eq_of_beq hword).symm
  · rintro rfl
    cases ending <;> rfl

/-- The word of an end does not open a branch. -/
theorem ofWord?_if (rest : List Char) : BlockEnd.ofWord? ("if ".toList ++ rest) = none := by
  cases h : BlockEnd.ofWord? ("if ".toList ++ rest) with
  | none => rfl
  | some ending =>
    -- Neither word begins as the opening of a branch does.
    have hword := ofWord?_eq_some_iff.mp h
    cases ending <;> simp [BlockEnd.word] at hword

theorem read_eq_ends_iff {inside : List Char} {ending : BlockEnd} :
    Block.read inside = .ok (.ends ending) ↔ trim inside = ending.word.toList := by
  rw [← ofWord?_eq_some_iff, Block.read]
  cases hword : BlockEnd.ofWord? (trim inside) with
  | some other => simp [eq_comm]
  | none =>
    -- The other blocks end nothing.
    simp only [reduceCtorEq, iff_false]
    split
    · simp
    · split <;> simp

/-- A block that opens a branch, in the words of the reader. -/
theorem read_eq_opens_iff {inside : List Char} {condition : Condition} {written : String} :
    Block.read inside = .ok (.opens condition written) ↔
      ∃ rest, trim inside = "if ".toList ++ rest ∧ Condition.read (trim rest) = .ok condition ∧
        written = String.ofList (trim rest) := by
  rw [Block.read]
  constructor
  · intro h
    split at h
    · simp at h
    · split at h
      · simp at h
      · next rest hrest =>
        have htag := stripStart?_eq_some_iff.mp hrest
        cases hread : Condition.read (trim rest) with
        | error e => simp [hread] at h
        | ok c =>
          simp only [hread, Except.ok.injEq, Block.opens.injEq] at h
          exact ⟨rest, htag, by rw [hread, h.1], h.2.symm⟩
  · rintro ⟨rest, htag, hread, rfl⟩
    rw [htag, ofWord?_if, stripStart?_eq_some_iff.mpr rfl]
    simp only [hread]

/-- A condition without `not` is a name, and no name begins with the word and a space. -/
theorem Condition.read_name {name : List Char} (hname : isVariableName name = true) :
    Condition.read name = .ok ⟨String.ofList name, false⟩ := by
  have hplain : stripStart? "not ".toList name = none := by
    cases h : stripStart? "not ".toList name with
    | none => rfl
    | some rest =>
      have heq := stripStart?_eq_some_iff.mp h
      -- The name would hold a space.
      have hspace : isBlank ' ' = false := isBlank_of_mem_name hname ' ' (by simp [heq])
      contradiction
  rw [Condition.read, hplain]
  simp only [hname, if_true]

theorem Condition.read_not {rest : List Char} (hname : isVariableName (trim rest) = true) :
    Condition.read ("not ".toList ++ rest) = .ok ⟨String.ofList (trim rest), true⟩ := by
  rw [Condition.read, stripStart?_eq_some_iff.mpr rfl]
  simp only [hname, if_true]

theorem Condition.cases_of_read {expression : List Char} {condition : Condition}
    (h : Condition.read expression = .ok condition) :
    (isVariableName expression = true ∧ condition = ⟨String.ofList expression, false⟩) ∨
    ∃ rest, expression = "not ".toList ++ rest ∧ isVariableName (trim rest) = true ∧
      condition = ⟨String.ofList (trim rest), true⟩ := by
  rw [Condition.read] at h
  cases hnot : stripStart? "not ".toList expression with
  | none =>
    simp only [hnot] at h
    split at h
    · next hname => exact .inl ⟨hname, (Except.ok.inj h).symm⟩
    · contradiction
  | some rest =>
    simp only [hnot] at h
    split at h
    · next hname =>
      exact .inr ⟨rest, stripStart?_eq_some_iff.mp hnot, hname, (Except.ok.inj h).symm⟩
    · contradiction

/-- A block opens a branch if its form says so, and in no other case. -/
theorem exists_read_eq_opens_iff {inside : List Char} {condition : Condition} :
    (∃ written, Block.read inside = .ok (.opens condition written)) ↔ Opens inside condition := by
  simp only [read_eq_opens_iff]
  constructor
  · rintro ⟨_, rest, htag, hread, -⟩
    obtain ⟨blanks, hblanks, hrest⟩ := exists_blanks_of_trim htag
    rcases Condition.cases_of_read hread with ⟨hname, rfl⟩ | ⟨rest', hnot, hname, rfl⟩
    · exact .plain blanks (trim rest) hblanks hname (by rw [← hrest, htag])
    · obtain ⟨blanks', hblanks', hrest'⟩ := exists_blanks_of_trim hnot
      refine .negated blanks blanks' (trim rest') hblanks hblanks' hname ?_
      rw [← hrest', ← hnot, ← hrest, htag]
  · intro h
    cases h with
    | plain blanks name hblanks hname htag =>
      refine ⟨_, _, htag, ?_, rfl⟩
      rw [trim_blanks_name hblanks hname]
      exact Condition.read_name hname
    | negated blanks blanks' name hblanks hblanks' hname htag =>
      have hafter : trim (blanks' ++ name) = name := trim_blanks_name hblanks' hname
      -- The expression begins with the word and ends with the name, so it has solid ends.
      have hexpression : trim (blanks ++ ("not ".toList ++ (blanks' ++ name))) =
          "not ".toList ++ (blanks' ++ name) := by
        apply trim_append hblanks
        · exact trimLeft_cons (by decide)
        · rw [← List.append_assoc]
          exact trimRight_append (trimRight_of_forall (isBlank_of_mem_name hname))
            (ne_nil_of_isVariableName hname)
      refine ⟨_, _, htag, ?_, rfl⟩
      rw [hexpression, Condition.read_not (by rw [hafter]; exact hname), hafter]

theorem readSlot_eq_ok_iff {inside : List Char} {name : String} :
    readSlot inside = .ok name ↔
      isVariableName (trim inside) = true ∧ name = String.ofList (trim inside) := by
  simp only [readSlot, String.toList_ofList]
  split
  · next hname => simp [hname, eq_comm]
  · next hname => simp [hname]

end DataMethods.Template
