import DataMethods.Text.Affix
import DataMethods.Template.Fragment

/-!
# Indentation

A text whose lines are indented by tabs is reindented by putting another unit in the place of each
tab at the beginning of a line. `reindent` does so line by line. The same can be done from left to
right, if it is known of every part of the text whether it stands where a line is still nothing but
indentation: `Reindents` says what becomes of a part that stands so or not, and how the next part
stands.

## Key results

- `reindentFrom_true`: reindenting line by line is reindenting from left to right
- `Reindents.append`: a text is reindented part by part
- `Reindents.indentation`: indentation by tabs becomes indentation by the unit
- `Reindents.inner`, `Reindents.ending`, `Reindents.unbroken`, `Reindents.word`: other parts stay as
  they are
-/

namespace DataMethods.Text

/-! ## Line by line -/

/-- The line with the unit in place of each tab that it begins with. -/
def reindentLine (unit line : List Char) : List Char :=
  (line.takeWhile (· = '\t')).flatMap (fun _ => unit) ++ line.dropWhile (· = '\t')

/-- The text with all lines reindented. -/
def reindent (unit s : List Char) : List Char :=
  ['\n'].intercalate ((segments '\n' s).map (reindentLine unit))

/-- The text with all lines reindented. -/
def reindented (unit text : String) : String :=
  String.ofList (reindent unit.toList text.toList)

/-! ## From left to right -/

/-- The text reindented from left to right. The flag says whether it stands where a line is still
    nothing but indentation. -/
def reindentFrom (unit : List Char) (atStart : Bool) : List Char → List Char
  | [] => []
  | c :: s =>
    if c = '\n' then c :: reindentFrom unit true s
    else if atStart = true ∧ c = '\t' then unit ++ reindentFrom unit true s
    else c :: reindentFrom unit false s

/-- Is the line that the text ends in still nothing but indentation? -/
def endsAtStart (atStart : Bool) : List Char → Bool
  | [] => atStart
  | c :: s => endsAtStart (c == '\n' || atStart && c == '\t') s

theorem intercalate_cons_append (sep a b : List Char) (rest : List (List Char)) :
    sep.intercalate ((a ++ b) :: rest) = a ++ sep.intercalate (b :: rest) := by
  cases rest with
  | nil => simp [List.intercalate]
  | cons c rest => simp [List.intercalate]

theorem reindentLine_tab (unit line : List Char) :
    reindentLine unit ('\t' :: line) = unit ++ reindentLine unit line := by
  simp [reindentLine]

theorem reindentLine_of_ne {unit line : List Char} {c : Char} (h : c ≠ '\t') :
    reindentLine unit (c :: line) = c :: line := by
  simp [reindentLine, h]

/-- From left to right, the line in which the text begins is reindented only if it stands at the
    start of a line. All other lines are. -/
theorem reindentFrom_eq (unit s : List Char) :
    ∃ line rest, segments '\n' s = line :: rest ∧
      reindentFrom unit true s = ['\n'].intercalate ((line :: rest).map (reindentLine unit)) ∧
      reindentFrom unit false s = ['\n'].intercalate (line :: rest.map (reindentLine unit)) := by
  induction s with
  | nil => exact ⟨[], [], rfl, rfl, rfl⟩
  | cons c s ih =>
    obtain ⟨line, rest, hlines, hstart, hinner⟩ := ih
    by_cases hbreak : c = '\n'
    · subst hbreak
      have hnext (atStart : Bool) : reindentFrom unit atStart ('\n' :: s) =
          ['\n'].intercalate ([] :: (line :: rest).map (reindentLine unit)) := by
        rw [reindentFrom, if_pos rfl, hstart]
        simp [List.intercalate]
      exact ⟨[], line :: rest, by simp [segments, hlines], hnext true, hnext false⟩
    · refine ⟨c :: line, rest, by simp [segments, hbreak, hlines], ?_, ?_⟩
      · rw [List.map_cons, reindentFrom, if_neg hbreak]
        by_cases htab : c = '\t'
        · rw [if_pos ⟨rfl, htab⟩, hstart, htab, reindentLine_tab, intercalate_cons_append]
          rfl
        · rw [if_neg fun h => htab h.2, hinner, reindentLine_of_ne htab]
          exact (intercalate_cons_append _ [c] line _).symm
      · rw [reindentFrom, if_neg hbreak, if_neg fun h => Bool.false_ne_true h.1, hinner]
        exact (intercalate_cons_append _ [c] line _).symm

theorem reindentFrom_true (unit s : List Char) : reindentFrom unit true s = reindent unit s := by
  obtain ⟨line, rest, hlines, hstart, -⟩ := reindentFrom_eq unit s
  rw [hstart, reindent, hlines]

theorem reindentFrom_append (unit a b : List Char) (atStart : Bool) :
    reindentFrom unit atStart (a ++ b) =
      reindentFrom unit atStart a ++ reindentFrom unit (endsAtStart atStart a) b := by
  induction a generalizing atStart with
  | nil => rfl
  | cons c a ih =>
    rw [List.cons_append, reindentFrom, reindentFrom, endsAtStart]
    by_cases hbreak : c = '\n'
    · simp [hbreak, ih]
    · by_cases htab : atStart = true ∧ c = '\t'
      · simp [htab, ih]
      · have hnot : (c == '\n' || atStart && c == '\t') = false := by simpa [hbreak] using htab
        rw [if_neg hbreak, if_neg htab, if_neg hbreak, if_neg htab, hnot, ih, List.cons_append]

theorem endsAtStart_append (a b : List Char) (atStart : Bool) :
    endsAtStart atStart (a ++ b) = endsAtStart (endsAtStart atStart a) b := by
  induction a generalizing atStart with
  | nil => rfl
  | cons c a ih => exact ih _

/-- Only tabs are replaced. -/
theorem reindentFrom_of_not_mem {unit s : List Char} (h : '\t' ∉ s) (atStart : Bool) :
    reindentFrom unit atStart s = s := by
  induction s generalizing atStart with
  | nil => rfl
  | cons c s ih =>
    rw [List.mem_cons, not_or] at h
    have hnot : ¬(atStart = true ∧ c = '\t') := fun htab => h.1 htab.2.symm
    rw [reindentFrom, ih h.2, ih h.2, if_neg hnot, ite_self]

/-- Only tabs at the beginning of a line are replaced. -/
theorem reindentFrom_false_of_not_mem (unit : List Char) {s : List Char} (h : '\n' ∉ s) :
    reindentFrom unit false s = s ∧ endsAtStart false s = false := by
  induction s with
  | nil => exact ⟨rfl, rfl⟩
  | cons c s ih =>
    rw [List.mem_cons, not_or] at h
    obtain ⟨hsame, hends⟩ := ih h.2
    have hbreak : c ≠ '\n' := Ne.symm h.1
    have hinner : (c == '\n' || false && c == '\t') = false := by simpa using hbreak
    have hnot : ¬(false = true ∧ c = '\t') := fun htab => Bool.false_ne_true htab.1
    rw [reindentFrom, endsAtStart, if_neg hbreak, if_neg hnot, hsame, hinner]
    exact ⟨rfl, hends⟩

/-- The text has no line break. -/
def Unbroken (text : String) : Prop :=
  '\n' ∉ text.toList

instance (text : String) : Decidable (Unbroken text) :=
  inferInstanceAs (Decidable (_ ∉ _))

theorem unbroken_append {a b : String} : Unbroken (a ++ b) ↔ Unbroken a ∧ Unbroken b := by
  rw [Unbroken, String.toList_append, List.mem_append, not_or]
  rfl

/-! ## Part by part -/

/-- The text `a`, which stands as the first flag says, is reindented to `b`. What follows it stands
    as the second flag says. -/
structure Reindents (unit : String) (atStart : Bool) (a b : String) (ends : Bool) : Prop where
  eq : reindentFrom unit.toList atStart a.toList = b.toList
  ends : endsAtStart atStart a.toList = ends

namespace Reindents

variable {unit a b a' b' : String} {atStart middle ends : Bool}

theorem reindented_eq (h : Reindents unit true a b ends) : reindented unit a = b := by
  rw [reindented, ← reindentFrom_true, h.eq, String.ofList_toList]

theorem append (ha : Reindents unit atStart a a' middle) (hb : Reindents unit middle b b' ends) :
    Reindents unit atStart (a ++ b) (a' ++ b') ends := by
  constructor
  · rw [String.toList_append, reindentFrom_append, ha.ends, ha.eq, hb.eq, String.toList_append]
  · rw [String.toList_append, endsAtStart_append, ha.ends, hb.ends]

theorem empty : Reindents unit atStart "" "" atStart :=
  ⟨rfl, rfl⟩

/-- Alike parts in a row. -/
theorem join {ι : Type} {f g : ι → String} {xs : List ι}
    (h : ∀ x ∈ xs, Reindents unit atStart (f x) (g x) atStart) :
    Reindents unit atStart (String.join (xs.map f)) (String.join (xs.map g)) atStart := by
  induction xs with
  | nil => exact .empty
  | cons x xs ih =>
    obtain ⟨hx, hxs⟩ := List.forall_mem_cons.mp h
    rw [List.map_cons, List.map_cons, String.join_cons, String.join_cons]
    exact hx.append (ih hxs)

/-- At the start of a line, a tab becomes the unit. -/
theorem tab : Reindents unit true "\t" unit true :=
  ⟨by simp [reindentFrom], rfl⟩

/-- So does one tab for each level. -/
theorem indentation (depth : Nat) :
    Reindents unit true (Template.Fragment.indentation depth "\t")
      (Template.Fragment.indentation depth unit) true := by
  induction depth with
  | zero => exact .empty
  | succ depth ih =>
    rw [Template.Fragment.indentation_succ, Template.Fragment.indentation_succ]
    exact tab.append ih

/-- A text without tabs that ends in a line after its indentation. -/
theorem inner (h : '\t' ∉ a.toList ∧ ∀ atStart, endsAtStart atStart a.toList = false) :
    Reindents unit atStart a a false :=
  ⟨reindentFrom_of_not_mem h.1 atStart, h.2 atStart⟩

/-- A text without tabs that ends with a line. -/
theorem ending (h : '\t' ∉ a.toList ∧ ∀ atStart, endsAtStart atStart a.toList = true) :
    Reindents unit atStart a a true :=
  ⟨reindentFrom_of_not_mem h.1 atStart, h.2 atStart⟩

/-- A text without line breaks, after the indentation of a line. -/
theorem unbroken (h : Unbroken a) : Reindents unit false a a false :=
  ⟨(reindentFrom_false_of_not_mem _ h).1, (reindentFrom_false_of_not_mem unit.toList h).2⟩

/-- A text without tabs and line breaks, anywhere. -/
theorem word (hne : a ≠ "") (htab : '\t' ∉ a.toList) (hbreak : Unbroken a) :
    Reindents unit atStart a a false := by
  refine .inner ⟨htab, fun atStart => ?_⟩
  cases hchars : a.toList with
  | nil => exact absurd (String.toList_eq_nil_iff.mp hchars) hne
  | cons c s =>
    rw [Unbroken, hchars, List.mem_cons, not_or] at hbreak
    rw [hchars, List.mem_cons, not_or] at htab
    -- The first character ends the indentation, and no other one begins a line.
    have hfirst : (c == '\n' || atStart && c == '\t') = false := by
      simp [Ne.symm hbreak.1, Ne.symm htab.1]
    rw [endsAtStart, hfirst]
    exact (reindentFrom_false_of_not_mem unit.toList hbreak.2).2

end Reindents

end DataMethods.Text
