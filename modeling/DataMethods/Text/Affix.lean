/-!
# Beginnings, ends and segments of texts

`stripStart?` and `stripEnd?` take a fixed text off the beginning or the end of another one,
`occursIn` looks for one anywhere, and `segments` cuts a text at every occurrence of a character.
Each is pinned down by what the results concatenate to.
-/

namespace DataMethods.Text

/-- What follows `lead` in a text that begins with it. -/
def stripStart? : List Char → List Char → Option (List Char)
  | [], s => some s
  | _ :: _, [] => none
  | l :: lead, c :: s => if l = c then stripStart? lead s else none

/-- What precedes `tail` in a text that ends with it. -/
def stripEnd? (tail s : List Char) : Option (List Char) :=
  (stripStart? tail.reverse s.reverse).map List.reverse

/-- The pieces between the occurrences of `sep`: always one more than there are occurrences. -/
def segments (sep : Char) : List Char → List (List Char)
  | [] => [[]]
  | c :: s => if c = sep then [] :: segments sep s else (segments sep s).modifyHead (c :: ·)

/-- Does `part` occur in the text? -/
def occursIn (part : List Char) : List Char → Bool
  | [] => part.isEmpty
  | c :: s => (stripStart? part (c :: s)).isSome || occursIn part s

theorem stripStart?_eq_some_iff {lead s rest : List Char} :
    stripStart? lead s = some rest ↔ s = lead ++ rest := by
  induction lead generalizing s with
  | nil => simp [stripStart?, eq_comm]
  | cons l lead ih =>
    cases s with
    | nil => simp [stripStart?]
    | cons c s =>
      by_cases h : l = c
      · simp [stripStart?, h, ih]
      · simp [stripStart?, h, Ne.symm h]

theorem stripEnd?_eq_some_iff {tail s rest : List Char} :
    stripEnd? tail s = some rest ↔ s = rest ++ tail := by
  simp only [stripEnd?, Option.map_eq_some_iff, stripStart?_eq_some_iff]
  constructor
  · rintro ⟨a, ha, rfl⟩
    simpa using congrArg List.reverse ha
  · rintro rfl
    exact ⟨rest.reverse, by simp, by simp⟩

theorem segments_ne_nil (sep : Char) (s : List Char) : segments sep s ≠ [] := by
  induction s with
  | nil => simp [segments]
  | cons c s ih =>
    unfold segments
    split
    · simp
    · cases h : segments sep s with
      | nil => exact absurd h ih
      | cons p ps => simp

/-- Joining the segments by the separator gives the text back. -/
theorem intercalate_segments (sep : Char) (s : List Char) :
    [sep].intercalate (segments sep s) = s := by
  induction s with
  | nil => simp [segments, List.intercalate]
  | cons c s ih =>
    unfold segments
    cases h : segments sep s with
    | nil => exact absurd h (segments_ne_nil sep s)
    | cons p ps =>
      rw [h] at ih
      split
      · next hc =>
        subst hc
        simpa [List.intercalate] using ih
      · cases ps with
        | nil => simpa [List.intercalate] using ih
        | cons q qs => simpa [List.intercalate] using ih

theorem occursIn_iff {part s : List Char} :
    occursIn part s = true ↔ ∃ before after, s = before ++ part ++ after := by
  induction s with
  | nil => simp [occursIn]
  | cons c s ih =>
    simp only [occursIn, Bool.or_eq_true, Option.isSome_iff_exists, stripStart?_eq_some_iff, ih]
    constructor
    · rintro (⟨rest, h⟩ | ⟨before, after, rfl⟩)
      · exact ⟨[], rest, by simpa using h⟩
      · exact ⟨c :: before, after, by simp⟩
    · rintro ⟨before, after, h⟩
      cases before with
      | nil => exact .inl ⟨after, by simpa using h⟩
      | cons b before =>
        simp only [List.cons_append, List.cons.injEq] at h
        exact .inr ⟨before, after, h.2⟩

end DataMethods.Text
