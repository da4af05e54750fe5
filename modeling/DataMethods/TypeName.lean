import DataMethods.Text.Affix
import DataMethods.Text.Blank

/-!
# Reading type names

The text of a type is a raw name, a generic type with its arguments, an array or a variable-length
argument of a type, or a wildcard with or without a bound. `TypeName.read` takes the text apart into
its raw names, in order, and the marks that are printed between them. A text that is no type is read
up to the fault. Reading looks at the text alone; what a raw name is printed as is decided later
(`DataMethods.ImportTable`).
-/

namespace DataMethods

/-- Why a text is no type. -/
inductive MalformedType where
  /-- A generic type that does not end in a closing bracket. -/
  | unclosed (name : String)
  /-- A list of type arguments in which one is blank or the brackets do not balance. -/
  | arguments (text : String)
deriving Repr, DecidableEq

namespace MalformedType

/-- The message for a fault. -/
def message : MalformedType → String
  | .unclosed name => "Malformed generic type name '" ++ name ++ "'."
  | .arguments text => "Malformed generic type arguments '" ++ text ++ "'."

end MalformedType

namespace TypeName

/-- A piece of a type: a raw name, or a mark that is printed as it is. -/
inductive Piece where
  | name (raw : String)
  | mark (text : String)
deriving Repr, DecidableEq

/-- What a text was read as: the pieces up to the fault, if there is one. -/
structure Reading where
  /-- The pieces, from left to right. -/
  pieces : List Piece
  /-- Why the text could not be read to its end. -/
  fault : Option MalformedType
deriving Repr, DecidableEq

namespace Reading

/-- The reading of nothing. -/
def empty : Reading := ⟨[], none⟩

/-- A single mark. -/
def mark (text : String) : Reading := ⟨[.mark text], none⟩

/-- A single raw name. -/
def name (raw : String) : Reading := ⟨[.name raw], none⟩

/-- A fault before any piece. -/
def stop (fault : MalformedType) : Reading := ⟨[], some fault⟩

/-- One reading after the other; nothing is read beyond a fault. -/
def andThen (a b : Reading) : Reading :=
  match a.fault with
  | some _ => a
  | none => ⟨a.pieces ++ b.pieces, b.fault⟩

/-- Readings one after the other, with a mark between any two. -/
def separatedBy (text : String) : List Reading → Reading
  | [] => empty
  | [r] => r
  | r :: rs => r.andThen ((mark text).andThen (separatedBy text rs))

end Reading

/-- What a bracket adds to the nesting. -/
def nesting (c : Char) : Int :=
  if c = '<' then 1 else if c = '>' then -1 else 0

/-- The brackets opened less the brackets closed. -/
def totalNesting (s : List Char) : Int :=
  s.foldr (nesting · + ·) 0

/-- Cuts a text at the commas outside brackets, where `depth` brackets are open before it. Closing
brackets count even if none is open. -/
def cutAtCommas (depth : Int) : List Char → List (List Char)
  | [] => [[]]
  | c :: s =>
    if c = ',' ∧ depth = 0 then [] :: cutAtCommas depth s
    else (cutAtCommas (depth + nesting c) s).modifyHead (c :: ·)

/-- The type arguments in the text between the brackets of a generic type. -/
def arguments (text : List Char) : Except MalformedType (List (List Char)) :=
  let parts := (cutAtCommas 0 text).map Text.trim
  if totalNesting text ≠ 0 ∨ [] ∈ parts then .error (.arguments (String.ofList text))
  else .ok parts

/-- The beginnings of a wildcard with a bound. -/
def wildcards : List String := ["? extends ", "? super "]

/-- The ends of an array type and of a variable-length argument. -/
def dimensions : List String := ["[]", "..."]

/-- Takes the first of the given beginnings off a text. -/
def stripWildcard? (s : List Char) : Option (String × List Char) :=
  wildcards.findSome? fun lead => (Text.stripStart? lead.toList s).map (lead, ·)

/-- Takes the first of the given ends off a text. -/
def stripDimension? (s : List Char) : Option (String × List Char) :=
  dimensions.findSome? fun tail => (Text.stripEnd? tail.toList s).map (tail, ·)

theorem length_of_mem_cutAtCommas {depth : Int} {s p : List Char} (h : p ∈ cutAtCommas depth s) :
    p.length ≤ s.length := by
  induction s generalizing depth p with
  | nil => simp_all [cutAtCommas]
  | cons c s ih =>
    unfold cutAtCommas at h
    split at h
    · rcases List.mem_cons.1 h with rfl | h
      · simp
      · exact Nat.le_succ_of_le (ih h)
    · cases hc : cutAtCommas (depth + nesting c) s with
      | nil => simp [hc] at h
      | cons q qs =>
        rw [hc, List.modifyHead_cons] at h
        rcases List.mem_cons.1 h with rfl | h
        · simpa using ih (hc ▸ List.mem_cons_self)
        · exact Nat.le_succ_of_le (ih (hc ▸ List.mem_cons_of_mem q h))

theorem length_of_mem_arguments {text p : List Char} {ps : List (List Char)}
    (h : arguments text = .ok ps) (hp : p ∈ ps) : p.length ≤ text.length := by
  simp only [arguments] at h
  split at h
  · cases h
  · cases h
    obtain ⟨q, hq, rfl⟩ := List.mem_map.1 hp
    exact Nat.le_trans (Text.length_trim_le q) (length_of_mem_cutAtCommas hq)

theorem length_of_stripWildcard? {s rest : List Char} {lead : String}
    (h : stripWildcard? s = some (lead, rest)) : rest.length < s.length := by
  obtain ⟨l, hl, h⟩ := List.exists_of_findSome?_eq_some h
  obtain ⟨r, hr, h⟩ := Option.map_eq_some_iff.1 h
  cases h
  rw [Text.stripStart?_eq_some_iff] at hr
  subst hr
  simp only [wildcards, List.mem_cons, List.not_mem_nil, or_false] at hl
  rcases hl with rfl | rfl <;> simp <;> omega

theorem length_of_stripDimension? {s rest : List Char} {tail : String}
    (h : stripDimension? s = some (tail, rest)) : rest.length < s.length := by
  obtain ⟨l, hl, h⟩ := List.exists_of_findSome?_eq_some h
  obtain ⟨r, hr, h⟩ := Option.map_eq_some_iff.1 h
  cases h
  rw [Text.stripEnd?_eq_some_iff] at hr
  subst hr
  simp only [dimensions, List.mem_cons, List.not_mem_nil, or_false] at hl
  rcases hl with rfl | rfl <;> simp

/-- Cuts a text at its first opening bracket, which is dropped. -/
def splitGeneric? (s : List Char) : Option (List Char × List Char) :=
  match s.dropWhile (· ≠ '<') with
  | [] => none
  | _ :: rest => some (s.takeWhile (· ≠ '<'), rest)

theorem length_of_splitGeneric? {s head rest : List Char}
    (h : splitGeneric? s = some (head, rest)) : s.length = head.length + rest.length + 1 := by
  unfold splitGeneric? at h
  split at h
  · cases h
  · next b r hr =>
    cases h
    have := congrArg List.length (List.takeWhile_append_dropWhile (p := (· ≠ '<')) (l := s))
    rw [hr] at this
    simpa [Nat.add_assoc] using this.symm

/-- Reads a text without white space at its ends. A wildcard with a bound is recognised first, then
the bare wildcard, the two kinds of dimension, and the generic type. Whatever is left is a raw
name. -/
def read (s : List Char) : Reading :=
  match hw : stripWildcard? s with
  | some (lead, rest) =>
    have := length_of_stripWildcard? hw
    have := Text.length_trim_le rest
    (Reading.mark lead).andThen (read (Text.trim rest))
  | none =>
    if s = ['?'] then Reading.mark "?"
    else match hd : stripDimension? s with
    | some (tail, rest) =>
      have := length_of_stripDimension? hd
      have := Text.length_trimRight_le rest
      (read (Text.trimRight rest)).andThen (Reading.mark tail)
    | none =>
      match hg : splitGeneric? s with
      | none => Reading.name (String.ofList s)
      | some (head, rest) =>
        have := length_of_splitGeneric? hg
        match hr : Text.stripEnd? ['>'] rest with
        | none => Reading.stop (.unclosed (String.ofList s))
        | some inside =>
          have : rest.length = inside.length + 1 := by
            simpa using congrArg List.length (Text.stripEnd?_eq_some_iff.1 hr)
          have := Text.length_trim_le head
          (read (Text.trim head)).andThen <| (Reading.mark "<").andThen <|
            match ha : arguments inside with
            | .error fault => Reading.stop fault
            | .ok args =>
              (Reading.separatedBy ", " (args.attach.map fun ⟨a, hm⟩ =>
                have := length_of_mem_arguments ha hm
                read a)).andThen (Reading.mark ">")
termination_by s.length
decreasing_by all_goals omega

/-! ## One equation for each form of a type -/

@[simp] theorem read_wildcard : read ['?'] = Reading.mark "?" := by
  rw [read]
  rfl

theorem read_of_stripWildcard? {s rest : List Char} {lead : String}
    (h : stripWildcard? s = some (lead, rest)) :
    read s = (Reading.mark lead).andThen (read (Text.trim rest)) := by
  rw [read]
  split
  · next h' => rw [h] at h'; cases h'; rfl
  · next h' => rw [h] at h'; cases h'

theorem read_of_stripDimension? {s rest : List Char} {tail : String}
    (hw : stripWildcard? s = none) (hq : s ≠ ['?']) (h : stripDimension? s = some (tail, rest)) :
    read s = (read (Text.trimRight rest)).andThen (Reading.mark tail) := by
  rw [read]
  split
  · next h' => rw [hw] at h'; cases h'
  · rw [if_neg hq]
    split
    · next h' => rw [h] at h'; cases h'; rfl
    · next h' => rw [h] at h'; cases h'

/-- What is left is a raw name. -/
theorem read_of_splitGeneric?_none {s : List Char}
    (hw : stripWildcard? s = none) (hq : s ≠ ['?']) (hd : stripDimension? s = none)
    (hg : splitGeneric? s = none) : read s = Reading.name (String.ofList s) := by
  rw [read]
  split
  · next h' => rw [hw] at h'; cases h'
  · rw [if_neg hq]
    split
    · next h' => rw [hd] at h'; cases h'
    · split
      · rfl
      · next h' => rw [hg] at h'; cases h'

/-- The reading of the text between the brackets of a generic type, and of the closing one. -/
def readArguments (inside : List Char) : Reading :=
  match arguments inside with
  | .error fault => Reading.stop fault
  | .ok args => (Reading.separatedBy ", " (args.map read)).andThen (Reading.mark ">")

theorem read_of_splitGeneric? {s head rest inside : List Char}
    (hw : stripWildcard? s = none) (hq : s ≠ ['?']) (hd : stripDimension? s = none)
    (hg : splitGeneric? s = some (head, rest)) (hc : Text.stripEnd? ['>'] rest = some inside) :
    read s =
      (read (Text.trim head)).andThen ((Reading.mark "<").andThen (readArguments inside)) := by
  rw [read]
  split
  · next h' => rw [hw] at h'; cases h'
  · rw [if_neg hq]
    split
    · next h' => rw [hd] at h'; cases h'
    · split
      · next h' => rw [hg] at h'; cases h'
      · next h' =>
        rw [hg] at h'; cases h'
        split
        · next h' => rw [hc] at h'; cases h'
        · next h' =>
          rw [hc] at h'; cases h'
          simp only [readArguments]
          split
          · next h => simp [h]
          · next h => simp [h]

theorem read_of_unclosed {s head rest : List Char}
    (hw : stripWildcard? s = none) (hq : s ≠ ['?']) (hd : stripDimension? s = none)
    (hg : splitGeneric? s = some (head, rest)) (hc : Text.stripEnd? ['>'] rest = none) :
    read s = Reading.stop (.unclosed (String.ofList s)) := by
  rw [read]
  split
  · next h' => rw [hw] at h'; cases h'
  · rw [if_neg hq]
    split
    · next h' => rw [hd] at h'; cases h'
    · split
      · next h' => rw [hg] at h'; cases h'
      · next h' =>
        rw [hg] at h'; cases h'
        split
        · rfl
        · next h' => rw [hc] at h'; cases h'

end TypeName

end DataMethods
