import DataMethods.Proofs.TypeName.Faults

/-!
# The raw names in a text

A text is taken apart from left to right, whether it is a type or has a fault somewhere. The raw
names that are read before the fault are stretches of the text: they stand in it in the order in
which they are read, and none overlaps another. Each of them, taken by itself, is read as a raw name
again.

## Key results

- `InOrder.append`, `InOrder.between`: stretches of the parts are stretches of the whole
- `spelled_read`: the raw names of any text stand in it, from left to right
-/

namespace DataMethods.TypeName

open Text

/-! ## Stretches of a text -/

/-- The parts stand in the text one behind the other. There may be anything between them. -/
inductive InOrder : List (List Char) → List Char → Prop where
  | nil (s : List Char) : InOrder [] s
  | cons (before part : List Char) {parts : List (List Char)} {after : List Char} :
      InOrder parts after → InOrder (part :: parts) (before ++ part ++ after)

namespace InOrder

variable {ps qs : List (List Char)} {a b : List Char}

theorem append_left (before : List Char) (h : InOrder ps a) : InOrder ps (before ++ a) := by
  cases h with
  | nil => exact .nil _
  | cons between part hrest =>
    have hwhole := InOrder.cons (before ++ between) part hrest
    rwa [List.append_assoc before, List.append_assoc before] at hwhole

/-- What stands in the second of two texts stands behind what stands in the first. -/
theorem append (ha : InOrder ps a) (hb : InOrder qs b) : InOrder (ps ++ qs) (a ++ b) := by
  induction ha with
  | nil a => exact hb.append_left a
  | cons before part _ ih =>
    rw [List.append_assoc]
    exact .cons before part ih

theorem between (h : InOrder ps a) (before after : List Char) :
    InOrder ps (before ++ a ++ after) := by
  have hwhole := (h.append_left before).append (.nil after)
  rwa [List.append_nil] at hwhole

theorem singleton (s : List Char) : InOrder [s] s := by
  have hwhole := InOrder.cons [] s (.nil [])
  rwa [List.nil_append, List.append_nil] at hwhole

end InOrder

/-! ## Raw names -/

/-- The text is read as a raw name: there is no white space at its ends, and nothing in it counts as
    a bracket, a dimension or a wildcard. -/
structure IsRawText (s : List Char) : Prop extends NoMark s where
  not_open : '<' ∉ s
  trimmed : trim s = s

theorem IsRawText.read_eq {s : List Char} (h : IsRawText s) :
    read (trim s) = Reading.name (String.ofList s) := by
  rw [h.trimmed]
  exact h.read_raw h.not_open

/-- The raw name that a piece is, if it is one. -/
def Piece.raw? : Piece → Option String
  | .name raw => some raw
  | .mark _ => none

namespace Reading

/-- The raw names that were read, from left to right. -/
def names (r : Reading) : List String :=
  r.pieces.filterMap Piece.raw?

/-- A reading that goes on after another has the names of both, unless the first has a fault. -/
theorem names_andThen (a b : Reading) :
    (a.andThen b).names = if a.fault = none then a.names ++ b.names else a.names := by
  simp only [andThen, names]
  cases a.fault with
  | none => simp
  | some fault => simp

/-- The names of the reading stand in the text, and each of them is a raw name by itself. -/
structure Spelled (r : Reading) (s : List Char) : Prop where
  inOrder : InOrder (r.names.map String.toList) s
  raw : ∀ name ∈ r.names, IsRawText name.toList

namespace Spelled

variable {a b : Reading} {s s' : List Char}

theorem of_names_nil (h : a.names = []) : Spelled a s := by
  constructor
  · rw [h]
    exact .nil s
  · simp [h]

theorem mark (text : String) (s : List Char) : Spelled (.mark text) s :=
  of_names_nil rfl

theorem stop (fault : MalformedType) (s : List Char) : Spelled (.stop fault) s :=
  of_names_nil rfl

theorem name (h : IsRawText s) : Spelled (.name (String.ofList s)) s := by
  have hnames : (Reading.name (String.ofList s)).names = [String.ofList s] := rfl
  constructor
  · rw [hnames, List.map_singleton, String.toList_ofList]
    exact .singleton s
  · intro raw hraw
    rw [hnames, List.mem_singleton] at hraw
    rwa [hraw, String.toList_ofList]

theorem between (h : Spelled a s) (before after : List Char) :
    Spelled a (before ++ s ++ after) :=
  ⟨h.inOrder.between before after, h.raw⟩

theorem append_right (h : Spelled a s) (after : List Char) : Spelled a (s ++ after) :=
  h.between [] after

theorem of_trim (h : Spelled a (trim s)) : Spelled a s := by
  obtain ⟨before, after, -, -, hs⟩ := exists_eq_append_trim_append s
  rw [hs]
  exact h.between before after

theorem of_trimRight (h : Spelled a (trimRight s)) : Spelled a s := by
  obtain ⟨after, -, hs⟩ := exists_eq_trimRight_append s
  rw [hs]
  exact h.append_right after

theorem andThen (ha : Spelled a s) (hb : Spelled b s') : Spelled (a.andThen b) (s ++ s') := by
  have hnames := names_andThen a b
  by_cases hfault : a.fault = none
  · rw [if_pos hfault] at hnames
    constructor
    · rw [hnames, List.map_append]
      exact ha.inOrder.append hb.inOrder
    · rw [hnames, List.forall_mem_append]
      exact ⟨ha.raw, hb.raw⟩
  · -- Nothing is read beyond the fault.
    rw [if_neg hfault] at hnames
    have hfirst := ha.append_right s'
    constructor
    · rw [hnames]
      exact hfirst.inOrder
    · rw [hnames]
      exact hfirst.raw

/-- If the parts of a row are read as names that stand in them, so is the row. -/
theorem separatedBy (text : String) {read : List Char → Reading} {parts : List (List Char)}
    (h : ∀ part ∈ parts, Spelled (read part) part) :
    Spelled (.separatedBy text (parts.map read)) ([','].intercalate parts) := by
  induction parts with
  | nil => exact of_names_nil rfl
  | cons part parts ih =>
    have hpart : Spelled (read part) part := h part List.mem_cons_self
    have hrest := ih fun p hp => h p (List.mem_cons_of_mem part hp)
    cases parts with
    | nil =>
      rw [List.intercalate_singleton]
      exact hpart
    | cons next parts =>
      have hcomma := (mark text [',']).andThen hrest
      have hmore : (next :: parts).map read ≠ [] := by simp
      rw [List.intercalate_cons_cons, List.append_assoc, List.map_cons,
        separatedBy_cons text _ hmore]
      exact hpart.andThen hcomma

end Spelled

end Reading

open Reading

/-! ## The names in a text -/

/-- The names in the arguments of a generic type stand in its row. -/
theorem spelled_readArguments {row : List Char}
    (h : ∀ args, arguments row = .ok args → ∀ a ∈ args, Spelled (read a) a) :
    Spelled (readArguments row) row := by
  rw [readArguments]
  cases hargs : arguments row with
  | error fault => exact .stop fault row
  | ok args =>
    obtain ⟨-, -, rfl⟩ := arguments_eq_ok_iff.mp hargs
    -- The commas of the row join the parts as they stand in it, with the white space around them.
    have hparts : ∀ part ∈ cutAtCommas 0 row, Spelled (read (trim part)) part :=
      fun part hpart => .of_trim (h _ hargs _ (List.mem_map_of_mem hpart))
    have hrow := Spelled.separatedBy ", " hparts
    rw [intercalate_cutAtCommas] at hrow
    have hwhole := hrow.andThen (.mark ">" [])
    rw [List.append_nil] at hwhole
    simpa only [partsOf, List.map_map, Function.comp_def] using hwhole

/-- The raw names of any trimmed text, up to its fault if it has one, stand in it from left to
    right. -/
theorem spelled_read {s : List Char} (hs : trim s = s) : Spelled (read s) s := by
  -- By induction on how the text is taken apart. All that is read further is trimmed first.
  induction s using read_induction with
  | bounded b rest ih =>
    rw [read_lead]
    exact (Spelled.mark b.lead _).andThen (ih (trim_trim rest)).of_trim
  | wildcard =>
    rw [read_wildcard]
    exact .mark "?" _
  | dimension rest d hw ih =>
    have hleft : trimLeft rest = rest := trimLeft_of_append (trimLeft_of_trim hs)
    have hrest : trim (trimRight rest) = trimRight rest := by
      rw [trim, trimLeft_trimRight hleft, trimRight_trimRight]
    rw [hw.read_dimension]
    exact (ih hrest).of_trimRight.andThen (.mark d.text _)
  | raw s hm hopen =>
    rw [hm.read_raw hopen]
    exact .name ⟨hm, hopen, hs⟩
  | unclosed head rest hm hhead hc =>
    rw [hm.read_unclosed hhead hc]
    exact .stop _ _
  | generic head row hm hhead ihHead ihArguments =>
    have hrow : Spelled (readArguments row) row := by
      refine spelled_readArguments fun args hargs a ha => ihArguments args hargs a ha ?_
      obtain ⟨-, -, rfl⟩ := arguments_eq_ok_iff.mp hargs
      obtain ⟨part, -, rfl⟩ := List.mem_map.mp ha
      exact trim_trim part
    have hhead' : Spelled (read (trim head)) head := (ihHead (trim_trim head)).of_trim
    rw [hm.read_generic hhead]
    exact hhead'.andThen ((Spelled.mark "<" ['<']).andThen (hrow.append_right ['>']))

end DataMethods.TypeName
