import DataMethods.Proofs.TypeName.Cut

/-!
# Type expressions

A type is a raw name, a generic application of one to arguments, or another type with a dimension.
An argument is a type, or a wildcard with or without a bound. A text `Writes` such an expression if
it spells it out with any white space where there may be some: before a dimension, around brackets
and commas, and behind the word that introduces a bound. All texts that write an expression are read
alike, as the pieces of its canonical spelling, which has one space behind a comma and no other
white space than that in the words of wildcards.

## Key results

- `Writes.uncut`, `Writes.solid`: a written type or argument is cut nowhere and has solid ends
- `read_of_writes`: a text that writes a type is read as the pieces of the type
-/

namespace DataMethods.TypeName

open Text

/-! ## Syntax -/

/-- The characters beside white space that no segment of a raw name holds. -/
def reserved : List Char := ['.', '<', '>', ',', '[', ']', '?']

/-- Is this one of the characters that the segments of a raw name consist of? -/
def isPlain (c : Char) : Bool :=
  !isBlank c && !reserved.contains c

/-- Non-empty segments with dots between them. -/
structure RawName where
  text : String
  segments_plain : ∀ seg ∈ segments '.' text.toList, seg ≠ [] ∧ seg.all isPlain = true
deriving DecidableEq

/-- What may follow a type: it makes an array of it, or an argument of variable length. -/
inductive Dimension where
  | array
  | variableLength
deriving Repr, DecidableEq

/-- The text of a dimension. -/
def Dimension.text : Dimension → String
  | .array => "[]"
  | .variableLength => "..."

/-- What the bound of a wildcard says: the type extends the bound, or is extended by it. -/
inductive Bound where
  | upper
  | lower
deriving Repr, DecidableEq

/-- What stands before the bound. -/
def Bound.lead : Bound → String
  | .upper => "? extends "
  | .lower => "? super "

/-- The kinds of expressions: types, arguments of generic types, and rows of these, never empty. -/
inductive Category where
  | type
  | argument
  | arguments
deriving Repr, DecidableEq

/-- The expressions of each kind. -/
inductive Expr : Category → Type where
  | raw (name : RawName) : Expr .type
  | generic (name : RawName) (row : Expr .arguments) : Expr .type
  | dimension (of : Expr .type) (d : Dimension) : Expr .type
  | wildcard : Expr .argument
  | bounded (b : Bound) (of : Expr .type) : Expr .argument
  | plain (type : Expr .type) : Expr .argument
  | last (a : Expr .argument) : Expr .arguments
  | more (a : Expr .argument) (row : Expr .arguments) : Expr .arguments

/-- The text writes the expression. White space may be anything, or nothing. -/
inductive Writes : {c : Category} → Expr c → List Char → Prop where
  | raw (name : RawName) : Writes (.raw name) name.text.toList
  | generic (name : RawName) {row : Expr .arguments} {blanks inside : List Char} :
      AllBlank blanks → Writes row inside →
      Writes (.generic name row) (name.text.toList ++ blanks ++ ('<' :: inside ++ ['>']))
  | dimension (d : Dimension) {of : Expr .type} {s blanks : List Char} :
      Writes of s → AllBlank blanks → Writes (.dimension of d) (s ++ blanks ++ d.text.toList)
  | wildcard : Writes .wildcard ['?']
  | bounded (b : Bound) {of : Expr .type} {blanks s : List Char} :
      AllBlank blanks → Writes of s → Writes (.bounded b of) (b.lead.toList ++ blanks ++ s)
  | plain {type : Expr .type} {s : List Char} : Writes type s → Writes (.plain type) s
  | last {a : Expr .argument} {before s after : List Char} :
      AllBlank before → Writes a s → AllBlank after → Writes (.last a) (before ++ s ++ after)
  | more {a : Expr .argument} {row : Expr .arguments} {before s after rest : List Char} :
      AllBlank before → Writes a s → AllBlank after → Writes row rest →
      Writes (.more a row) (before ++ s ++ after ++ ',' :: rest)

/-- The pieces of the canonical spelling. -/
def Expr.pieces : {c : Category} → Expr c → List Piece
  | _, .raw name => [.name name.text]
  | _, .generic name row => .name name.text :: .mark "<" :: (row.pieces ++ [.mark ">"])
  | _, .dimension of d => of.pieces ++ [.mark d.text]
  | _, .wildcard => [.mark "?"]
  | _, .bounded b of => .mark b.lead :: of.pieces
  | _, .plain type => type.pieces
  | _, .last a => a.pieces
  | _, .more a row => a.pieces ++ .mark ", " :: row.pieces

/-! ## Raw names -/

theorem isBlank_of_isPlain {c : Char} (h : isPlain c = true) : isBlank c = false := by
  simp only [isPlain, Bool.and_eq_true, Bool.not_eq_true'] at h
  exact h.1

theorem ne_of_isPlain {c d : Char} (h : isPlain c = true)
    (hd : reserved.contains d = true) : c ≠ d := by
  rintro rfl
  simp only [isPlain, hd, Bool.not_true, Bool.and_false] at h
  contradiction

/-- The text begins and ends with characters of segments. In between there may be dots as well. -/
structure IsRaw (s : List Char) : Prop where
  first : ∃ c r, s = c :: r ∧ isPlain c = true
  last : ∃ r c, s = r ++ [c] ∧ isPlain c = true
  all : ∀ c ∈ s, c = '.' ∨ isPlain c = true

namespace IsRaw

theorem segment {seg : List Char} (hne : seg ≠ []) (hplain : seg.all isPlain = true) :
    IsRaw seg := by
  rw [List.all_eq_true] at hplain
  refine ⟨?_, ?_, fun c hc => .inr (hplain c hc)⟩
  · obtain ⟨c, r, rfl⟩ := List.exists_cons_of_ne_nil hne
    exact ⟨c, r, rfl, hplain c List.mem_cons_self⟩
  · obtain hnil | ⟨r, c, rfl⟩ := List.eq_nil_or_concat seg
    · exact absurd hnil hne
    · exact ⟨r, c, List.concat_eq_append, hplain c (by simp)⟩

theorem dot {a b : List Char} (ha : IsRaw a) (hb : IsRaw b) : IsRaw (a ++ ['.'] ++ b) := by
  refine ⟨?_, ?_, ?_⟩
  · obtain ⟨c, r, rfl, hc⟩ := ha.first
    exact ⟨c, _, rfl, hc⟩
  · obtain ⟨r, c, rfl, hc⟩ := hb.last
    exact ⟨a ++ ['.'] ++ r, c, by simp, hc⟩
  · intro c hc
    simp only [List.mem_append, List.mem_singleton] at hc
    rcases hc with (hc | hc) | hc
    · exact ha.all c hc
    · exact .inl hc
    · exact hb.all c hc

theorem intercalate {segs : List (List Char)} (hne : segs ≠ [])
    (h : ∀ seg ∈ segs, seg ≠ [] ∧ seg.all isPlain = true) : IsRaw (['.'].intercalate segs) := by
  induction segs with
  | nil => contradiction
  | cons seg segs ih =>
    obtain ⟨hseg, hplain⟩ := h seg List.mem_cons_self
    cases segs with
    | nil =>
      rw [List.intercalate_singleton]
      exact segment hseg hplain
    | cons next segs =>
      have hrest : IsRaw (['.'].intercalate (next :: segs)) :=
        ih (List.cons_ne_nil _ _) fun s hs => h s (List.mem_cons_of_mem _ hs)
      rw [List.intercalate_cons_cons]
      exact (segment hseg hplain).dot hrest

variable {s : List Char}

theorem isBlank_eq_false (h : IsRaw s) {c : Char} (hc : c ∈ s) : isBlank c = false := by
  rcases h.all c hc with rfl | hplain
  · decide
  · exact isBlank_of_isPlain hplain

theorem solid (h : IsRaw s) : Solid s := by
  obtain ⟨c, r, rfl, -⟩ := h.first
  exact .of_forall (List.cons_ne_nil _ _) fun _ => h.isBlank_eq_false

theorem not_mem (h : IsRaw s) {d : Char} (hd : reserved.contains d = true) (hdot : d ≠ '.') :
    d ∉ s := by
  intro hmem
  rcases h.all d hmem with hdot' | hplain
  · exact hdot hdot'
  · exact ne_of_isPlain hplain hd rfl

end IsRaw

theorem RawName.isRaw (name : RawName) : IsRaw name.text.toList := by
  have hraw := IsRaw.intercalate (segments_ne_nil '.' name.text.toList) name.segments_plain
  rwa [intercalate_segments] at hraw

/-! ## Shapes of written expressions -/

section

variable {c : Category} {e : Expr c} {s : List Char}

theorem IsRaw.uncut {least : Int} (h : IsRaw s) : Uncut least s := by
  refine .of_any (List.any_eq_false.mpr fun c hc hsep => ?_)
  simp only [isSeparator, Bool.or_eq_true, beq_iff_eq] at hsep
  rcases hsep with (rfl | rfl) | rfl <;> exact h.not_mem rfl (by decide) hc

/-- How many brackets must be open for an expression not to be cut. A row is cut unless it is in
    brackets. -/
def Category.leastOpen : Category → Int
  | .arguments => 1
  | _ => 0

/-- Commas and brackets of an expression stand in brackets, or separate the arguments of a row. -/
theorem Writes.uncut (h : Writes e s) : Uncut c.leastOpen s := by
  induction h with
  | raw name => exact name.isRaw.uncut
  | generic name hblanks _ ih =>
    exact (name.isRaw.uncut.append (.of_allBlank hblanks)).append ih.brackets
  | dimension d _ hblanks ih =>
    have hd : Uncut 0 d.text.toList := .of_any (by cases d <;> decide)
    exact (ih.append (.of_allBlank hblanks)).append hd
  | wildcard => exact .of_any (by decide)
  | bounded b hblanks _ ih =>
    have hb : Uncut 0 b.lead.toList := .of_any (by cases b <;> decide)
    exact (hb.append (.of_allBlank hblanks)).append ih
  | plain _ ih => exact ih
  | last hbefore _ hafter ih =>
    have ha := ((Uncut.of_allBlank hbefore).append ih).append (.of_allBlank hafter)
    exact ha.mono (by decide)
  | more hbefore _ hafter _ ih ihRow =>
    have ha := ((Uncut.of_allBlank hbefore).append ih).append (.of_allBlank hafter)
    have hcomma : Uncut 1 [','] := .comma (by decide)
    exact (ha.mono (by decide)).append (hcomma.append ihRow)

/-- A written type or argument has no white space at its ends. -/
theorem Writes.solid (h : Writes e s) (hc : c ≠ .arguments) : Solid s := by
  induction h with
  | raw name => exact name.isRaw.solid
  | @generic name _ blanks inside _ _ _ =>
    have hclose : Solid ['>'] := by decide
    have hsplit : name.text.toList ++ blanks ++ ('<' :: inside ++ ['>']) =
        name.text.toList ++ (blanks ++ '<' :: inside) ++ ['>'] := by simp
    rw [hsplit]
    exact name.isRaw.solid.append _ hclose
  | dimension d _ _ ih =>
    have hd : Solid d.text.toList := by cases d <;> decide
    exact (ih (by decide)).append _ hd
  | wildcard => decide
  | bounded b _ _ ih =>
    have hmark : Solid ['?'] := by decide
    have hlead : b.lead.toList = ['?'] ++ b.lead.toList.tail := by cases b <;> rfl
    rw [hlead, List.append_assoc ['?']]
    exact hmark.append _ (ih (by decide))
  | plain _ ih => exact ih (by decide)
  | last => contradiction
  | more => contradiction

/-- A written type begins with a raw name. -/
theorem Writes.exists_cons (h : Writes e s) (hc : c = .type) :
    ∃ first r, s = first :: r ∧ isPlain first = true := by
  induction h with
  | raw name => exact name.isRaw.first
  | generic name _ _ _ =>
    obtain ⟨first, r, hfirst, hplain⟩ := name.isRaw.first
    rw [hfirst]
    exact ⟨first, _, rfl, hplain⟩
  | dimension _ _ _ ih =>
    obtain ⟨first, r, rfl, hplain⟩ := ih rfl
    exact ⟨first, _, rfl, hplain⟩
  | wildcard => contradiction
  | bounded => contradiction
  | plain => contradiction
  | last => contradiction
  | more => contradiction

end

/-! ## Recognising a form -/

theorem stripWildcard?_cons {c : Char} {s : List Char} (h : c ≠ '?') :
    stripWildcard? (c :: s) = none := by
  simp [stripWildcard?, wildcards, stripStart?, Ne.symm h]

theorem stripWildcard?_lead (b : Bound) (s : List Char) :
    stripWildcard? (b.lead.toList ++ s) = some (b.lead, s) := by
  cases b <;> simp [stripWildcard?, wildcards, stripStart?, Bound.lead]

theorem stripDimension?_concat {c : Char} {s : List Char} (hclose : c ≠ ']') (hdot : c ≠ '.') :
    stripDimension? (s ++ [c]) = none := by
  simp [stripDimension?, dimensions, stripEnd?, stripStart?, Ne.symm hclose, Ne.symm hdot]

theorem stripDimension?_text (d : Dimension) (s : List Char) :
    stripDimension? (s ++ d.text.toList) = some (d.text, s) := by
  cases d <;> simp [stripDimension?, dimensions, stripEnd?, stripStart?, Dimension.text]

theorem forall_ne_open {s : List Char} (h : '<' ∉ s) : ∀ c ∈ s, decide (c ≠ '<') = true := by
  intro c hc
  have hne : c ≠ '<' := fun heq => h (heq ▸ hc)
  exact decide_eq_true hne

/-- A text is cut at its first opening bracket. -/
theorem splitGeneric?_append {head : List Char} (h : '<' ∉ head) (rest : List Char) :
    splitGeneric? (head ++ '<' :: rest) = some (head, rest) := by
  have hhead := forall_ne_open h
  rw [splitGeneric?, List.dropWhile_append_of_pos hhead, List.takeWhile_append_of_pos hhead]
  simp

theorem splitGeneric?_of_not_mem {s : List Char} (h : '<' ∉ s) : splitGeneric? s = none := by
  have hdrop : (s ++ []).dropWhile (· ≠ '<') = [] := by
    rw [List.dropWhile_append_of_pos (forall_ne_open h)]
    rfl
  rw [List.append_nil] at hdrop
  rw [splitGeneric?, hdrop]

/-! ## Reading -/

theorem Reading.separatedBy_cons (text : String) (r : Reading) {rs : List Reading} (h : rs ≠ []) :
    Reading.separatedBy text (r :: rs) =
      r.andThen ((Reading.mark text).andThen (Reading.separatedBy text rs)) := by
  obtain ⟨r', rs, rfl⟩ := List.exists_cons_of_ne_nil h
  rfl

/-- The parts of a row, without the white space around them. -/
def partsOf (s : List Char) : List (List Char) :=
  (cutAtCommas 0 s).map trim

/-- The text is read as the pieces. Of a row, which is no text by itself, the parts are. -/
def ReadsAs : Category → List Char → List Piece → Prop
  | .arguments, s, ps =>
    [] ∉ partsOf s ∧ Reading.separatedBy ", " ((partsOf s).map read) = ⟨ps, none⟩
  | _, s, ps => read s = ⟨ps, none⟩

theorem read_raw (name : RawName) : read name.text.toList = ⟨[.name name.text], none⟩ := by
  have hraw := name.isRaw
  obtain ⟨first, r, hfirst, hplain⟩ := hraw.first
  have hw : stripWildcard? name.text.toList = none := by
    rw [hfirst]
    exact stripWildcard?_cons (ne_of_isPlain hplain rfl)
  have hq : name.text.toList ≠ ['?'] := by
    intro heq
    exact hraw.not_mem (d := '?') rfl (by decide) (by simp [heq])
  have hd : stripDimension? name.text.toList = none := by
    obtain ⟨r, last, hlast, hplain⟩ := hraw.last
    rw [hlast]
    exact stripDimension?_concat (ne_of_isPlain hplain rfl) (ne_of_isPlain hplain rfl)
  have hopen : '<' ∉ name.text.toList := hraw.not_mem rfl (by decide)
  rw [read_of_splitGeneric?_none hw hq hd (splitGeneric?_of_not_mem hopen),
    String.ofList_toList]
  rfl

/-- A bracketed row whose parts are read is read with its brackets. -/
theorem readArguments_of_readsAs {inside : List Char} {ps : List Piece}
    (hcut : Uncut 1 inside) (h : ReadsAs .arguments inside ps) :
    readArguments inside = ⟨ps ++ [.mark ">"], none⟩ := by
  obtain ⟨hne, hread⟩ := h
  have harguments : arguments inside = .ok (partsOf inside) := by
    have hnot : ¬(totalNesting inside ≠ 0 ∨ [] ∈ partsOf inside) := by
      simp [hcut.total, hne]
    exact if_neg hnot
  rw [readArguments, harguments]
  simp only [hread]
  rfl

/-- A written type is no wildcard. -/
theorem Writes.not_wildcard {e : Expr .type} {s : List Char} (h : Writes e s) :
    stripWildcard? s = none ∧ s ≠ ['?'] := by
  obtain ⟨first, r, rfl, hplain⟩ := h.exists_cons rfl
  have hne : first ≠ '?' := ne_of_isPlain hplain rfl
  exact ⟨stripWildcard?_cons hne, fun heq => hne (List.cons.inj heq).1⟩

/-- A generic type is read as its name and its row. -/
theorem read_generic {name : RawName} {row : Expr .arguments} {blanks inside : List Char}
    (hblanks : AllBlank blanks) (hrow : Writes row inside)
    (hread : ReadsAs .arguments inside row.pieces) :
    read (name.text.toList ++ blanks ++ ('<' :: inside ++ ['>'])) =
      ⟨(Expr.generic name row).pieces, none⟩ := by
  obtain ⟨hw, hq⟩ := (Writes.generic name hblanks hrow).not_wildcard
  have hd : stripDimension? (name.text.toList ++ blanks ++ ('<' :: inside ++ ['>'])) = none := by
    rw [← List.append_assoc]
    exact stripDimension?_concat (by decide) (by decide)
  -- The first opening bracket is the one behind the name.
  have hhead : '<' ∉ name.text.toList ++ blanks := by
    rw [List.mem_append]
    rintro (hname | hblank)
    · exact name.isRaw.not_mem rfl (by decide) hname
    · exact absurd (hblanks _ hblank) (by decide)
  have hg : splitGeneric? (name.text.toList ++ blanks ++ ('<' :: inside ++ ['>'])) =
      some (name.text.toList ++ blanks, inside ++ ['>']) := splitGeneric?_append hhead _
  have hc : stripEnd? ['>'] (inside ++ ['>']) = some inside := stripEnd?_eq_some_iff.mpr rfl
  have htrim : trim (name.text.toList ++ blanks) = name.text.toList :=
    name.isRaw.solid.trim_between (by decide : AllBlank []) hblanks
  rw [read_of_splitGeneric? hw hq hd hg hc, htrim, read_raw,
    readArguments_of_readsAs hrow.uncut hread]
  rfl

/-- A type with a dimension is read as the type and the dimension. -/
theorem read_dimension {d : Dimension} {of : Expr .type} {s blanks : List Char}
    (hof : Writes of s) (hblanks : AllBlank blanks) (hread : read s = ⟨of.pieces, none⟩) :
    read (s ++ blanks ++ d.text.toList) = ⟨(Expr.dimension of d).pieces, none⟩ := by
  obtain ⟨hw, hq⟩ := (Writes.dimension d hof hblanks).not_wildcard
  have htrim : trimRight (s ++ blanks) = s := (hof.solid (by decide)).trimRight_append hblanks
  rw [read_of_stripDimension? hw hq (stripDimension?_text d _), htrim, hread]
  rfl

/-- A wildcard is read as its word and its bound. -/
theorem read_bounded {b : Bound} {of : Expr .type} {blanks s : List Char}
    (hblanks : AllBlank blanks) (hof : Writes of s) (hread : read s = ⟨of.pieces, none⟩) :
    read (b.lead.toList ++ blanks ++ s) = ⟨(Expr.bounded b of).pieces, none⟩ := by
  have hw : stripWildcard? (b.lead.toList ++ blanks ++ s) = some (b.lead, blanks ++ s) := by
    rw [List.append_assoc]
    exact stripWildcard?_lead b _
  have hsolid : Solid s := hof.solid (by decide)
  have htrim : trim (blanks ++ s) = s := trim_append hblanks hsolid.left hsolid.right
  rw [read_of_stripWildcard? hw, htrim, hread]
  rfl

/-! ### Rows -/

section

variable {a : Expr .argument} {before s after : List Char}

/-- White space around a part of a row does not count. -/
theorem trim_part (hbefore : AllBlank before) (ha : Writes a s) (hafter : AllBlank after) :
    trim (before ++ s ++ after) = s :=
  (ha.solid (by decide)).trim_between hbefore hafter

theorem uncut_part (hbefore : AllBlank before) (ha : Writes a s) (hafter : AllBlank after) :
    Uncut 0 (before ++ s ++ after) :=
  ((Uncut.of_allBlank hbefore).append ha.uncut).append (.of_allBlank hafter)

theorem readsAs_last (hbefore : AllBlank before) (ha : Writes a s) (hafter : AllBlank after)
    (hread : read s = ⟨a.pieces, none⟩) :
    ReadsAs .arguments (before ++ s ++ after) (Expr.last a).pieces := by
  have hparts : partsOf (before ++ s ++ after) = [s] := by
    rw [partsOf, (uncut_part hbefore ha hafter).cutAtCommas_eq, List.map_singleton,
      trim_part hbefore ha hafter]
  have hne : s ≠ [] := (ha.solid (by decide)).ne_nil
  rw [ReadsAs, hparts, List.map_singleton, hread]
  exact ⟨by simpa using hne, rfl⟩

theorem readsAs_more {row : Expr .arguments} {rest : List Char} (hbefore : AllBlank before)
    (ha : Writes a s) (hafter : AllBlank after) (hread : read s = ⟨a.pieces, none⟩)
    (hrow : ReadsAs .arguments rest row.pieces) :
    ReadsAs .arguments (before ++ s ++ after ++ ',' :: rest) (Expr.more a row).pieces := by
  obtain ⟨hrest, hreadRest⟩ := hrow
  have hparts : partsOf (before ++ s ++ after ++ ',' :: rest) = s :: partsOf rest := by
    rw [partsOf, (uncut_part hbefore ha hafter).cutAtCommas_row, List.map_cons,
      trim_part hbefore ha hafter, partsOf]
  have hne : s ≠ [] := (ha.solid (by decide)).ne_nil
  have hmore : (partsOf rest).map read ≠ [] := by
    simpa [partsOf] using cutAtCommas_ne_nil 0 rest
  rw [ReadsAs, hparts, List.map_cons, Reading.separatedBy_cons _ _ hmore, hreadRest, hread]
  exact ⟨by simpa using ⟨hne, hrest⟩, rfl⟩

end

/-- Whatever writes an expression is read as its pieces. -/
theorem readsAs_of_writes {c : Category} {e : Expr c} {s : List Char} (h : Writes e s) :
    ReadsAs c s e.pieces := by
  -- By induction on how the text is put together, with one lemma for each way to do so.
  induction h with
  | raw name => exact read_raw name
  | generic _ hblanks hrow ih => exact read_generic hblanks hrow ih
  | dimension _ hof hblanks ih => exact read_dimension hof hblanks ih
  | wildcard => exact read_wildcard
  | bounded _ hblanks hof ih => exact read_bounded hblanks hof ih
  | plain _ ih => exact ih
  | last hbefore ha hafter ih => exact readsAs_last hbefore ha hafter ih
  | more hbefore ha hafter _ ih ihRow => exact readsAs_more hbefore ha hafter ih ihRow

theorem read_of_writes {e : Expr .type} {s : List Char} (h : Writes e s) :
    read s = ⟨e.pieces, none⟩ :=
  readsAs_of_writes h

end DataMethods.TypeName
