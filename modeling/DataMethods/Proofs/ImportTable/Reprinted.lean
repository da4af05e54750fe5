import DataMethods.Proofs.ImportTable.Run
import DataMethods.Proofs.ImportTable.Unnamed
import Mathlib.Data.List.TakeWhile

/-!
# Printing what was printed

What a table prints for a type is the text of a type again: the same expression, with some names in
it cut down to their short forms. A short form is another name than the one it was printed for. With
a nested type in it, it counts as a name without a package, and would claim its first segment if
that were free. But the table prints a short form only for the owner of this segment, and owners
stay. So the text that was printed is printed as it is, and nothing is claimed for it.

## Key results

- `printName_printed`: the printed form of a name is printed as it is in every later state
- `printExpr_eq`: an expression is printed as the text of the one in which its names are replaced
- `printed_text_fixed`: the printed text of a type is printed as it is, and the table stays
-/

namespace DataMethods

open Text

/-! ## Short forms -/

namespace QualifiedName

/-- Segments are split at the outer type, which has nested ones only if it begins in upper case. -/
theorem eq_append_of_splitSegments {segs package nested : List (List Char)} {outer : List Char}
    (hne : segs ≠ []) (h : splitSegments segs = (package, outer, nested)) :
    segs = package ++ outer :: nested ∧ (nested = [] ∨ startsUppercase outer = true) := by
  cases hany : segs.any startsUppercase with
  | true =>
    obtain ⟨package', outer', nested', hsplit, hsegs, hupper, -⟩ := splitSegments_of_any hany
    obtain ⟨rfl, rfl, rfl⟩ : package' = package ∧ outer' = outer ∧ nested' = nested := by
      simpa using hsplit.symm.trans h
    exact ⟨hsegs, .inr hupper⟩
  | false =>
    -- No segment is passed over, so the outer type is the last one.
    have hdrop : segs.dropWhile (!startsUppercase ·) = [] := by
      rw [List.dropWhile_eq_nil_iff]
      simpa using hany
    unfold splitSegments at h
    rw [hdrop] at h
    cases h
    rw [List.getLast?_eq_some_getLast hne, Option.getD_some]
    exact ⟨(List.dropLast_append_getLast hne).symm, .inl rfl⟩

/-- A qualified name is a row of segments that ends in the outer type and what is nested in it. -/
theorem segments_of_ofRaw? {raw : String} {q : QualifiedName} (h : ofRaw? raw = some q) :
    ∃ package outer nested, segments '.' raw.toList = package ++ outer :: nested ∧ outer ≠ [] ∧
      (nested = [] ∨ startsUppercase outer = true) ∧
      q = ⟨⟨dotted package, String.ofList outer⟩, nested.map String.ofList⟩ := by
  unfold ofRaw? at h
  split at h
  · contradiction
  · split at h
    · contradiction
    · next package outer nested hne hsplit =>
      cases h
      obtain ⟨hsegs, hupper⟩ := eq_append_of_splitSegments (segments_ne_nil _ _) hsplit
      exact ⟨package, outer, nested, hsegs, hne, hupper, rfl⟩

/-- A short form with nothing nested in it is not qualified. Any other counts as a name without a
    package, of which it is again the short form. -/
theorem segments_short {raw : String} {q : QualifiedName} (h : ofRaw? raw = some q) :
    segments '.' q.short.toList <:+ segments '.' raw.toList ∧
      (ofRaw? q.short = none ∨ ofRaw? q.short = some ⟨⟨"", q.outer.simple⟩, q.nested⟩) := by
  obtain ⟨package, outer, nested, hsegs, houter, hupper, rfl⟩ := segments_of_ofRaw? h
  have hdotless : ∀ seg ∈ outer :: nested, '.' ∉ seg := by
    intro seg hseg
    have hmem : seg ∈ segments '.' raw.toList := by
      rw [hsegs]
      exact List.mem_append_right package hseg
    exact not_mem_of_mem_segments hmem
  have hshort : segments '.' (dotted (outer :: nested)).toList = outer :: nested := by
    rw [toList_dotted, segments_intercalate hdotless (List.cons_ne_nil _ _)]
  rw [short_eq_dotted, hshort, hsegs]
  refine ⟨List.suffix_append _ _, ?_⟩
  by_cases hdot : '.' ∈ (dotted (outer :: nested)).toList
  · -- A dot separates the outer type from a nested one.
    have hupper' : startsUppercase outer = true := by
      refine hupper.resolve_left ?_
      rintro rfl
      rw [toList_dotted, List.intercalate_singleton] at hdot
      exact hdotless outer List.mem_cons_self hdot
    have hsplit : splitSegments (segments '.' (dotted (outer :: nested)).toList) =
        ([], outer, nested) := by
      simp [hshort, splitSegments, hupper']
    exact .inr (ofRaw?_of_splitSegments hdot hsplit houter)
  · exact .inl (if_pos hdot)

end QualifiedName

/-! ## Names -/

namespace ImportTable

/-- A raw name is printed as it is, or by its short form if the outer type owns its simple name. -/
theorem printName_eq_or_short (t : ImportTable) (raw : String) :
    (t.printName raw).1 = raw ∨ ∃ q, QualifiedName.ofRaw? raw = some q ∧
      (t.printName raw).1 = q.short ∧ (t.printName raw).2.owner? q.outer.simple = some q.outer := by
  unfold printName
  cases hq : QualifiedName.ofRaw? raw with
  | none => exact .inl rfl
  | some q =>
    by_cases howner : (t.claim q.outer).owner? q.outer.simple = some q.outer
    · exact .inr ⟨q, rfl, if_pos howner, howner⟩
    · exact .inl (if_neg howner)

/-- The printed form of a name is printed as it is in every later state, and claims nothing. -/
theorem printName_printed {t t' : ImportTable} {raw : String}
    (h : (t.printName raw).2.GrowsTo t') :
    t'.printName (t.printName raw).1 = ((t.printName raw).1, t') := by
  rcases printName_eq_or_short t raw with hraw | ⟨q, hq, hshort, howner⟩
  · have hagain := printName_again h
    rw [hraw] at hagain ⊢
    exact hagain
  · rw [hshort]
    unfold printName
    rcases (QualifiedName.segments_short hq).2 with hnone | hsome
    · rw [hnone]
    · -- The name without a package is a claim on a simple name that has an owner already, and the
      -- two ways to print it are the same.
      rw [hsome]
      have hclaim : t'.claim ⟨"", q.outer.simple⟩ = t' := claim_eq_self (h.owner? howner)
      have hsame : QualifiedName.short ⟨⟨"", q.outer.simple⟩, q.nested⟩ = q.short := rfl
      simp only [hclaim, hsame, ite_self]

end ImportTable

/-! ## Canonical texts -/

namespace TypeName

/-- The canonical spelling. -/
def Expr.text : {c : Category} → Expr c → String
  | _, .raw name => name.text
  | _, .generic name row => name.text ++ "<" ++ row.text ++ ">"
  | _, .dimension of d => of.text ++ d.text
  | _, .wildcard => "?"
  | _, .bounded b of => b.lead ++ of.text
  | _, .plain type => type.text
  | _, .last a => a.text
  | _, .more a row => a.text ++ ", " ++ row.text

/-- White space in front of a row belongs to its first part. -/
theorem Writes.blank_row {row : Expr .arguments} {blanks s : List Char} (hblanks : AllBlank blanks)
    (h : Writes row s) : Writes row (blanks ++ s) := by
  cases h with
  | last hbefore ha hafter =>
    rw [← List.append_assoc, ← List.append_assoc]
    exact .last (hblanks.append hbefore) ha hafter
  | more hbefore ha hafter hrest =>
    rw [← List.append_assoc, ← List.append_assoc, ← List.append_assoc]
    exact .more (hblanks.append hbefore) ha hafter hrest

/-- The canonical spelling writes the expression. -/
theorem writes_text {c : Category} (e : Expr c) : Writes e e.text.toList := by
  have hnone : AllBlank [] := by decide
  have hspace : AllBlank [' '] := by decide
  induction e with
  | raw name => exact .raw name
  | generic name row ih =>
    have hwrites := Writes.generic name hnone ih
    simpa [Expr.text] using hwrites
  | dimension of d ih =>
    have hwrites := Writes.dimension d ih hnone
    simpa [Expr.text] using hwrites
  | wildcard => exact .wildcard
  | bounded b of ih =>
    have hwrites := Writes.bounded b hnone ih
    simpa [Expr.text] using hwrites
  | plain type ih => exact .plain ih
  | last a ih =>
    have hwrites := Writes.last hnone ih hnone
    simpa [Expr.text] using hwrites
  | more a row ih ihRow =>
    -- The space behind the comma stands in front of the rest of the row.
    have hwrites := Writes.more hnone ih hnone (ihRow.blank_row hspace)
    simpa [Expr.text] using hwrites

end TypeName

/-! ## Expressions -/

open DataMethods.TypeName

namespace ImportTable

theorem segments_printName (t : ImportTable) (raw : String) :
    segments '.' (t.printName raw).1.toList <:+ segments '.' raw.toList := by
  rcases printName_eq_or_short t raw with hraw | ⟨q, hq, hshort, -⟩
  · simp only [hraw, List.suffix_refl]
  · rw [hshort]
    exact (QualifiedName.segments_short hq).1

/-- The raw name that a table prints for another one. -/
def printedName (t : ImportTable) (name : RawName) : RawName where
  text := (t.printName name.text).1
  segments_plain seg hseg := name.segments_plain seg ((segments_printName t name.text).subset hseg)

/-- Puts the printed form of a raw name in its place. -/
def replaceName (name : RawName) : StateM ImportTable RawName :=
  modifyGet fun t => (t.printedName name, (t.printName name.text).2)

/-- Puts the printed forms of all raw names in their places, from left to right. -/
def replaceNames : {c : Category} → Expr c → StateM ImportTable (Expr c)
  | _, .raw name => return .raw (← replaceName name)
  | _, .generic name row => return .generic (← replaceName name) (← replaceNames row)
  | _, .dimension of d => return .dimension (← replaceNames of) d
  | _, .wildcard => return .wildcard
  | _, .bounded b of => return .bounded b (← replaceNames of)
  | _, .plain type => return .plain (← replaceNames type)
  | _, .last a => return .last (← replaceNames a)
  | _, .more a row => return .more (← replaceNames a) (← replaceNames row)

/-- An expression is printed as the text of the one in which its names are replaced. -/
theorem printExpr_eq {c : Category} (e : Expr c) (t : ImportTable) :
    (printExpr e).run t = (((replaceNames e).run t).1.text, ((replaceNames e).run t).2) := by
  induction e generalizing t with
  | raw name => rfl
  | generic name row ih =>
    simp only [run_generic, ih]
    rfl
  | dimension of d ih =>
    simp only [run_dimension, ih]
    rfl
  | wildcard => rfl
  | bounded b of ih =>
    simp only [run_bounded, ih]
    rfl
  | plain type ih => exact ih t
  | last a ih => exact ih t
  | more a row ih ihRow =>
    simp only [run_more, ih, ihRow]
    rfl

theorem replaceNames_growsTo {c : Category} (e : Expr c) (t : ImportTable) :
    t.GrowsTo ((replaceNames e).run t).2 := by
  have hgrows := printPieces_growsTo t e.pieces
  rwa [printPieces_pieces, printExpr_eq] at hgrows

/-- Every raw name in the expression is printed as it is, and claims nothing. -/
def Settled (t : ImportTable) {c : Category} (e : Expr c) : Prop :=
  ∀ name ∈ e.names, t.printName name.text = (name.text, t)

namespace Settled

variable {t t' : ImportTable} {c : Category} {e : Expr c}

theorem of_growsTo (h : t.Settled e) (hgrows : t.GrowsTo t') : t'.Settled e := by
  intro name hname
  have hprinted := h name hname
  have hagain : t'.printName name.text = ((t.printName name.text).1, t') := by
    apply printName_again
    rwa [hprinted]
  rwa [hprinted] at hagain

theorem generic_iff {name : RawName} {row : Expr .arguments} :
    t.Settled (.generic name row) ↔ t.Settled (.raw name) ∧ t.Settled row := by
  simp [Settled, Expr.names]

theorem more_iff {a : Expr .argument} {row : Expr .arguments} :
    t.Settled (.more a row) ↔ t.Settled a ∧ t.Settled row :=
  List.forall_mem_append

/-- Such an expression is printed in its canonical spelling. -/
theorem printExpr_eq_text (h : t.Settled e) : (printExpr e).run t = (e.text, t) := by
  induction e with
  | raw name => exact h name List.mem_cons_self
  | generic name row ih =>
    obtain ⟨hname, hrow⟩ := generic_iff.mp h
    have hhead : t.printName name.text = (name.text, t) := hname name List.mem_cons_self
    simp only [run_generic, hhead, ih hrow]
    rfl
  | dimension of d ih =>
    simp only [run_dimension, ih h]
    rfl
  | wildcard => rfl
  | bounded b of ih =>
    simp only [run_bounded, ih h]
    rfl
  | plain type ih => exact ih h
  | last a ih => exact ih h
  | more a row ih ihRow =>
    obtain ⟨ha, hrow⟩ := more_iff.mp h
    simp only [run_more, ih ha, ihRow hrow]
    rfl

end Settled

theorem settled_printedName (t : ImportTable) (name : RawName) :
    (t.printName name.text).2.Settled (.raw (t.printedName name)) := by
  intro printed hprinted
  rw [List.mem_singleton.mp hprinted]
  exact printName_printed (.refl _)

/-- Once its names are replaced, an expression is settled. -/
theorem settled_replaceNames {c : Category} (e : Expr c) (t : ImportTable) :
    ((replaceNames e).run t).2.Settled ((replaceNames e).run t).1 := by
  -- By induction on the expression. What comes first is settled in the table in which the rest is
  -- begun, and so in the table that the rest leaves.
  induction e generalizing t with
  | raw name => exact settled_printedName t name
  | generic name row ih =>
    have hname := settled_printedName t name
    exact Settled.generic_iff.mpr ⟨hname.of_growsTo (replaceNames_growsTo row _), ih _⟩
  | dimension of d ih => exact ih t
  | wildcard => exact fun _ hname => absurd hname List.not_mem_nil
  | bounded b of ih => exact ih t
  | plain type ih => exact ih t
  | last a ih => exact ih t
  | more a row ih ihRow =>
    have ha := (ih t).of_growsTo (replaceNames_growsTo row _)
    exact Settled.more_iff.mpr ⟨ha, ihRow _⟩

/-! ## Requests -/

theorem writesType_text (type : Expr .type) : WritesType type type.text :=
  ⟨[], _, [], by decide, writes_text type, by decide, by simp⟩

/-- The canonical spelling of a settled type is printed as it is, and the table stays. -/
theorem Settled.request_text {t : ImportTable} {type : Expr .type} (h : t.Settled type) :
    t.request type.text = ⟨.ok type.text, t, []⟩ := by
  simp only [request, read_of_writesType (writesType_text type), printPieces_pieces,
    h.printExpr_eq_text, List.drop_length]

/-- A request for a type prints the canonical spelling of the expression in which its names are
    replaced. -/
theorem request_replaceNames (t : ImportTable) {type : Expr .type} {text : String}
    (h : WritesType type text) :
    (t.request text).outcome = .ok ((replaceNames type).run t).1.text ∧
      (t.request text).state = ((replaceNames type).run t).2 := by
  simp only [request, read_of_writesType h, printPieces_pieces, printExpr_eq, and_self]

/-- However a type is written and whatever a table has come to hold, what the table prints for the
    type is a fixed text: asked for itself, at once or after a run, it is printed as it is. The
    table stays as it is then, and nothing is recorded. -/
theorem printed_text_fixed (t : ImportTable) (steps : List Step) {type : Expr .type}
    {text : String} (h : WritesType type text) :
    ∃ printed, (t.request text).outcome = .ok printed ∧
      let next := (t.request text).state
      let later := next.run steps
      next.request printed = ⟨.ok printed, next, []⟩ ∧
      later.request printed = ⟨.ok printed, later, []⟩ := by
  obtain ⟨houtcome, hstate⟩ := request_replaceNames t h
  have hsettled := settled_replaceNames type t
  rw [← hstate] at hsettled
  have hlater := hsettled.of_growsTo (run_growsTo (t.request text).state steps)
  exact ⟨_, houtcome, hsettled.request_text, hlater.request_text⟩

/-- A nested type whose outer type gets its simple name, with an argument whose outer types have
    lost theirs. Only the first is cut down to its short form. -/
theorem printed_text_fixed_entry :
    let entry : RawName := ⟨"java.util.Map.Entry", by decide +kernel⟩
    let list : RawName := ⟨"java.util.List", by decide +kernel⟩
    let other : RawName := ⟨"a.Map.Entry", by decide +kernel⟩
    let argument : Expr .argument :=
      .bounded .upper (.generic list (.last (.plain (.dimension (.raw other) .array))))
    let type : Expr .type := .generic entry (.last argument)
    let printed := "Map.Entry<? extends java.util.List<a.Map.Entry[]>>"
    let t := ((empty "org.example").request "java.awt.List").state
    let steps := [Step.request "Map.Entry", .request "org.Book<",
      .write Method.recovering Sample.saveBooks]
    WritesType type type.text ∧ (t.request type.text).outcome = .ok printed ∧
      let next := (t.request type.text).state
      let later := next.run steps
      next.request printed = ⟨.ok printed, next, []⟩ ∧
      later.request printed = ⟨.ok printed, later, []⟩ := by
  intro entry list other argument type printed t steps
  have hwrites := writesType_text type
  obtain ⟨printed', houtcome, hfixed⟩ := printed_text_fixed t steps hwrites
  have hprinted : (t.request type.text).outcome = .ok printed := by decide +kernel
  obtain rfl : printed' = printed := by simpa using houtcome.symm.trans hprinted
  exact ⟨hwrites, hprinted, hfixed⟩

end ImportTable

end DataMethods
