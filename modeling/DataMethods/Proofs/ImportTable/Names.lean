import DataMethods.Proofs.ImportTable.Growth

/-!
# Names with a package

A name is a row of segments with dots between them. If all segments are non-empty and the first one
that begins in upper case is not the first of all, the name says of itself which package its outer
type is from: it is in package form. This module takes such names apart, and finds the imports of a
table by their last segment.

## Key results

- `ofRaw?_of_inPackageForm`: a name in package form is its package, a dot, and its short form
- `imports_filter_lastSegment`: the imports that end in a simple name are those of its owner
-/

namespace DataMethods

/-! ## Segments -/

namespace Text

theorem segments_eq_splitOn (sep : Char) (s : List Char) : segments sep s = s.splitOn sep := by
  induction s with
  | nil => simp [segments]
  | cons c s ih => simp only [segments, List.splitOn_cons_eq_if_modifyHead, beq_iff_eq, ih]

/-- Segments joined by the separator are found again, unless one of them holds it. -/
theorem segments_intercalate {sep : Char} {ps : List (List Char)} (h : ∀ p ∈ ps, sep ∉ p)
    (hne : ps ≠ []) : segments sep ([sep].intercalate ps) = ps := by
  rw [segments_eq_splitOn, List.splitOn_intercalate sep h hne]

theorem not_mem_of_mem_segments {sep : Char} {s p : List Char} (h : p ∈ segments sep s) :
    sep ∉ p := by
  -- By induction on the text. The segment may be the first one, which the next character joins.
  induction s generalizing p with
  | nil => simp_all [segments]
  | cons c s ih =>
    unfold segments at h
    split at h
    · rcases List.mem_cons.mp h with rfl | h
      · exact List.not_mem_nil
      · exact ih h
    · next hc =>
      obtain ⟨q, qs, hq⟩ := List.exists_cons_of_ne_nil (segments_ne_nil sep s)
      rw [hq, List.modifyHead_cons] at h
      rcases List.mem_cons.mp h with rfl | h
      · simp [Ne.symm hc, ih (hq ▸ List.mem_cons_self)]
      · exact ih (hq ▸ List.mem_cons_of_mem q h)

end Text

namespace QualifiedName

open Text

/-- The first segment of a name. -/
def firstSegment (name : String) : String :=
  String.ofList ((segments '.' name.toList).headD [])

/-- The last segment of a name. -/
def lastSegment (name : String) : String :=
  String.ofList ((segments '.' name.toList).getLastD [])

/-- What stands before the last segment of a name. -/
def packagePart (name : String) : String :=
  dotted (segments '.' name.toList).dropLast

/-- Is the name in package form: two or more segments, none of them empty, one of which begins in
    upper case, but not the first? -/
def InPackageForm (name : String) : Prop :=
  let segs := segments '.' name.toList
  2 ≤ segs.length ∧ [] ∉ segs ∧ startsUppercase (segs.headD []) = false ∧
    segs.any startsUppercase = true

instance (name : String) : Decidable (InPackageForm name) :=
  inferInstanceAs (Decidable (_ ∧ _ ∧ _ ∧ _))

theorem toList_dotted (segs : List (List Char)) : (dotted segs).toList = ['.'].intercalate segs :=
  String.toList_ofList

theorem dotted_eq_intercalate (segs : List (List Char)) :
    dotted segs = ".".intercalate (segs.map String.ofList) := by
  rw [← String.toList_inj, toList_dotted, String.toList_intercalate, List.map_map]
  simp [Function.comp_def]

/-- Two rows of segments, one after the other. -/
theorem dotted_append {xs ys : List (List Char)} (hx : xs ≠ []) (hy : ys ≠ []) :
    dotted (xs ++ ys) = dotted xs ++ "." ++ dotted ys := by
  simp only [dotted_eq_intercalate, List.map_append]
  exact String.intercalate_append_of_ne_nil (by simpa using hx) (by simpa using hy)

theorem dotted_segments (name : String) : dotted (segments '.' name.toList) = name := by
  rw [← String.toList_inj, toList_dotted, intercalate_segments]

/-- Joined non-empty segments are not empty. -/
theorem dotted_cons_ne {seg : List Char} {segs : List (List Char)} (h : seg ≠ []) :
    dotted (seg :: segs) ≠ "" := by
  obtain ⟨c, cs, rfl⟩ := List.exists_cons_of_ne_nil h
  rw [Ne, ← String.toList_inj, toList_dotted, List.intercalate_cons_cons_left]
  exact List.cons_ne_nil _ _

theorem firstSegment_dotted {seg : List Char} {segs : List (List Char)}
    (h : ∀ s ∈ seg :: segs, '.' ∉ s) : firstSegment (dotted (seg :: segs)) = String.ofList seg := by
  rw [firstSegment, toList_dotted, segments_intercalate h (List.cons_ne_nil _ _)]
  rfl

/-- The short form of a name begins with its outer type. -/
theorem short_eq_append (q : QualifiedName) : ∃ rest, q.short = q.outer.simple ++ rest := by
  cases hn : q.nested with
  | nil => exact ⟨"", by simp [short, hn]⟩
  | cons seg segs =>
    exact ⟨"." ++ ".".intercalate (seg :: segs), by
      rw [short, hn, String.intercalate_cons_cons, String.append_assoc]⟩

/-- A row of segments with an upper-case one is split at the first of these. -/
theorem splitSegments_of_any {segs : List (List Char)} (h : segs.any startsUppercase = true) :
    ∃ package outer nested, splitSegments segs = (package, outer, nested) ∧
      segs = package ++ outer :: nested ∧ startsUppercase outer = true ∧
      ∀ s ∈ package, startsUppercase s = false := by
  unfold splitSegments
  have hsplit := List.takeWhile_append_dropWhile (p := (!startsUppercase ·)) (l := segs)
  cases hdrop : segs.dropWhile (!startsUppercase ·) with
  | nil =>
    -- Nothing is left only if no segment begins in upper case.
    obtain ⟨s, hs, hupper⟩ := List.any_eq_true.mp h
    rw [hdrop, List.append_nil] at hsplit
    have hlower := List.all_eq_true.mp (List.all_takeWhile (p := (!startsUppercase ·)) (l := segs))
    simp only [hsplit, Bool.not_eq_true'] at hlower
    rw [hlower s hs] at hupper
    contradiction
  | cons outer nested =>
    refine ⟨_, outer, nested, rfl, by rw [← hdrop, hsplit], ?_, ?_⟩
    · have hhead := List.head?_dropWhile_not (!startsUppercase ·) segs
      simpa [hdrop] using hhead
    · intro s hs
      simpa using List.all_eq_true.mp List.all_takeWhile s hs

/-- The short form is the row of segments from the outer type on. -/
theorem short_eq_dotted (package : String) (outer : List Char) (nested : List (List Char)) :
    short ⟨⟨package, String.ofList outer⟩, nested.map String.ofList⟩ = dotted (outer :: nested) := by
  rw [dotted_eq_intercalate]
  rfl

theorem ofRaw?_of_splitSegments {raw : String} {package nested : List (List Char)}
    {outer : List Char} (hdot : '.' ∈ raw.toList)
    (h : splitSegments (segments '.' raw.toList) = (package, outer, nested)) (houter : outer ≠ []) :
    ofRaw? raw = some ⟨⟨dotted package, String.ofList outer⟩, nested.map String.ofList⟩ := by
  unfold ofRaw?
  rw [if_neg (not_not_intro hdot), h]
  obtain ⟨c, cs, rfl⟩ := List.exists_cons_of_ne_nil houter
  rfl

theorem mem_of_two_le_length_segments {sep : Char} {s : List Char}
    (h : 2 ≤ (segments sep s).length) : sep ∈ s := by
  refine Decidable.by_contra fun hnot => ?_
  rw [segments_eq_splitOn, List.splitOn_eq_singleton hnot] at h
  simp at h

/-- A name in package form is its package, a dot, and its short form, which begins with the outer
    type. -/
theorem ofRaw?_of_inPackageForm {raw : String} (h : InPackageForm raw) :
    ∃ q, ofRaw? raw = some q ∧ raw = q.outer.package ++ "." ++ q.short ∧
      q.outer.qualified = q.outer.package ++ "." ++ q.outer.simple ∧
      firstSegment q.short = q.outer.simple ∧ startsUppercase q.outer.simple.toList = true := by
  obtain ⟨htwo, hnonempty, hlower, hany⟩ := h
  have hdotless : ∀ s ∈ segments '.' raw.toList, '.' ∉ s := fun _ => not_mem_of_mem_segments
  obtain ⟨package, outer, nested, hsplit, hsegs, hupper, -⟩ := splitSegments_of_any hany
  have hraw := dotted_segments raw
  rw [hsegs] at hlower hnonempty hdotless hraw
  -- The outer segment is not the first, so there are segments before it.
  obtain ⟨first, package, rfl⟩ : ∃ first rest, package = first :: rest := by
    cases package with
    | nil => exact absurd hupper (by simpa using hlower)
    | cons first rest => exact ⟨first, rest, rfl⟩
  have hfirst : first ≠ [] := fun hnil => hnonempty (by simp [hnil])
  have houter : outer ≠ [] := fun hnil => hnonempty (by simp [hnil])
  refine ⟨_, ofRaw?_of_splitSegments (mem_of_two_le_length_segments htwo) hsplit houter,
    ?_, ?_, ?_, ?_⟩
  · rw [short_eq_dotted, ← dotted_append (List.cons_ne_nil _ _) (List.cons_ne_nil _ _), hraw]
  · exact if_neg (dotted_cons_ne hfirst)
  · rw [short_eq_dotted, firstSegment_dotted fun s hs => hdotless s (List.mem_append_right _ hs)]
  · rw [String.toList_ofList, hupper]

/-- The simple name of an outer type holds no dot. -/
theorem not_mem_simple_of_ofRaw? {raw : String} {q : QualifiedName} (h : ofRaw? raw = some q) :
    '.' ∉ q.outer.simple.toList := by
  have hdotless : ∀ s ∈ segments '.' raw.toList, '.' ∉ s := fun _ => not_mem_of_mem_segments
  -- The outer segment is one of the segments, wherever the name is split.
  have houter : '.' ∉ (splitSegments (segments '.' raw.toList)).2.1 := by
    unfold splitSegments
    split
    · next outer nested hdrop =>
      exact hdotless outer ((List.dropWhile_sublist _).mem (hdrop ▸ List.mem_cons_self))
    · cases hlast : (segments '.' raw.toList).getLast? with
      | none => exact List.not_mem_nil
      | some last => exact hdotless last (List.mem_of_getLast? hlast)
  unfold ofRaw? at h
  split at h
  · contradiction
  · split at h
    · contradiction
    · next package outer nested hsplit =>
      cases h
      rw [hsplit] at houter
      rwa [String.toList_ofList]

end QualifiedName

/-! ## Imports by their last segment -/

namespace OuterName

open QualifiedName

variable {o : OuterName}

/-- The segments of the name with the package: those of the package, if there is one, and behind
    them the simple name. -/
theorem segments_qualified (h : '.' ∉ o.simple.toList) :
    Text.segments '.' o.qualified.toList =
      (if o.package = "" then [] else Text.segments '.' o.package.toList) ++ [o.simple.toList] := by
  have hsimple : o.simple = dotted [o.simple.toList] := by
    rw [← String.toList_inj, toList_dotted, List.intercalate_singleton]
  unfold qualified
  split
  · have hcut : Text.segments '.' (['.'].intercalate [o.simple.toList]) = [o.simple.toList] :=
      Text.segments_intercalate (by simpa using h) (List.cons_ne_nil _ _)
    rwa [List.intercalate_singleton] at hcut
  · have hjoin : o.package ++ "." ++ o.simple =
        dotted (Text.segments '.' o.package.toList ++ [o.simple.toList]) := by
      rw [dotted_append (Text.segments_ne_nil _ _) (List.cons_ne_nil _ _), dotted_segments,
        ← hsimple]
    rw [hjoin, toList_dotted, Text.segments_intercalate _ (by simp)]
    intro s hs
    rcases List.mem_append.mp hs with hs | hs
    · exact Text.not_mem_of_mem_segments hs
    · rwa [List.mem_singleton.mp hs]

theorem lastSegment_qualified (h : '.' ∉ o.simple.toList) : lastSegment o.qualified = o.simple := by
  rw [lastSegment, segments_qualified h, List.getLastD_concat, String.ofList_toList]

theorem packagePart_qualified (h : '.' ∉ o.simple.toList) :
    packagePart o.qualified = o.package := by
  rw [packagePart, segments_qualified h, List.dropLast_concat]
  split
  · next hunnamed => exact hunnamed.symm
  · exact dotted_segments o.package

/-- The name with the package holds a dot only if there is a package. -/
theorem dot_mem_qualified_iff (h : '.' ∉ o.simple.toList) :
    '.' ∈ o.qualified.toList ↔ o.package ≠ "" := by
  unfold qualified
  split
  · next hunnamed => simp [hunnamed, h]
  · next hnamed => simp [hnamed]

end OuterName

namespace ImportTable

open QualifiedName

/-- No simple name of an owner holds a dot. All tables that runs lead to are so. -/
def Dotless (t : ImportTable) : Prop :=
  ∀ o ∈ t.owners, '.' ∉ o.simple.toList

theorem dotless_empty (package : String) : (empty package).Dotless :=
  fun _ h => absurd h List.not_mem_nil

theorem Dotless.claim {t : ImportTable} (h : t.Dotless) {o : OuterName}
    (ho : '.' ∉ o.simple.toList) : (t.claim o).Dotless := by
  cases howner : t.owner? o.simple with
  | some o' => rwa [claim_eq_self howner]
  | none =>
    -- There is one owner more.
    intro o' hmem
    rw [owners_claim howner] at hmem
    rcases List.mem_append.mp hmem with hmem | hmem
    · exact h o' hmem
    · rwa [List.mem_singleton.mp hmem]

theorem Dotless.printName {t : ImportTable} (h : t.Dotless) (raw : String) :
    (t.printName raw).2.Dotless := by
  unfold ImportTable.printName
  split
  · exact h
  · next q hq => exact h.claim (not_mem_simple_of_ofRaw? hq)

theorem Dotless.printPieces {t : ImportTable} (h : t.Dotless) (pieces : List TypeName.Piece) :
    (t.printPieces pieces).2.Dotless := by
  induction pieces generalizing t with
  | nil => exact h
  | cons piece rest ih =>
    cases piece with
    | mark text => exact ih h
    | name raw => exact ih (h.printName raw)

/-- At most one owner has a given simple name. -/
theorem filter_owners (t : ImportTable) (simple : String) :
    t.owners.filter (·.simple == simple) = (t.owner? simple).toList := by
  cases ho : t.owner? simple with
  | none =>
    have hnone := owner?_eq_none_iff.mp ho
    simpa using hnone
  | some o =>
    obtain ⟨hs, before, after, hsplit, hbefore⟩ := List.find?_eq_some_iff_append.mp ho
    have hdistinct := t.distinct
    rw [hsplit, List.pairwise_append, List.pairwise_cons] at hdistinct
    -- The owner found is the first one, and `distinct` rules out a second.
    have hafter : ∀ o' ∈ after, o'.simple ≠ simple := by
      intro o' ho' heq
      have hsame : o.simple = o'.simple := (beq_iff_eq.mp hs).trans heq.symm
      exact hdistinct.2.1.1 o' ho' hsame
    have hleft : before.filter (·.simple == simple) = [] := by simpa using hbefore
    have hright : after.filter (·.simple == simple) = [] := by simpa using hafter
    rw [hsplit, List.filter_append, hleft, List.filter_cons, if_pos hs, hright]
    rfl

/-- The imports that end in a simple name: that of its owner, if it needs one, and no other. -/
theorem imports_filter_lastSegment {t : ImportTable} (h : t.Dotless) (simple : String) :
    t.imports.filter (lastSegment · == simple) =
      ((t.owner? simple).toList.filter t.needsImport).map OuterName.qualified := by
  have hrecorded : t.recorded.filter (lastSegment · == simple) =
      ((t.owner? simple).toList.filter t.needsImport).map OuterName.qualified := by
    have hlast : ∀ o ∈ t.owners.filter t.needsImport,
        ((lastSegment · == simple) ∘ OuterName.qualified) o = (o.simple == simple) := by
      intro o ho
      rw [Function.comp, OuterName.lastSegment_qualified (h o (List.mem_filter.mp ho).1)]
    -- Which of the two tests comes first makes no difference.
    rw [recorded, List.filter_map, List.filter_congr hlast, ← filter_owners, List.filter_filter,
      List.filter_filter]
    simp only [Bool.and_comm]
  -- The imports are sorted, so what is known of them is that they are the recorded ones.
  have hperm : (t.imports.filter (lastSegment · == simple)).Perm
      (((t.owner? simple).toList.filter t.needsImport).map OuterName.qualified) :=
    hrecorded ▸ (List.mergeSort_perm t.recorded _).filter _
  -- A row of at most one import has only one order.
  cases ho : t.owner? simple with
  | none => rw [ho] at hperm; exact hperm.eq_nil
  | some o =>
    rw [ho] at hperm
    by_cases hneeds : t.needsImport o = true
    · simp only [Option.toList_some, List.filter_cons_of_pos hneeds] at hperm ⊢
      exact List.perm_singleton.mp hperm
    · simp only [Option.toList_some, List.filter_cons_of_neg hneeds] at hperm ⊢
      exact hperm.eq_nil

end ImportTable

end DataMethods
