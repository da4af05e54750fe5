import DataMethods.Proofs.Template.Tag
import DataMethods.Template.Fragment
import Mathlib.Control.Monad.Basic

/-!
# The grammar of templates

A row of chunks is a template if it consists of texts, slots and branches, where a branch is a block
that opens it, a row, possibly an `else` with a second row, and an `endif`. The reader accepts these
rows and no others, and what it makes of a row is the tree that the grammar gives it.

## Key results

- `readRow_eq_ok_iff`: what is read, up to which block, and what is left
- `compile_eq_ok_iff_derives`: the sources that compile, and the template of each
-/

namespace DataMethods.Template

open Text

/-- The rows of chunks that are templates, each with the template it is. The chunks of a row are
    those of its parts, one after the other. -/
inductive Derives : List Chunk → Template → Prop where
  | nil : Derives [] .done
  | text (s : List Char) {cs : List Chunk} {t : Template} :
      Derives cs t → Derives (.text s :: cs) (.text (String.ofList s) t)
  | slot {inside : List Char} {cs : List Chunk} {t : Template} :
      isVariableName (trim inside) = true → Derives cs t →
      Derives (.slot inside :: cs) (.slot (String.ofList (trim inside)) t)
  | branch {opening finish : List Char} {c : Condition} {yes cs : List Chunk} {y t : Template} :
      Opens opening c → Derives yes y → IsEndif finish → Derives cs t →
      Derives (.block opening :: (yes ++ .block finish :: cs)) (.branch c.name c.negated y .done t)
  | branchElse {opening middle finish : List Char} {c : Condition} {yes no cs : List Chunk}
      {y n t : Template} :
      Opens opening c → Derives yes y → IsElse middle → Derives no n → IsEndif finish →
      Derives cs t →
      Derives (.block opening :: (yes ++ .block middle :: (no ++ .block finish :: cs)))
        (.branch c.name c.negated y n t)

/-! ## Reading one chunk -/

/-- What `readPart` reads, without the bound on what is left. -/
def readRow (level : Level) (cs : List Chunk) :
    Except CompileError (Template × Option BlockEnd × List Chunk) :=
  (readPart level cs).map fun part => (part.template, part.ending, part.rest)

/-- Puts something in front of the template that was read. -/
def prepend (front : Template → Template) :
    Template × Option BlockEnd × List Chunk → Template × Option BlockEnd × List Chunk
  | (t, ending, rest) => (front t, ending, rest)

section

variable {level : Level} {inside : List Char} {cs rest : List Chunk} {t : Template}
  {ending : Option BlockEnd}

theorem readRow_nil : readRow level [] = .ok (.done, none, []) := by
  rw [readRow, readPart]
  rfl

theorem readRow_text (s : List Char) :
    readRow level (.text s :: cs) = (readRow level cs).map (prepend (.text (String.ofList s))) := by
  rw [readRow, readPart, readRow]
  cases readPart level cs <;> rfl

theorem readRow_slot {name : String} (h : readSlot inside = .ok name) :
    readRow level (.slot inside :: cs) = (readRow level cs).map (prepend (.slot name)) := by
  rw [readRow, readPart, readRow, h]
  cases readPart level cs <;> rfl

theorem readRow_slot_error {e : CompileError} (h : readSlot inside = .error e) :
    readRow level (.slot inside :: cs) = .error e := by
  rw [readRow, readPart, h]
  rfl

theorem readRow_block_error {e : CompileError} (h : Block.read inside = .error e) :
    readRow level (.block inside :: cs) = .error e := by
  rw [readRow, readPart]
  simp only [h]
  rfl

theorem readRow_ends {ending : BlockEnd} (h : Block.read inside = .ok (.ends ending)) :
    readRow level (.block inside :: cs) =
      if level.endsWith ending then .ok (.done, some ending, cs)
      else .error (.unexpectedBlock ending) := by
  rw [readRow, readPart]
  simp only [h]
  split <;> rfl

theorem readRow_opens {c : Condition} {written : String}
    (h : Block.read inside = .ok (.opens c written)) :
    readRow level (.block inside :: cs) =
      (readRow .yesPart cs).bind fun
        | (_, none, _) => .error (.missingEnd written)
        | (yes, some .finish, rest) =>
          (readRow level rest).map (prepend (.branch c.name c.negated yes .done))
        | (yes, some .otherwise, rest) =>
          (readRow .noPart rest).bind fun
            | (_, none, _) => .error (.missingEnd written)
            | (no, some _, rest') =>
              (readRow level rest').map (prepend (.branch c.name c.negated yes no)) := by
  obtain ⟨name, negated⟩ := c
  rw [readRow, readPart]
  simp only [h, readRow]
  rcases readPart .yesPart cs with e | ⟨yes, _ | _ | _, rest, _⟩
  · rfl
  · rfl
  · simp only [Except.map, Except.bind]
    rcases readPart .noPart rest with e | ⟨no, _ | ending, rest', _⟩
    · rfl
    · rfl
    · simp only
      cases readPart level rest' <;> rfl
  · simp only [Except.map, Except.bind]
    cases readPart level rest <;> rfl

/-! ## What was read -/

theorem eq_ok_of_map_prepend {read : Except CompileError (Template × Option BlockEnd × List Chunk)}
    {front : Template → Template} (h : read.map (prepend front) = .ok (t, ending, rest)) :
    ∃ t', read = .ok (t', ending, rest) ∧ t = front t' := by
  cases read with
  | error e => contradiction
  | ok part =>
    obtain ⟨t', ending', rest'⟩ := part
    cases h
    exact ⟨t', rfl, rfl⟩

/-- Behind a block that opens a branch, one part was read or two, and then the row after the
    branch. -/
theorem cases_of_readRow_opens {c : Condition} {written : String}
    (hblock : Block.read inside = .ok (.opens c written))
    (h : readRow level (.block inside :: cs) = .ok (t, ending, rest)) :
    (∃ yes afterYes t', readRow .yesPart cs = .ok (yes, some .finish, afterYes) ∧
      readRow level afterYes = .ok (t', ending, rest) ∧
      t = .branch c.name c.negated yes .done t') ∨
    (∃ yes afterYes no last afterNo t', readRow .yesPart cs = .ok (yes, some .otherwise, afterYes) ∧
      readRow .noPart afterYes = .ok (no, some last, afterNo) ∧
      readRow level afterNo = .ok (t', ending, rest) ∧
      t = .branch c.name c.negated yes no t') := by
  rw [readRow_opens hblock] at h
  -- What ended the first part says whether there is a second one.
  rcases hyes : readRow .yesPart cs with e | ⟨yes, _ | _ | _, afterYes⟩ <;> rw [hyes] at h
  · contradiction
  · contradiction
  · simp only [Except.bind] at h
    rcases hno : readRow .noPart afterYes with e | ⟨no, _ | last, afterNo⟩ <;> rw [hno] at h
    · contradiction
    · contradiction
    · obtain ⟨t', hrest, ht⟩ := eq_ok_of_map_prepend h
      exact .inr ⟨yes, afterYes, no, last, afterNo, t', rfl, hno, hrest, ht⟩
  · obtain ⟨t', hrest, ht⟩ := eq_ok_of_map_prepend h
    exact .inl ⟨yes, afterYes, t', rfl, hrest, ht⟩

end

/-! ## Reading a row -/

/-- The chunks `cs` begin with `before`. Then they end, or a block comes that ends a part at this
    level and has the rest behind it. -/
def StopsAt (level : Level) (cs before : List Chunk) :
    Option BlockEnd → List Chunk → Prop
  | none, rest => cs = before ∧ rest = []
  | some ending, rest => level.endsWith ending = true ∧
      ∃ inside, trim inside = ending.word.toList ∧ cs = before ++ .block inside :: rest

theorem StopsAt.append {level : Level} {cs before rest : List Chunk} {ending : Option BlockEnd}
    (h : StopsAt level cs before ending rest) (front : List Chunk) :
    StopsAt level (front ++ cs) (front ++ before) ending rest := by
  cases ending with
  | none =>
    obtain ⟨rfl, hrest⟩ := h
    exact ⟨rfl, hrest⟩
  | some ending =>
    obtain ⟨hlevel, inside, hword, rfl⟩ := h
    exact ⟨hlevel, inside, hword, (List.append_assoc ..).symm⟩

theorem StopsAt.of_append {level : Level} {cs before rest : List Chunk} {ending : Option BlockEnd}
    (front : List Chunk) (h : StopsAt level cs (front ++ before) ending rest) :
    ∃ cs', cs = front ++ cs' ∧ StopsAt level cs' before ending rest := by
  cases ending with
  | none =>
    obtain ⟨rfl, hrest⟩ := h
    exact ⟨before, rfl, rfl, hrest⟩
  | some ending =>
    obtain ⟨hlevel, inside, hword, rfl⟩ := h
    exact ⟨_, List.append_assoc .., hlevel, inside, hword, rfl⟩

/-- What stands before an end is read up to that end. -/
theorem readRow_of_derives {before : List Chunk} {t : Template} (h : Derives before t)
    {level : Level} {cs rest : List Chunk} {ending : Option BlockEnd}
    (hstop : StopsAt level cs before ending rest) :
    readRow level cs = .ok (t, ending, rest) := by
  -- By induction on the derivation. The level and the end change on the way into the parts of a
  -- branch, so they are general.
  induction h generalizing level cs rest ending with
  | nil =>
    cases ending with
    | none =>
      obtain ⟨rfl, rfl⟩ := hstop
      exact readRow_nil
    | some ending =>
      obtain ⟨hlevel, inside, hword, rfl⟩ := hstop
      rw [List.nil_append, readRow_ends (read_eq_ends_iff.mpr hword), if_pos hlevel]
  | text s _ ih =>
    obtain ⟨cs', rfl, hrest⟩ := StopsAt.of_append [.text s] hstop
    rw [List.singleton_append, readRow_text, ih hrest]
    rfl
  | @slot inside _ _ hname _ ih =>
    obtain ⟨cs', rfl, hrest⟩ := StopsAt.of_append [.slot inside] hstop
    have hslot : readSlot inside = .ok _ := readSlot_eq_ok_iff.mpr ⟨hname, rfl⟩
    rw [List.singleton_append, readRow_slot hslot, ih hrest]
    rfl
  | @branch opening finish c yes _ _ _ hopens _ hfinish _ ihYes ihRest =>
    obtain ⟨cs', rfl, hrest⟩ :=
      StopsAt.of_append (.block opening :: (yes ++ [.block finish])) (by simpa using hstop)
    obtain ⟨written, hread⟩ := exists_read_eq_opens_iff.mpr hopens
    -- The part stops at its `endif`, and the row behind it where the whole stops.
    have hyes : StopsAt .yesPart (yes ++ .block finish :: cs') yes (some .finish) cs' :=
      ⟨rfl, finish, hfinish, rfl⟩
    simp only [List.cons_append, List.append_assoc, List.nil_append]
    rw [readRow_opens hread, ihYes hyes]
    simp only [Except.bind, ihRest hrest]
    rfl
  | @branchElse opening middle finish c yes no _ _ _ _ hopens _ hmiddle _ hfinish _ ihYes ihNo
      ihRest =>
    obtain ⟨cs', rfl, hrest⟩ :=
      StopsAt.of_append (.block opening :: (yes ++ .block middle :: (no ++ [.block finish])))
        (by simpa using hstop)
    obtain ⟨written, hread⟩ := exists_read_eq_opens_iff.mpr hopens
    -- The second part first, since the first one leaves it to be read.
    have hno : StopsAt .noPart (no ++ .block finish :: cs') no (some .finish) cs' :=
      ⟨rfl, finish, hfinish, rfl⟩
    have hyes : StopsAt .yesPart (yes ++ .block middle :: (no ++ .block finish :: cs')) yes
        (some .otherwise) (no ++ .block finish :: cs') :=
      ⟨rfl, middle, hmiddle, rfl⟩
    simp only [List.cons_append, List.append_assoc, List.nil_append]
    rw [readRow_opens hread, ihYes hyes]
    simp only [Except.bind, ihNo hno, ihRest hrest]
    rfl

/-- Whatever is read is derived by the grammar, from all chunks up to the end of the part. -/
theorem exists_derives_of_readRow {level : Level} {cs rest : List Chunk} {t : Template}
    {ending : Option BlockEnd} (h : readRow level cs = .ok (t, ending, rest)) :
    ∃ before, Derives before t ∧ StopsAt level cs before ending rest := by
  -- By induction on the number of chunks: behind a branch the reader goes on with what the parts
  -- have left, which is no tail that the list's own induction knows of.
  induction hn : cs.length using Nat.strongRecOn generalizing level cs t ending rest with
  | _ n ih =>
  subst hn
  cases cs with
  | nil =>
    rw [readRow_nil] at h
    cases h
    exact ⟨[], .nil, rfl, rfl⟩
  | cons chunk cs =>
  have hlength : cs.length < (chunk :: cs).length := Nat.lt_succ_self _
  cases chunk with
  | text s =>
    rw [readRow_text] at h
    obtain ⟨t', hread, rfl⟩ := eq_ok_of_map_prepend h
    obtain ⟨before, hderives, hstop⟩ := ih _ hlength hread rfl
    exact ⟨_, .text s hderives, hstop.append [.text s]⟩
  | slot inside =>
    cases hslot : readSlot inside with
    | error e =>
      rw [readRow_slot_error hslot] at h
      contradiction
    | ok name =>
      rw [readRow_slot hslot] at h
      obtain ⟨t', hread, rfl⟩ := eq_ok_of_map_prepend h
      obtain ⟨hname, rfl⟩ := readSlot_eq_ok_iff.mp hslot
      obtain ⟨before, hderives, hstop⟩ := ih _ hlength hread rfl
      exact ⟨_, .slot hname hderives, hstop.append [.slot inside]⟩
  | block inside =>
  cases hblock : Block.read inside with
  | error e =>
    rw [readRow_block_error hblock] at h
    contradiction
  | ok block =>
  cases block with
  | ends last =>
    rw [readRow_ends hblock] at h
    split at h
    · next hlevel =>
      cases h
      exact ⟨[], .nil, hlevel, inside, read_eq_ends_iff.mp hblock, rfl⟩
    · contradiction
  | opens c written =>
    have hopens : Opens inside c := exists_read_eq_opens_iff.mp ⟨written, hblock⟩
    obtain ⟨yes, afterYes, t', hyes, hrest, rfl⟩ |
      ⟨yes, afterYes, no, last, afterNo, t', hyes, hno, hrest, rfl⟩ :=
        cases_of_readRow_opens hblock h
    · obtain ⟨yesRow, hyesRow, -, finish, hfinish, rfl⟩ := ih _ hlength hyes rfl
      have hafter : afterYes.length < (yesRow ++ .block finish :: afterYes).length + 1 := by
        simp only [List.length_append, List.length_cons]
        omega
      obtain ⟨before, hderives, hstop⟩ := ih _ hafter hrest rfl
      refine ⟨_, .branch hopens hyesRow hfinish hderives, ?_⟩
      have happend := hstop.append (.block inside :: (yesRow ++ [.block finish]))
      simp only [List.cons_append, List.append_assoc, List.nil_append] at happend
      exact happend
    · obtain ⟨yesRow, hyesRow, -, middle, hmiddle, rfl⟩ := ih _ hlength hyes rfl
      have hafterYes : afterYes.length < (yesRow ++ .block middle :: afterYes).length + 1 := by
        simp only [List.length_append, List.length_cons]
        omega
      obtain ⟨noRow, hnoRow, hlevel, finish, hfinish, rfl⟩ := ih _ hafterYes hno rfl
      -- The second part does not end at an `else`.
      have hlast : last = .finish := by
        cases last with
        | otherwise => contradiction
        | finish => rfl
      subst hlast
      have hafterNo : afterNo.length <
          (yesRow ++ .block middle :: (noRow ++ .block finish :: afterNo)).length + 1 := by
        simp only [List.length_append, List.length_cons]
        omega
      obtain ⟨before, hderives, hstop⟩ := ih _ hafterNo hrest rfl
      refine ⟨_, .branchElse hopens hyesRow hmiddle hnoRow hfinish hderives, ?_⟩
      have happend := hstop.append
        (.block inside :: (yesRow ++ .block middle :: (noRow ++ [.block finish])))
      simp only [List.cons_append, List.append_assoc, List.nil_append] at happend
      exact happend

theorem readRow_eq_ok_iff {level : Level} {cs rest : List Chunk} {t : Template}
    {ending : Option BlockEnd} :
    readRow level cs = .ok (t, ending, rest) ↔
      ∃ before, Derives before t ∧ StopsAt level cs before ending rest :=
  ⟨exists_derives_of_readRow, fun ⟨_, hderives, hstop⟩ => readRow_of_derives hderives hstop⟩

/-! ## Compiling a source -/

theorem ofChunks_eq_readRow (cs : List Chunk) :
    ofChunks cs = (readRow .top cs).map Prod.fst := by
  rw [ofChunks, readRow]
  cases readPart .top cs <;> rfl

theorem ofChunks_eq_ok_iff {cs : List Chunk} {t : Template} :
    ofChunks cs = .ok t ↔ Derives cs t := by
  rw [ofChunks_eq_readRow]
  constructor
  · intro h
    rcases hread : readRow .top cs with e | ⟨t', ending, rest⟩ <;> rw [hread] at h <;> cases h
    obtain ⟨before, hderives, hstop⟩ := readRow_eq_ok_iff.mp hread
    cases ending with
    | none =>
      obtain ⟨rfl, -⟩ := hstop
      exact hderives
    | some ending =>
      -- Outside all branches nothing ends at a block.
      have hlevel : Level.top.endsWith ending = true := hstop.1
      contradiction
  · intro h
    have hread : readRow .top cs = .ok (t, none, []) := readRow_of_derives h ⟨rfl, rfl⟩
    rw [hread]
    rfl

/-- A source that can be cut into chunks compiles if the grammar derives the row of its chunks, and
    then to the one template that it derives. In all other cases the source is refused. -/
theorem compile_eq_ok_iff_derives {source : String} {cs : List Chunk}
    (h : chunksOf source.toList = .ok cs) :
    (∀ t, compile source = .ok t ↔ Derives cs t) ∧
    ((∃ e, compile source = .error e) ↔ ¬∃ t, Derives cs t) := by
  have hcompile : compile source = ofChunks cs := by rw [compile, h]
  rw [hcompile]
  refine ⟨fun t => ofChunks_eq_ok_iff, ?_⟩
  simp only [← ofChunks_eq_ok_iff]
  cases ofChunks cs with
  | error e => simp
  | ok t => simp

/-- A branch in a branch, on the variables `not` and `if`. -/
theorem compile_eq_ok_iff_derives_nested :
    let cs : List Chunk :=
      [.block " if  not  not ".toList, .slot "x".toList, .block "if if".toList, .text "y".toList,
       .block " else ".toList, .block "endif".toList, .block "else".toList, .text "z".toList,
       .block " endif ".toList, .text "\n".toList]
    let t : Template :=
      .branch "not" true (.slot "x" (.branch "if" false (.text "y" .done) .done .done))
        (.text "z" .done) (.text "\n" .done)
    chunksOf (Fragment.source cs).toList = .ok cs ∧ Derives cs t ∧
      ¬∃ e, compile (Fragment.source cs) = .error e := by
  intro cs t
  have hchunks : chunksOf (Fragment.source cs).toList = .ok cs := by
    rw [Fragment.source, String.toList_ofList]
    decide +kernel
  have hcompiled := compile_eq_ok_iff_derives hchunks
  have hderives : Derives cs t := by
    rw [← hcompiled.1, compile, hchunks]
    decide +kernel
  exact ⟨hchunks, hderives, fun herror => hcompiled.2.mp herror ⟨t, hderives⟩⟩

end DataMethods.Template
