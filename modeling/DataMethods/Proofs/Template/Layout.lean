import DataMethods.Proofs.Template.Merged
import DataMethods.Proofs.Template.Written

/-!
# Templates laid out in lines

A template may be laid out so that every line is either content, which is text and slots, or holds a
single block with nothing but spaces and tabs beside it. The lines with blocks are there for the eye
only: the filled template consists of the content lines of the branches that are taken, in order,
each with its own line break, and of nothing else.

## Key results

- `ComesTo.content`, `ComesTo.block`: what the cutting makes of a line of each kind
- `print_template`: a template in lines prints the content lines of the branches that are taken
- `fill_laidOut`: the source of a layout compiles, and its template is filled so
-/

namespace DataMethods.Template

open Text

/-! ## Lines -/

/-- May the chunk stand in a content line? A text may if it has no line break, a slot if it holds
    the name of a variable, and a block may not. -/
def Chunk.IsSpan : Chunk → Prop
  | .text s => '\n' ∉ s
  | .slot inside => isVariableName (trim inside) = true
  | .block _ => False

instance (chunk : Chunk) : Decidable chunk.IsSpan :=
  match chunk with
  | .text s => inferInstanceAs (Decidable ('\n' ∉ s))
  | .slot inside => inferInstanceAs (Decidable (isVariableName (trim inside) = true))
  | .block _ => inferInstanceAs (Decidable False)

/-- A line of text and slots, which can be told apart. -/
structure ContentLine where
  spans : List Chunk
  isSpan : ∀ span ∈ spans, span.IsSpan
  separated : Separated spans

/-- The lines of a template: content, and branches with a condition and two parts. -/
inductive Layout where
  | done
  | line (content : ContentLine) (rest : Layout)
  | branch (c : Condition) (yes no rest : Layout)

/-- A line that holds a block of the given form, and spaces and tabs. -/
inductive BlockLine (form : List Char → Prop) : List Char → Prop where
  | intro {before inside after : List Char} :
      (∀ c ∈ before, isLineBlank c = true) → form inside → (∀ c ∈ after, isLineBlank c = true) →
      BlockLine form (before ++ (Chunk.block inside).source ++ (after ++ ['\n']))

/-- The text writes the layout, one line after the other. The tags may be spelled in any way, and a
    branch with nothing in its second part may do without the line for `else`. -/
inductive LaysOut : Layout → List Char → Prop where
  | done : LaysOut .done []
  | line (content : ContentLine) {rest : Layout} {s : List Char} :
      LaysOut rest s → LaysOut (.line content rest) (sourceOf content.spans ++ ['\n'] ++ s)
  | branch {c : Condition} {yes rest : Layout} {opening first finish s : List Char} :
      BlockLine (Opens · c) opening → LaysOut yes first → BlockLine IsEndif finish →
      LaysOut rest s → LaysOut (.branch c yes .done rest) (opening ++ first ++ finish ++ s)
  | branchElse {c : Condition} {yes no rest : Layout}
      {opening first middle second finish s : List Char} :
      BlockLine (Opens · c) opening → LaysOut yes first → BlockLine IsElse middle →
      LaysOut no second → BlockLine IsEndif finish → LaysOut rest s →
      LaysOut (.branch c yes no rest) (opening ++ first ++ (middle ++ second) ++ finish ++ s)

/-! ## The text that is expected -/

section

variable (context : Context)

/-- The text of a variable's value. -/
def valueText (name : String) : String :=
  ((context.lookup name).map Value.text).getD ""

/-- Does the condition hold? -/
def Condition.holds (c : Condition) : Bool :=
  (context.lookup c.name).any Value.truth != c.negated

/-- The variable that a slot stands for. -/
def Chunk.variable? : Chunk → Option String
  | .slot inside => some (String.ofList (trim inside))
  | _ => none

/-- The text, or the value in place of the slot. -/
def Chunk.shown : Chunk → String
  | .text s => String.ofList s
  | .slot inside => valueText context (String.ofList (trim inside))
  | .block _ => ""

/-- The line with its variables replaced, and with its line break. -/
def ContentLine.shown (content : ContentLine) : String :=
  String.join (content.spans.map (·.shown context)) ++ "\n"

namespace Layout

/-- The content lines of the branches that are taken. -/
def taken : Layout → List ContentLine
  | .done => []
  | .line content rest => content :: rest.taken
  | .branch c yes no rest => (if c.holds context then yes.taken else no.taken) ++ rest.taken

/-- The names that are reached: those in the lines of the branches that are taken, and those in the
    conditions that decide which these are. -/
def reached : Layout → List String
  | .done => []
  | .line content rest => content.spans.filterMap Chunk.variable? ++ rest.reached
  | .branch c yes no rest =>
    c.name :: (if c.holds context then yes.reached else no.reached) ++ rest.reached

/-- The content lines of the branches that are taken, in order. -/
def shown (layout : Layout) : String :=
  String.join ((layout.taken context).map (·.shown context))

end Layout

end

/-! ## Cutting lines -/

theorem isMark_of_isBlank {c : Char} (h : isBlank c = true) : isMark c = false := by
  refine Bool.eq_false_iff.mpr fun hmark => ?_
  simp only [isMark, Bool.or_eq_true, beq_iff_eq] at hmark
  rcases hmark with (rfl | rfl) | rfl <;> contradiction

theorem any_isMark_of_allBlank {blanks : List Char} (h : AllBlank blanks) :
    blanks.any isMark = false := by
  rw [List.any_eq_false]
  intro c hc
  simp [isMark_of_isBlank (h c hc)]

theorem any_isMark_of_trim {inside : List Char} (h : (trim inside).any isMark = false) :
    inside.any isMark = false := by
  obtain ⟨before, after, hbefore, hafter, hinside⟩ := exists_eq_append_trim_append inside
  rw [hinside, List.any_append, List.any_append, h, any_isMark_of_allBlank hbefore,
    any_isMark_of_allBlank hafter]
  rfl

/-- The forms of blocks need no marks. -/
theorem Opens.any_isMark {inside : List Char} {c : Condition} (h : Opens inside c) :
    inside.any isMark = false := by
  apply any_isMark_of_trim
  have hif : "if ".toList.any isMark = false := by decide
  have hnot : "not ".toList.any isMark = false := by decide
  cases h with
  | plain blanks name hblanks hname htag =>
    rw [htag]
    simp only [List.any_append, hif, any_isMark_of_allBlank hblanks, any_isMark_name hname,
      Bool.or_self]
  | negated blanks blanks' name hblanks hblanks' hname htag =>
    rw [htag]
    simp only [List.any_append, hif, hnot, any_isMark_of_allBlank hblanks,
      any_isMark_of_allBlank hblanks', any_isMark_name hname, Bool.or_self]

theorem IsElse.any_isMark {inside : List Char} (h : IsElse inside) :
    inside.any isMark = false := by
  apply any_isMark_of_trim
  rw [h]
  decide

theorem IsEndif.any_isMark {inside : List Char} (h : IsEndif inside) :
    inside.any isMark = false := by
  apply any_isMark_of_trim
  rw [h]
  decide

/-- A line with a block alone is recognised, whatever follows it. -/
theorem blockLine?_append {before inside after : List Char}
    (hbefore : ∀ c ∈ before, isLineBlank c = true) (hinside : '%' ∉ inside)
    (hafter : ∀ c ∈ after, isLineBlank c = true) (rest : List Char) :
    blockLine? (before ++ '{' :: '%' :: (inside ++ '%' :: '}' :: (after ++ '\n' :: rest))) =
      some ((Chunk.block inside).source, rest) := by
  have hopen (s : List Char) :
      (before ++ '{' :: s).dropWhile isLineBlank = '{' :: s := by
    rw [List.dropWhile_append_of_pos hbefore]
    rfl
  have hpercent : ∀ c ∈ inside, decide (c ≠ '%') = true := by
    intro c hc
    exact decide_eq_true fun heq => hinside (heq ▸ hc)
  have hclose (s : List Char) :
      (inside ++ '%' :: s).dropWhile (· ≠ '%') = '%' :: s := by
    rw [List.dropWhile_append_of_pos hpercent]
    rfl
  have htag (s : List Char) : (inside ++ '%' :: s).takeWhile (· ≠ '%') = inside := by
    rw [List.takeWhile_append_of_pos hpercent]
    simp
  have hend : (after ++ '\n' :: rest).dropWhile isLineBlank = '\n' :: rest := by
    rw [List.dropWhile_append_of_pos hafter]
    rfl
  simp only [blockLine?, hopen, hclose, htag, hend]

/-- The text does not open a block. -/
def OpensNoBlock (s : List Char) : Prop :=
  ∀ before after, s ≠ before ++ '{' :: '%' :: after

/-- There is no block alone on the line if none is opened up to the line break. -/
theorem OpensNoBlock.blockLine? {s : List Char} (hs : OpensNoBlock s) (rest : List Char) :
    blockLine? (s ++ '\n' :: rest) = none := by
  rcases hline : Template.blockLine? (s ++ '\n' :: rest) with _ | ⟨tag, behind⟩
  · rfl
  · obtain ⟨blanks, inside, after, hsplit, hblanks, -, -⟩ := exists_of_blockLine? hline
    rcases List.append_eq_append_iff.mp hsplit with ⟨more, rfl, hmore⟩ | ⟨part, hpart, hrest⟩
    · -- The white space would go on behind the end of the line.
      cases more with
      | nil => simp at hmore
      | cons c more =>
        obtain ⟨rfl, -⟩ := List.cons.inj hmore
        have hbreak : isLineBlank '\n' = true := hblanks '\n' (by simp)
        contradiction
    · -- The block would be opened in the text, or its opening would hold the line break.
      match part with
      | [] => simp at hrest
      | [c] => simp at hrest
      | c :: d :: part =>
        obtain ⟨rfl, rfl, -⟩ : '{' = c ∧ '%' = d ∧ _ := by simpa using hrest
        exact absurd hpart (hs blanks part)

/-- Such a text is kept up to its line break. -/
theorem OpensNoBlock.withoutBlockLines {s : List Char} (hs : OpensNoBlock s) (atStart : Bool)
    (rest : List Char) :
    withoutBlockLines atStart (s ++ '\n' :: rest) = s ++ '\n' :: withoutBlockLines true rest := by
  induction s generalizing atStart with
  | nil => exact withoutBlockLines_cons (.inr (hs.blockLine? rest))
  | cons c s ih =>
    have hnone : Template.blockLine? (c :: (s ++ '\n' :: rest)) = none := hs.blockLine? rest
    have htail : OpensNoBlock s := by
      intro before after heq
      exact hs (c :: before) after (congrArg (c :: ·) heq)
    rw [List.cons_append, withoutBlockLines_cons (.inr hnone), ih htail]
    rfl

theorem ContentLine.opensNoBlock (content : ContentLine) :
    OpensNoBlock (sourceOf content.spans) := by
  intro before after hsource
  obtain ⟨a, inside, b, hspans, -⟩ := exists_block_of_opening content.separated hsource
  exact content.isSpan (.block inside) (by simp [hspans])

/-- A text at the beginning of a line comes to a row: the source of the row is what is left of the
    text, and the row can be told apart in it when the texts that meet are joined. -/
structure ComesTo (s : List Char) (cs : List Chunk) : Prop where
  source : ∀ rest, withoutBlockLines true (s ++ rest) = sourceOf cs ++ withoutBlockLines true rest
  separated : ∀ ds, Separated ds → Separated (mergeOnto cs ds)

namespace ComesTo

theorem nil : ComesTo [] [] :=
  ⟨fun _ => rfl, fun _ hds => hds⟩

theorem append {s s' : List Char} {cs cs' : List Chunk} (h : ComesTo s cs) (h' : ComesTo s' cs') :
    ComesTo (s ++ s') (cs ++ cs') := by
  constructor
  · intro rest
    rw [List.append_assoc, h.source, h'.source, ← List.append_assoc]
    simp [sourceOf]
  · intro ds hds
    rw [mergeOnto_append]
    exact h.separated _ (h'.separated ds hds)

/-- A line with a block comes to the block alone. -/
theorem block {form : List Char → Prop} {s : List Char} (h : BlockLine form s)
    (hform : ∀ inside, form inside → inside.any isMark = false) :
    ∃ inside, form inside ∧ ComesTo s [.block inside] := by
  cases h with
  | @intro before inside after hbefore hinside hafter =>
    have hmarks := hform inside hinside
    refine ⟨inside, hinside, fun rest => ?_, fun ds hds => ⟨hmarks, hds⟩⟩
    have hline := blockLine?_append hbefore (not_mem_of_any_isMark hmarks rfl) hafter rest
    have hsource : before ++ (Chunk.block inside).source ++ (after ++ ['\n']) ++ rest =
        before ++ '{' :: '%' :: (inside ++ '%' :: '}' :: (after ++ '\n' :: rest)) := by
      simp [Chunk.source]
    rw [hsource, withoutBlockLines_of_blockLine? hline]
    simp [sourceOf]

/-- A content line comes to its text and slots and the line break. -/
theorem content (content : ContentLine) :
    ComesTo (sourceOf content.spans ++ ['\n']) (content.spans ++ [.text ['\n']]) := by
  constructor
  · intro rest
    have hline := content.opensNoBlock.withoutBlockLines true rest
    simpa [sourceOf, Chunk.source] using hline
  · intro ds hds
    have hbreak : Separated (addText ['\n'] ds) :=
      separated_addText (by simp) rfl hds (.inl (by simp))
    have hhead : (sourceOf (addText ['\n'] ds)).head? = some '\n' := by
      rw [sourceOf_addText]
      rfl
    rw [mergeOnto_append]
    exact separated_mergeOnto content.separated hbreak hhead

end ComesTo

/-! ## The template of a layout -/

/-- Texts and slots in front of a template. -/
def addSpans : List Chunk → Template → Template
  | [], t => t
  | .text s :: spans, t => .text (String.ofList s) (addSpans spans t)
  | .slot inside :: spans, t => .slot (String.ofList (trim inside)) (addSpans spans t)
  | .block _ :: spans, t => addSpans spans t

/-- The template of a layout, in which every content line ends with a text of its own. -/
def Layout.template : Layout → Template
  | .done => .done
  | .line content rest => addSpans content.spans (.text "\n" rest.template)
  | .branch c yes no rest => .branch c.name c.negated yes.template no.template rest.template

theorem derives_addSpans {spans cs : List Chunk} {t : Template}
    (hspans : ∀ span ∈ spans, span.IsSpan) (h : Derives cs t) :
    Derives (spans ++ cs) (addSpans spans t) := by
  induction spans with
  | nil => exact h
  | cons span spans ih =>
    rw [List.forall_mem_cons] at hspans
    have hrest := ih hspans.2
    cases span with
    | text s => exact .text s hrest
    | slot inside => exact .slot hspans.1 hrest
    | block inside => exact absurd hspans.1 id

/-- A text that writes a layout comes to a row that is its template. -/
theorem exists_comesTo {layout : Layout} {s : List Char} (h : LaysOut layout s) :
    ∃ cs, Derives cs layout.template ∧ ComesTo s cs := by
  -- By induction on how the text is put together from lines. Each part of the text comes to a row
  -- of its own, and the rows are put together alike.
  induction h with
  | done => exact ⟨[], .nil, .nil⟩
  | line content _ ih =>
    obtain ⟨cs, hderives, hcomes⟩ := ih
    have hbreak : Derives ([.text ['\n']] ++ cs) _ := .text ['\n'] hderives
    refine ⟨_, derives_addSpans content.isSpan hbreak, ?_⟩
    rw [← List.append_assoc]
    exact (ComesTo.content content).append hcomes
  | branch hopening _ hfinish _ ihYes ih =>
    obtain ⟨yes, hyes, hyesComes⟩ := ihYes
    obtain ⟨cs, hderives, hcomes⟩ := ih
    obtain ⟨opening, hopens, hopeningComes⟩ := ComesTo.block hopening fun _ h => h.any_isMark
    obtain ⟨finish, hends, hfinishComes⟩ := ComesTo.block hfinish fun _ h => h.any_isMark
    refine ⟨_, .branch hopens hyes hends hderives, ?_⟩
    have hwhole := ((hopeningComes.append hyesComes).append hfinishComes).append hcomes
    simpa using hwhole
  | branchElse hopening _ hmiddle _ hfinish _ ihYes ihNo ih =>
    obtain ⟨yes, hyes, hyesComes⟩ := ihYes
    obtain ⟨no, hno, hnoComes⟩ := ihNo
    obtain ⟨cs, hderives, hcomes⟩ := ih
    obtain ⟨opening, hopens, hopeningComes⟩ := ComesTo.block hopening fun _ h => h.any_isMark
    obtain ⟨middle, hparts, hmiddleComes⟩ := ComesTo.block hmiddle fun _ h => h.any_isMark
    obtain ⟨finish, hends, hfinishComes⟩ := ComesTo.block hfinish fun _ h => h.any_isMark
    refine ⟨_, .branchElse hopens hyes hparts hno hends hderives, ?_⟩
    have hwhole := (((hopeningComes.append hyesComes).append
      (hmiddleComes.append hnoComes)).append hfinishComes).append hcomes
    simpa using hwhole

/-- The source of a layout compiles to a template that prints the same as that of the layout. -/
theorem compile_laidOut {source : String} {layout : Layout} (h : LaysOut layout source.toList) :
    ∃ t, compile source = .ok t ∧ PrintsAlike t layout.template := by
  obtain ⟨cs, hderives, hcomes⟩ := exists_comesTo h
  obtain ⟨t, ht, halike⟩ := exists_derives_merge hderives
  have hseparated : Separated (merge cs) := hcomes.separated [] trivial
  have hsource : withoutBlockLines true source.toList = sourceOf (merge cs) := by
    have hwhole := hcomes.source []
    rw [List.append_nil, withoutBlockLines_nil, List.append_nil] at hwhole
    rw [hwhole, sourceOf_merge]
  have hchunks : chunksOf source.toList = .ok (merge cs) := by
    rw [chunksOf, hsource, chunks_sourceOf hseparated]
    simp only [find?_isUnclosed hseparated]
  refine ⟨t, ?_, halike⟩
  rw [compile, hchunks]
  exact ofChunks_eq_ok_iff.mpr ht

/-! ## Printing -/

section

variable {context : Context}

theorem valueText_eq {name : String} {v : Value} (h : context.lookup name = some v) :
    valueText context name = v.text := by
  rw [valueText, h]
  rfl

theorem Condition.holds_eq {c : Condition} {v : Value} (h : context.lookup c.name = some v) :
    c.holds context = (v.truth != c.negated) := by
  rw [holds, h]
  rfl

theorem print_addSpans {spans : List Chunk} {t : Template} {text : String}
    (hspans : ∀ span ∈ spans, span.IsSpan)
    (hdefined : ∀ name ∈ spans.filterMap Chunk.variable?, (context.lookup name).isSome)
    (ht : t.print context = .ok text) :
    (addSpans spans t).print context =
      .ok (String.join (spans.map (·.shown context)) ++ text) := by
  induction spans with
  | nil => simpa [addSpans] using ht
  | cons span spans ih =>
    rw [List.forall_mem_cons] at hspans
    rw [List.map_cons, String.join_cons, String.append_assoc]
    cases span with
    | text s =>
      have hrest := ih hspans.2 hdefined
      rw [addSpans, print_text, hrest]
      rfl
    | slot inside =>
      have hnames : (Chunk.slot inside :: spans).filterMap Chunk.variable? =
          String.ofList (trim inside) :: spans.filterMap Chunk.variable? := rfl
      rw [hnames, List.forall_mem_cons] at hdefined
      obtain ⟨v, hv⟩ := Option.isSome_iff_exists.mp hdefined.1
      have hrest := ih hspans.2 hdefined.2
      rw [addSpans, print_slot hv, hrest, Chunk.shown, valueText_eq hv]
      rfl
    | block inside => exact absurd hspans.1 id

/-- Where all names that are reached have values, the template of a layout prints the content lines
    of the branches that are taken. -/
theorem print_template {layout : Layout}
    (h : ∀ name ∈ layout.reached context, (context.lookup name).isSome) :
    layout.template.print context = .ok (layout.shown context) := by
  induction layout with
  | done => rfl
  | line content rest ih =>
    simp only [Layout.reached, List.forall_mem_append] at h
    have hrest : (Template.text "\n" rest.template).print context =
        .ok ("\n" ++ rest.shown context) := by
      rw [print_text, ih h.2]
      rfl
    have hshown : (Layout.line content rest).shown context =
        content.shown context ++ rest.shown context := by
      simp [Layout.shown, Layout.taken]
    rw [Layout.template, print_addSpans content.isSpan h.1 hrest, hshown, ContentLine.shown,
      String.append_assoc]
  | branch c yes no rest ihYes ihNo ih =>
    rw [Layout.reached, List.cons_append, List.forall_mem_cons, List.forall_mem_append] at h
    obtain ⟨hname, hpart, hrest⟩ := h
    obtain ⟨v, hv⟩ := Option.isSome_iff_exists.mp hname
    have hshown : (Layout.branch c yes no rest).shown context =
        (if c.holds context then yes.shown context else no.shown context) ++
          rest.shown context := by
      simp only [Layout.shown, Layout.taken]
      split <;> simp
    rw [Layout.template, print_branch hv, ← Condition.holds_eq hv, ih hrest, hshown]
    -- Of the two parts only the one that is taken is reached.
    cases hholds : c.holds context with
    | true =>
      have hyes := ihYes (by simpa [hholds] using hpart)
      rw [cond_true, hyes]
      rfl
    | false =>
      have hno := ihNo (by simpa [hholds] using hpart)
      rw [cond_false, hno]
      rfl

end

/-- A source that is laid out in lines compiles. Its template is filled with any values by the
    content lines of the branches that are taken, in order, each with its variables replaced and its
    own line break. The context has to give values to the names that are reached, and to leave the
    template's own word alone. -/
theorem fill_laidOut {source : String} {layout : Layout} (h : LaysOut layout source.toList) :
    ∃ t, compile source = .ok t ∧ ∀ context : Context,
      context.lookup FillError.ownWord = none →
      (∀ name ∈ layout.reached context, (context.lookup name).isSome) →
      t.fill context = .ok (layout.shown context) := by
  obtain ⟨t, hcompile, halike⟩ := compile_laidOut h
  refine ⟨t, hcompile, ?_⟩
  intro context hown hreached
  rw [fill_eq_print hown, halike context, print_template hreached]

/-- A branch in the second part of another one, with blocks on neighbouring lines, and an empty
    content line. The variable in the first part needs no value, for that part is not taken. -/
theorem fill_laidOut_nested :
    let source := "void \x7b\x7b name \x7d\x7d() \x7b\n  \x7b% if quiet %\x7d\t\n" ++
      "\x7b\x7b level \x7d\x7d\n  \x7b% else %\x7d\n\x7b%if not done%\x7d\n\n  run();\n" ++
      " \x7b% endif %\x7d \n\x7b%endif%\x7d\n\x7d\n"
    let context := [("name", Value.str "start"), ("quiet", .bool false), ("done", .bool false)]
    ∃ layout, LaysOut layout source.toList ∧
      (∀ name ∈ layout.reached context, (context.lookup name).isSome) ∧
      ∃ t, compile source = .ok t ∧
        t.fill context = .ok "void start() \x7b\n\n  run();\n\x7d\n" := by
  intro source context
  let head : ContentLine :=
    ⟨[.text "void ".toList, .slot " name ".toList, .text "() \x7b".toList], by decide, by decide⟩
  let level : ContentLine := ⟨[.slot " level ".toList], by decide, by decide⟩
  let empty : ContentLine := ⟨[], by decide, by decide⟩
  let run : ContentLine := ⟨[.text "  run();".toList], by decide, by decide⟩
  let last : ContentLine := ⟨[.text "\x7d".toList], by decide, by decide⟩
  let layout : Layout :=
    .line head (.branch ⟨"quiet", false⟩ (.line level .done)
      (.branch ⟨"done", true⟩ (.line empty (.line run .done)) .done .done) (.line last .done))
  have hnone : ∀ c ∈ [], isLineBlank c = true := by simp
  have hspace : ∀ c ∈ [' '], isLineBlank c = true := by simp [isLineBlank]
  have hspaces : ∀ c ∈ [' ', ' '], isLineBlank c = true := by simp [isLineBlank]
  have htab : ∀ c ∈ ['\t'], isLineBlank c = true := by simp [isLineBlank]
  have hquiet : Opens " if quiet ".toList ⟨"quiet", false⟩ :=
    exists_read_eq_opens_iff.mp ⟨"quiet", by decide +kernel⟩
  have hdone : Opens "if not done".toList ⟨"done", true⟩ :=
    exists_read_eq_opens_iff.mp ⟨"not done", by decide +kernel⟩
  have helse : IsElse " else ".toList := (by decide : trim " else ".toList = _)
  have hendif : IsEndif " endif ".toList := (by decide : trim " endif ".toList = _)
  have hendif' : IsEndif "endif".toList := (by decide : trim "endif".toList = _)
  have hinner : LaysOut (.branch ⟨"done", true⟩ (.line empty (.line run .done)) .done .done) _ :=
    .branch (.intro hnone hdone hnone) (.line empty (.line run .done))
      (.intro hspace hendif hspace) .done
  have hwhole : LaysOut layout _ :=
    .line head (.branchElse (.intro hspaces hquiet htab) (.line level .done)
      (.intro hspaces helse hnone) hinner (.intro hnone hendif' hnone) (.line last .done))
  have hlaysOut : LaysOut layout source.toList :=
    Eq.subst (motive := LaysOut layout) (by decide +kernel) hwhole
  have hreached : ∀ name ∈ layout.reached context, (context.lookup name).isSome := by
    decide +kernel
  obtain ⟨t, hcompile, hfill⟩ := fill_laidOut hlaysOut
  have hshown : layout.shown context = "void start() \x7b\n\n  run();\n\x7d\n" := by
    decide +kernel
  exact ⟨layout, hlaysOut, hreached, t, hcompile, hshown ▸ hfill context rfl hreached⟩

end DataMethods.Template
