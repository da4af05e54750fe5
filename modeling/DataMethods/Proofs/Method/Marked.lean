import DataMethods.Proofs.ImportTable.Expressions
import DataMethods.Proofs.ImportTable.Reprinted
import DataMethods.Proofs.Method.Refused
import DataMethods.Settings.Build

/-!
# Marked arguments

The marker of an argument goes through three hands: the method says whether the argument has one,
the settings say which, and the header leaves it out if what the table prints for it is empty. A
table prints nothing only for a text that is white space. So an argument that is to be marked is
marked, unless the settings give white space for the marker, which they accept.

## Key results

- `request_eq_empty_iff`: a table prints the empty text for white space and for nothing else
- `render_marks_argument`: the parameter of every method that is written, with its marker
-/

namespace DataMethods

open DataMethods.TypeName Rendering

/-! ## Empty texts -/

namespace ImportTable

theorem short_ne_empty {raw : String} {q : QualifiedName} (h : QualifiedName.ofRaw? raw = some q) :
    q.short ≠ "" := by
  obtain ⟨package, outer, nested, -, houter, -, rfl⟩ := QualifiedName.segments_of_ofRaw? h
  obtain ⟨rest, hrest⟩ := QualifiedName.short_eq_append
    ⟨⟨QualifiedName.dotted package, String.ofList outer⟩, nested.map String.ofList⟩
  rw [hrest]
  simp [houter]

/-- Names are printed as names. -/
theorem printName_eq_empty_iff {t : ImportTable} {raw : String} :
    (t.printName raw).1 = "" ↔ raw = "" := by
  rcases printName_eq_or_short t raw with hraw | ⟨q, hq, hshort, -⟩
  · rw [hraw]
  · have hne : raw ≠ "" := by
      rintro rfl
      simp [QualifiedName.ofRaw?] at hq
    rw [hshort]
    exact iff_of_false (short_ne_empty hq) hne

/-- A mark is printed, whatever stands around it. -/
theorem printPieces_ne_empty {t : ImportTable} {pieces : List Piece} {text : String}
    (hmem : .mark text ∈ pieces) (hne : text ≠ "") : (t.printPieces pieces).1 ≠ "" := by
  obtain ⟨before, after, rfl⟩ := List.append_of_mem hmem
  rw [printPieces_append]
  simp [printPieces, String.append_eq_empty_iff, hne]

end ImportTable

theorem TypeName.Reading.pieces_andThen {a b : Reading} (h : a.fault = none) :
    (a.andThen b).pieces = a.pieces ++ b.pieces := by
  rw [Reading.andThen, h]

namespace ImportTable

/-- Of all texts that are types, only the empty one is printed as the empty text. -/
theorem printPieces_read_eq_empty_iff (t : ImportTable) {s : List Char}
    (h : (read s).fault = none) : (t.printPieces (read s).pieces).1 = "" ↔ s = [] := by
  -- By cases on how the text is taken apart. All forms but the raw name print a mark.
  induction s using read_induction with
  | bounded b rest =>
    have hne : b.lead ≠ "" := by cases b <;> decide
    rw [read_lead, Reading.pieces_andThen rfl]
    refine iff_of_false (printPieces_ne_empty (List.mem_append_left _ List.mem_cons_self) hne) ?_
    simp [hne]
  | wildcard =>
    rw [read_wildcard]
    exact iff_of_false (printPieces_ne_empty List.mem_cons_self (by decide)) (by decide)
  | dimension rest d hw =>
    have hne : d.text ≠ "" := by cases d <;> decide
    have hrest : (read (Text.trimRight rest)).fault = none := (read_dimension_fault_iff hw).mp h
    rw [hw.read_dimension, Reading.pieces_andThen hrest]
    refine iff_of_false (printPieces_ne_empty (List.mem_append_right _ List.mem_cons_self) hne) ?_
    simp [hne]
  | raw s hm hopen =>
    rw [hm.read_raw hopen]
    simp [Reading.name, printPieces, printName_eq_empty_iff]
  | unclosed head rest hm hhead hc => exact absurd h (read_unclosed_fault_ne_none hm hhead hc)
  | generic head row hm hhead =>
    rw [hm.read_generic hhead] at h ⊢
    have hhead' := (Reading.andThen_fault_eq_none_iff.mp h).1
    rw [Reading.pieces_andThen hhead', Reading.pieces_andThen rfl]
    have hopen : Piece.mark "<" ∈
        (read (Text.trim head)).pieces ++ ([.mark "<"] ++ (readArguments row).pieces) :=
      List.mem_append_right _ List.mem_cons_self
    exact iff_of_false (printPieces_ne_empty hopen (by decide)) (by simp)

/-- A table prints the empty text for white space, and for nothing else. -/
theorem request_eq_empty_iff {t : ImportTable} {type text : String}
    (h : (t.request type).outcome = .ok text) :
    text = "" ↔ Text.AllBlank type.toList := by
  have hread : (read (Text.trim type.toList)).fault = none ∧
      (t.printPieces (read (Text.trim type.toList)).pieces).1 = text := by
    simp only [request] at h
    cases hfault : (read (Text.trim type.toList)).fault with
    | some fault => simp [hfault] at h
    | none => exact ⟨rfl, by simpa [hfault] using h⟩
  rw [← hread.2, printPieces_read_eq_empty_iff t hread.1, Text.trim_eq_nil_iff]

end ImportTable

namespace Method

/-! ## The header -/

/-- The header of a method with the given parameters. -/
def headerWith (settings : Settings) (m : MethodSpec) (entity uni parameters : String) : String :=
  "\n" ++ (if settings.emitOverride && m.overrides then "@Override\n" else "") ++
  "public " ++ resultText m entity uni ++ " " ++ m.methodName ++ "(" ++ parameters ++ ") \x7b\n"

theorem headerText_eq_headerWith (settings : Settings) (m : MethodSpec)
    (entity uni nonnull : String) :
    headerText settings m entity uni nonnull = headerWith settings m entity uni
      ((if m.marksNonnull = true ∧ nonnull ≠ "" then "@" ++ nonnull ++ " " else "") ++
        entity ++ " " ++ m.argumentName) := by
  unfold headerText headerWith
  simp only [String.append_assoc]

/-- What the table has printed for the types in a header, it prints for them at the end. -/
theorem requests_of_printTypes {settings : Settings} {m : MethodSpec} {run last : Run ImportTable}
    {types : PrintedTypes} (h : (printTypes settings m).exec run = (.ok types, last)) :
    last.names.request m.entityType = ⟨.ok types.entity, last.names, []⟩ ∧
    (m.style = .reactive →
      last.names.request Session.uniType = ⟨.ok types.uni, last.names, []⟩) ∧
    (m.marksNonnull = true →
      last.names.request settings.nonnullMarker = ⟨.ok types.nonnull, last.names, []⟩) := by
  simp only [printTypes, exec_bind_eq_ok_iff] at h
  obtain ⟨_, _, -, _, _, -, entity, run₁, hentity, uni, run₂, huni, nonnull, run₃, hnonnull,
    _, run₄, hchoice, failures, run₅, hfailures, h⟩ := h
  cases h
  -- What is done behind a request makes the table grow, and the answer stays.
  have hentity' : run₁.names.GrowsTo run₂.names := by
    have hprint : Composed (printUni m : Rendering ImportTable String) :=
      .ite (.printType _) (.pure _)
    exact hprint.growsTo_of_exec huni
  have hnonnull' : run₂.names.GrowsTo run₃.names := by
    have hprint : Composed (printNonnull settings m : Rendering ImportTable String) :=
      .ite (.printType _) (.pure _)
    exact hprint.growsTo_of_exec hnonnull
  have hrest : run₃.names.GrowsTo last.names := by
    have hnote : Composed (noteChoice m : Rendering ImportTable Unit) :=
      .ite (.note _ rfl) (.pure ())
    have hmappings : Composed (printFailures settings m : Rendering ImportTable _) :=
      .ite (.mapM (fun _ => .bind (.printType _) fun _ => .bind (.printType _) fun _ => .pure _) _)
        (.pure [])
    exact (hnote.growsTo_of_exec hchoice).trans (hmappings.growsTo_of_exec hfailures)
  refine ⟨request_of_exec_printType hentity ((hentity'.trans hnonnull').trans hrest), ?_, ?_⟩
  · intro hstyle
    rw [printUni, if_pos hstyle] at huni
    exact request_of_exec_printType huni (hnonnull'.trans hrest)
  · intro hmarks
    rw [printNonnull, if_pos hmarks] at hnonnull
    exact request_of_exec_printType hnonnull hrest

/-- A method that needs no list asks for the type of its argument before all others. -/
theorem entity_of_printTypes {settings : Settings} {m : MethodSpec} {t : ImportTable}
    {types : PrintedTypes} {run : Run ImportTable} (hkind : m.kind ≠ .array)
    (h : (printTypes settings m).start t = (.ok types, run)) :
    (t.request m.entityType).outcome = .ok types.entity := by
  have hlist : (printList m : Rendering ImportTable String) = pure "" :=
    if_neg fun hlists => hkind hlists.1
  simp only [printTypes, start_eq_exec, exec_bind_eq_ok_iff, hlist, exec_pure, exec_note] at h
  obtain ⟨_, _, hstart, _, _, hnote, entity, _, hentity, _, _, -, _, _, -, _, _, -, _, _, -, h⟩ := h
  cases h
  cases hstart
  cases hnote
  exact outcome_printType_eq_ok_iff.mp (congrArg Prod.fst hentity)

/-- The header of a method that is written shows its types. -/
theorem header_of_renderParts {settings : Settings} {m : MethodSpec} {t : ImportTable}
    {parts : List (MethodPart × String)} {run : Run ImportTable}
    (h : (renderParts settings m).start t = (.ok parts, run)) :
    ∃ types, (printTypes settings m).start t = (.ok types, run) ∧
      parts.lookup .header = some (headerWith settings m types.entity types.uni
        ((if m.marksNonnull = true ∧ types.nonnull ≠ "" then "@" ++ types.nonnull ++ " " else "") ++
          types.entity ++ " " ++ m.argumentName)) := by
  obtain ⟨types, htypes, rfl⟩ := exists_types_of_renderParts h
  refine ⟨types, htypes, ?_⟩
  rw [← headerText_eq_headerWith]
  rfl

/-- A method is written if there is no bracket in the types that the user gives. -/
theorem exists_renderParts_of_not_mem {settings : Settings} {m : MethodSpec}
    (hentity : '<' ∉ m.entityType.toList) (hmarker : '<' ∉ settings.nonnullMarker.toList)
    (t : ImportTable) : ∃ parts run, (renderParts settings m).start t = (.ok parts, run) := by
  have hnone : userFault? settings m = none := by
    simp [userFault?, fault?_of_not_mem hentity, fault?_of_not_mem hmarker]
  have hends := printTypes_endsIn settings m (Run.start t)
  rw [hnone, ← start_eq_exec] at hends
  obtain ⟨types, htypes⟩ := hends
  exact ⟨_, _, renderParts_of_printTypes (Prod.ext htypes rfl)⟩

/-- The parameter of a method that is written stands there by the type that the table prints for it
    and its name. If the method does not mark it, there is nothing else. If the method does, the
    printed marker stands in front of both, unless it is empty, and it is empty if and only if the
    settings give white space for it. -/
theorem render_marks_argument (settings : Settings) (m : MethodSpec) (t : ImportTable)
    {parts : List (MethodPart × String)} {run : Run ImportTable}
    (h : (renderParts settings m).start t = (.ok parts, run)) :
    ∃ entity uni, run.names.request m.entityType = ⟨.ok entity, run.names, []⟩ ∧
      (m.style = .reactive → run.names.request Session.uniType = ⟨.ok uni, run.names, []⟩) ∧
      (m.marksNonnull = false →
        parts.lookup .header =
          some (headerWith settings m entity uni (entity ++ " " ++ m.argumentName))) ∧
      (m.marksNonnull = true →
        ∃ marker, run.names.request settings.nonnullMarker = ⟨.ok marker, run.names, []⟩ ∧
          (marker = "" ↔ Text.AllBlank settings.nonnullMarker.toList) ∧
          (marker ≠ "" → parts.lookup .header = some (headerWith settings m entity uni
            ("@" ++ marker ++ " " ++ entity ++ " " ++ m.argumentName))) ∧
          (marker = "" → parts.lookup .header = some (headerWith settings m entity uni
            (entity ++ " " ++ m.argumentName)))) := by
  obtain ⟨types, htypes, hheader⟩ := header_of_renderParts h
  obtain ⟨hentity, huni, hnonnull⟩ := requests_of_printTypes htypes
  refine ⟨types.entity, types.uni, hentity, huni, ?_, ?_⟩
  · intro hmarks
    simp [hheader, hmarks]
  · intro hmarks
    have hempty := ImportTable.request_eq_empty_iff (congrArg Answer.outcome (hnonnull hmarks))
    refine ⟨types.nonnull, hnonnull hmarks, hempty, ?_, ?_⟩
    · intro hne
      simp [hheader, hmarks, hne]
    · intro hblank
      simp [hheader, hmarks, hblank]

/-- The sample insertion has a marked argument. -/
theorem render_marks_argument_insertBook :
    ∃ parts run entity uni marker,
      (renderParts recovering Sample.insertBook).start (ImportTable.empty "org.example") =
        (.ok parts, run) ∧
      Sample.insertBook.marksNonnull = true ∧ marker ≠ "" ∧
      run.names.request Sample.insertBook.entityType = ⟨.ok entity, run.names, []⟩ ∧
      run.names.request recovering.nonnullMarker = ⟨.ok marker, run.names, []⟩ ∧
      parts.lookup .header = some (headerWith recovering Sample.insertBook entity uni
        ("@" ++ marker ++ " " ++ entity ++ " " ++ Sample.insertBook.argumentName)) := by
  obtain ⟨parts, run, hparts⟩ := exists_renderParts_of_not_mem
    (by decide : '<' ∉ Sample.insertBook.entityType.toList)
    (by decide : '<' ∉ recovering.nonnullMarker.toList) (ImportTable.empty "org.example")
  obtain ⟨entity, uni, hentity, -, -, hmarked⟩ := render_marks_argument _ _ _ hparts
  obtain ⟨marker, hmarker, hempty, hheader, -⟩ := hmarked rfl
  have hne : marker ≠ "" := by
    rw [Ne, hempty]
    decide
  exact ⟨parts, run, entity, uni, marker, hparts, rfl, hne, hentity, hmarker, hheader hne⟩

/-- A blank for the marker. -/
def blankMarked : Settings := ⟨" ", "\t", .pass, true, by decide⟩

/-- The settings accept a blank for the marker, and an argument that has to be marked is not. -/
theorem render_blankMarked :
    Settings.build [("nonnull_annotation", .str " ")] [] = .ok blankMarked ∧
    Sample.insertBook.marksNonnull = true ∧
    ∃ parts run,
      (renderParts blankMarked Sample.insertBook).start (ImportTable.empty "org.example") =
        (.ok parts, run) ∧
      parts.lookup .header = some "\n@Override\npublic void insert(Book book) \x7b\n" := by
  refine ⟨rfl, rfl, ?_⟩
  obtain ⟨parts, run, hparts⟩ := exists_renderParts_of_not_mem
    (by decide : '<' ∉ Sample.insertBook.entityType.toList)
    (by decide : '<' ∉ blankMarked.nonnullMarker.toList) (ImportTable.empty "org.example")
  obtain ⟨⟨list, entity, uni, nonnull, failures⟩, htypes, hheader⟩ := header_of_renderParts hparts
  obtain ⟨-, -, hnonnull⟩ := requests_of_printTypes htypes
  have hblank : nonnull = "" :=
    (ImportTable.request_eq_empty_iff (congrArg Answer.outcome (hnonnull rfl))).mpr (by decide)
  have hentity : entity = "Book" := by
    have hbook : ((ImportTable.empty "org.example").request "org.example.Book").outcome =
        .ok "Book" := by decide +kernel
    exact Except.ok.inj ((entity_of_printTypes (by decide) htypes).symm.trans hbook)
  subst hblank hentity
  exact ⟨parts, run, hparts, hheader⟩

end Method

end DataMethods
