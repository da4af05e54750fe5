import DataMethods.MethodSpec.Fields
import DataMethods.Proofs.Text.Trim

/-!
# The rules of specifications

A specification is accepted if what is handed in for its fields keeps a handful of rules.
`SpecRule.all` is the order in which the rules are looked at, `RawSpec.Keeps` says what each of them
asks for, and `RawSpec.complaint` what is reported where it is broken. Whatever is handed in, the
first broken rule in this order is the one that is reported, and what keeps all rules is a method's
own, with nothing changed.

The report of an unknown operation shows what was handed in for it. Where showing it raises
something, this comes in place of the report. Values and kinds of argument can always be shown, so
nothing but a broken rule is reported for them.

## Key results

- `Checks.bind`: checks made one after the other report the first broken rule of all
- `checks_check`: the rules of a specification and their order
- `ofFields_first_broken`: what describes a method, which method, and what is wrong otherwise
-/

namespace DataMethods

/-- What has to hold of what is handed in for a specification. -/
inductive SpecRule where
  /-- The operation is the word for one of those that there are. -/
  | knownOperation
  /-- The kind of the argument is one of those that there are. The word for one is not. -/
  | knownKind
  /-- The field has a usable name. -/
  | name (field : SpecField)
  /-- The field has a text with something in it. -/
  | type (field : SpecField)
  /-- No list is upserted. -/
  | noListUpsert
deriving Repr, DecidableEq

/-- All rules, in the order in which they are looked at. -/
def SpecRule.all : List SpecRule :=
  [.knownOperation, .knownKind, .name .methodName, .name .argumentName, .name .sessionName,
   .type .entityType, .type .sessionType, .noListUpsert]

/-! ## Words and texts -/

theorem Operation.ofWord?_eq_some_iff {word : String} {operation : Operation} :
    ofWord? word = some operation ↔ word = operation.word := by
  constructor
  · intro h
    have hword := List.find?_some h
    exact (eq_of_beq hword).symm
  · rintro rfl
    cases operation <;> decide

theorem isUsableName_iff {name : String} :
    isUsableName name = true ↔ hasNameForm name = true ∧ name ∉ reservedWords := by
  simp [isUsableName]

theorem isNonblank_iff {text : String} :
    isNonblank text = true ↔ ∃ c ∈ text.toList, Text.isBlank c = false := by
  have hnot : isNonblank text = true ↔ ¬ Text.trim text.toList = [] := by simp [isNonblank]
  rw [hnot, Text.trim_eq_nil_iff]
  simp [Text.AllBlank]

namespace RawSpec

/-! ## Rules -/

/-- What is handed in for a field. -/
def value (raw : RawSpec) : SpecField → FieldValue
  | .entityType => raw.entityType
  | .methodName => raw.methodName
  | .argumentName => raw.argumentName
  | .sessionName => raw.sessionName
  | .sessionType => raw.sessionType
  | .operation => raw.operation
  | .marksNonnull => .bool raw.marksNonnull
  | .kind => raw.kind
  | .returnsArgument => .bool raw.returnsArgument
  | .generatesIdentifier => .bool raw.generatesIdentifier
  | .overrides => .bool raw.overrides

/-- What is handed in, under the names of the fields. -/
def toFields (raw : RawSpec) : List (String × FieldValue) :=
  SpecField.all.map fun field => (field.label, raw.value field)

/-- What is handed in keeps a rule. -/
def Keeps (raw : RawSpec) : SpecRule → Prop
  | .knownOperation => ∃ operation : Operation, raw.operation = .str operation.word
  | .knownKind => ∃ kind : ArgumentKind, raw.kind = .kind kind
  | .name field =>
    ∃ name, raw.value field = .str name ∧ hasNameForm name = true ∧ name ∉ reservedWords
  | .type field =>
    ∃ type, raw.value field = .str type ∧ ∃ c ∈ type.toList, Text.isBlank c = false
  | .noListUpsert =>
    ¬(raw.kind = .kind .list ∧ raw.operation = .str Operation.upsert.word)

/-- What is reported where a rule is broken. -/
def complaint (raw : RawSpec) : SpecRule → DescriptionError
  | .knownOperation =>
    match raw.operation.shown with
    | .ok text => .rule (.unknownOperation text)
    | .error fault => .raised fault
  | .knownKind => .rule (.unknownKind raw.kind.kindName)
  | .name field =>
    match raw.value field with
    | .str name =>
      .rule (if hasNameForm name then .nameReserved field name else .nameForm field name)
    | v => .rule (.nameNotText field v.kindName)
  | .type field => .rule (.typeBlank field)
  | .noListUpsert =>
    -- The name is a text here. If it were not, its own rule would be broken before this one.
    match raw.methodName with
    | .str name => .rule (.listUpsert name)
    | v => .rule (.nameNotText .methodName v.kindName)

/-- Nothing but a broken rule is reported, unless the operation cannot be shown. -/
theorem exists_shown_eq_error_of_complaint {raw : RawSpec} {rule : SpecRule}
    (h : ∀ broken, raw.complaint rule ≠ .rule broken) :
    ∃ fault, raw.operation.shown = .error fault := by
  cases rule with
  | knownOperation =>
    cases hshown : raw.operation.shown with
    | ok text => exact absurd (by rw [complaint, hshown]) (h (.unknownOperation text))
    | error fault => exact ⟨fault, rfl⟩
  | knownKind => exact absurd rfl (h _)
  | name field =>
    rw [complaint] at h
    split at h <;> exact absurd rfl (h _)
  | type field => exact absurd rfl (h _)
  | noListUpsert =>
    rw [complaint] at h
    split at h <;> exact absurd rfl (h _)

/-- The rule is broken, and those before it in the row are kept. -/
def FirstBroken (raw : RawSpec) (rules : List SpecRule) (rule : SpecRule) : Prop :=
  ∃ before after, rules = before ++ rule :: after ∧ (∀ r ∈ before, raw.Keeps r) ∧ ¬ raw.Keeps rule

theorem FirstBroken.unique {raw : RawSpec} {rules : List SpecRule} {rule other : SpecRule}
    (h : raw.FirstBroken rules rule) (hother : raw.FirstBroken rules other) : rule = other := by
  obtain ⟨before, after, hsplit, hkept, hbroken⟩ := h
  obtain ⟨before', after', hsplit', hkept', hbroken'⟩ := hother
  -- Neither rule can stand before the other one, where all rules are kept.
  rcases List.append_eq_append_iff.mp (hsplit.symm.trans hsplit') with
    ⟨_ | ⟨first, more⟩, hbefore, hrest⟩ | ⟨_ | ⟨first, more⟩, hbefore, hrest⟩
  · exact (List.cons.inj hrest).1
  · obtain rfl : rule = first := (List.cons.inj hrest).1
    exact absurd (hkept' rule (by simp [hbefore])) hbroken
  · exact (List.cons.inj hrest).1.symm
  · obtain rfl : other = first := (List.cons.inj hrest).1
    exact absurd (hkept other (by simp [hbefore])) hbroken'

/-! ## Checks -/

/-- The check succeeds if the rules in the row are kept, and complains of the first one that is
    broken otherwise. -/
def Checks {α : Type} (raw : RawSpec) (check : Except DescriptionError α)
    (rules : List SpecRule) : Prop :=
  (∀ rule ∈ rules, raw.Keeps rule) ∧ (∃ a, check = .ok a) ∨
  ∃ rule, raw.FirstBroken rules rule ∧ check = .error (raw.complaint rule)

namespace Checks

variable {α β : Type} {raw : RawSpec}

/-- A check of one rule. -/
theorem single {check : Except DescriptionError α} {rule : SpecRule}
    (hkept : raw.Keeps rule → ∃ a, check = .ok a)
    (hbroken : ¬ raw.Keeps rule → check = .error (raw.complaint rule)) :
    Checks raw check [rule] := by
  by_cases h : raw.Keeps rule
  · exact .inl ⟨by simpa using h, hkept h⟩
  · exact .inr ⟨rule, ⟨[], [], rfl, by simp, h⟩, hbroken h⟩

/-- Rules that are looked at later count only if the earlier ones are kept. -/
theorem bind {check : Except DescriptionError α} {f : α → Except DescriptionError β}
    {xs ys : List SpecRule}
    (h : Checks raw check xs) (hf : ∀ a, check = .ok a → Checks raw (f a) ys) :
    Checks raw (check >>= f) (xs ++ ys) := by
  rcases h with ⟨hkept, a, rfl⟩ | ⟨rule, ⟨before, after, rfl, hkept, hbroken⟩, rfl⟩
  · rcases hf a rfl with ⟨hkept', b, hb⟩ | ⟨rule, ⟨before, after, rfl, hkept', hbroken⟩, herror⟩
    · exact .inl ⟨List.forall_mem_append.mpr ⟨hkept, hkept'⟩, b, hb⟩
    · refine .inr ⟨rule, ⟨xs ++ before, after, by simp, ?_, hbroken⟩, herror⟩
      exact List.forall_mem_append.mpr ⟨hkept, hkept'⟩
  · exact .inr ⟨rule, ⟨before, after ++ ys, by simp, hkept, hbroken⟩, rfl⟩

theorem exists_ok_iff {check : Except DescriptionError α} {rules : List SpecRule}
    (h : Checks raw check rules) :
    (∃ a, check = .ok a) ↔ ∀ rule ∈ rules, raw.Keeps rule := by
  rcases h with ⟨hkept, hok⟩ | ⟨rule, ⟨before, after, rfl, -, hbroken⟩, herror⟩
  · exact ⟨fun _ => hkept, fun _ => hok⟩
  · constructor
    · rintro ⟨a, ha⟩
      rw [ha] at herror
      contradiction
    · intro hkept
      exact absurd (hkept rule (by simp)) hbroken

theorem eq_error_iff {check : Except DescriptionError α} {rules : List SpecRule}
    {e : DescriptionError}
    (h : Checks raw check rules) :
    check = .error e ↔ ∃ rule, raw.FirstBroken rules rule ∧ e = raw.complaint rule := by
  rcases h with ⟨hkept, a, rfl⟩ | ⟨rule, hfirst, rfl⟩
  · constructor
    · intro h
      contradiction
    · rintro ⟨rule, ⟨before, after, rfl, -, hbroken⟩, -⟩
      exact absurd (hkept rule (by simp)) hbroken
  · constructor
    · intro h
      cases h
      exact ⟨rule, hfirst, rfl⟩
    · rintro ⟨other, hother, rfl⟩
      rw [hfirst.unique hother]

end Checks

/-! ### Anything but a text -/

section

variable {field : SpecField} {v : FieldValue}

theorem checkOperation_of_not_text (h : ¬ ∃ text, v = .str text) :
    checkOperation v = .error (.ofOperation v) := by
  rw [checkOperation]
  exact fun text htext => h ⟨text, htext⟩

theorem checkName_of_not_text (h : ¬ ∃ text, v = .str text) :
    checkName field v = .error (.rule (.nameNotText field v.kindName)) := by
  rw [checkName]
  exact fun text htext => h ⟨text, htext⟩

theorem checkType_of_not_text (h : ¬ ∃ text, v = .str text) :
    checkType field v = .error (.rule (.typeBlank field)) := by
  rw [checkType]
  exact fun text htext => h ⟨text, htext⟩

end

/-! ### The rules one by one -/

theorem checkOperation_eq_ok_iff {v : FieldValue} {operation : Operation} :
    checkOperation v = .ok operation ↔ v = .str operation.word := by
  by_cases htext : ∃ word, v = .str word
  · obtain ⟨word, rfl⟩ := htext
    rw [checkOperation, FieldValue.str_inj, ← Operation.ofWord?_eq_some_iff]
    cases Operation.ofWord? word <;> simp
  · rw [checkOperation_of_not_text htext]
    exact ⟨nofun, fun h => absurd ⟨_, h⟩ htext⟩

theorem checkKind_eq_ok_iff {v : FieldValue} {kind : ArgumentKind} :
    checkKind v = .ok kind ↔ v = .kind kind := by
  cases v <;> simp [checkKind]

theorem checkName_eq_ok_iff {field : SpecField} {v : FieldValue}
    {name : { name : String // isUsableName name = true }} :
    checkName field v = .ok name ↔ v = .str name := by
  by_cases htext : ∃ text, v = .str text
  · obtain ⟨text, rfl⟩ := htext
    rw [checkName, FieldValue.str_inj]
    constructor
    · intro h
      split at h
      · split at h
        · contradiction
        · cases h
          rfl
      · contradiction
    · rintro rfl
      obtain ⟨hform, hreserved⟩ := isUsableName_iff.mp name.property
      rw [dif_pos hform, dif_neg (by simpa using hreserved)]
  · rw [checkName_of_not_text htext]
    exact ⟨nofun, fun h => absurd ⟨_, h⟩ htext⟩

theorem checkType_eq_ok_iff {field : SpecField} {v : FieldValue}
    {type : { type : String // isNonblank type = true }} :
    checkType field v = .ok type ↔ v = .str type := by
  by_cases htext : ∃ text, v = .str text
  · obtain ⟨text, rfl⟩ := htext
    rw [checkType, FieldValue.str_inj]
    constructor
    · intro h
      split at h
      · cases h
        rfl
      · contradiction
    · rintro rfl
      rw [dif_pos type.property]
  · rw [checkType_of_not_text htext]
    exact ⟨nofun, fun h => absurd ⟨_, h⟩ htext⟩

variable (raw : RawSpec)

theorem checks_operation : Checks raw (checkOperation raw.operation) [.knownOperation] := by
  refine .single (fun ⟨operation, h⟩ => ?_) fun hbroken => ?_
  · exact ⟨operation, checkOperation_eq_ok_iff.mpr h⟩
  · have hunknown : checkOperation raw.operation = .error (.ofOperation raw.operation) := by
      by_cases htext : ∃ word, raw.operation = .str word
      · obtain ⟨word, hvalue⟩ := htext
        cases hword : Operation.ofWord? word with
        | some operation =>
          rw [Operation.ofWord?_eq_some_iff.mp hword] at hvalue
          exact absurd ⟨operation, hvalue⟩ hbroken
        | none => rw [hvalue, checkOperation, hword]
      · exact checkOperation_of_not_text htext
    rw [hunknown]
    rfl

theorem checks_kind : Checks raw (checkKind raw.kind) [.knownKind] := by
  refine .single (fun ⟨kind, h⟩ => ⟨kind, checkKind_eq_ok_iff.mpr h⟩) fun hbroken => ?_
  rw [complaint]
  cases hvalue : raw.kind with
  | kind kind => exact absurd ⟨kind, hvalue⟩ hbroken
  | _ => rfl

theorem checks_name (field : SpecField) :
    Checks raw (checkName field (raw.value field)) [.name field] := by
  refine .single (fun ⟨name, h, hname⟩ => ?_) fun hbroken => ?_
  · exact ⟨⟨name, isUsableName_iff.mpr hname⟩, checkName_eq_ok_iff.mpr h⟩
  · by_cases htext : ∃ name, raw.value field = .str name
    · obtain ⟨name, hvalue⟩ := htext
      rw [complaint, hvalue, checkName]
      by_cases hform : hasNameForm name = true
      · by_cases hreserved : name ∈ reservedWords
        · rw [dif_pos hform, dif_pos (by simpa using hreserved)]
          simp only [hform, if_true]
        · exact absurd ⟨name, hvalue, hform, hreserved⟩ hbroken
      · rw [dif_neg hform]
        simp only [hform, if_false, Bool.false_eq_true]
    · rw [checkName_of_not_text htext, complaint]
      split
      next name hvalue => exact absurd ⟨name, hvalue⟩ htext
      next => rfl

theorem checks_type (field : SpecField) :
    Checks raw (checkType field (raw.value field)) [.type field] := by
  refine .single (fun ⟨type, h, htype⟩ => ?_) fun hbroken => ?_
  · exact ⟨⟨type, isNonblank_iff.mpr htype⟩, checkType_eq_ok_iff.mpr h⟩
  · rw [complaint]
    by_cases htext : ∃ type, raw.value field = .str type
    · obtain ⟨type, hvalue⟩ := htext
      have hblank : ¬ isNonblank type = true := by
        intro hnonblank
        exact hbroken ⟨type, hvalue, isNonblank_iff.mp hnonblank⟩
      rw [hvalue, checkType, dif_neg hblank]
    · exact checkType_of_not_text htext

theorem keeps_noListUpsert_iff {raw : RawSpec} {kind : ArgumentKind} {operation : Operation}
    (hkind : raw.kind = .kind kind) (hoperation : raw.operation = .str operation.word) :
    raw.Keeps .noListUpsert ↔ ¬(kind = .list ∧ operation = .upsert) := by
  rw [Keeps, hkind, hoperation, FieldValue.kind.injEq, FieldValue.str_inj]
  cases operation <;> simp [Operation.word]

/-- The last rule is looked at when the kind and the operation are known. -/
theorem checks_noListUpsert {α : Type} {kind : ArgumentKind} {operation : Operation}
    {methodName : { name : String // isUsableName name = true }}
    (hkind : checkKind raw.kind = .ok kind)
    (hoperation : checkOperation raw.operation = .ok operation)
    (hmethod : checkName .methodName raw.methodName = .ok methodName)
    (make : ¬(kind = .list ∧ operation = .upsert) → α) :
    Checks raw
      (if h : kind = .list ∧ operation = .upsert then .error (.rule (.listUpsert methodName))
      else .ok (make h)) [.noListUpsert] := by
  have hrule : raw.Keeps .noListUpsert ↔ ¬(kind = .list ∧ operation = .upsert) :=
    keeps_noListUpsert_iff (checkKind_eq_ok_iff.mp hkind) (checkOperation_eq_ok_iff.mp hoperation)
  refine .single (fun hkept => ⟨_, dif_neg (hrule.mp hkept)⟩) fun hbroken => ?_
  rw [hrule, Decidable.not_not] at hbroken
  rw [dif_pos hbroken, complaint, checkName_eq_ok_iff.mp hmethod]

/-- The values of a specification are checked rule by rule. -/
theorem checks_check : Checks raw raw.check SpecRule.all := by
  have hall : Checks raw raw.check _ :=
    .bind raw.checks_operation fun _ hoperation => .bind raw.checks_kind fun _ hkind =>
      .bind (raw.checks_name .methodName) fun _ hmethod =>
      .bind (raw.checks_name .argumentName) fun _ _ =>
      .bind (raw.checks_name .sessionName) fun _ _ =>
      .bind (raw.checks_type .entityType) fun _ _ =>
      .bind (raw.checks_type .sessionType) fun ⟨_, _⟩ _ =>
      raw.checks_noListUpsert hkind hoperation hmethod _
  exact hall

theorem lookup_toFields (field : SpecField) :
    raw.toFields.lookup field.label = some (raw.value field) := by
  cases field <;> rfl

/-- Values under the names of their fields are sorted into these fields. -/
theorem ofFields_toFields : ofFields raw.toFields = .ok raw := by
  have hknown : ∀ entry ∈ raw.toFields,
      ¬(!(SpecField.all.map SpecField.label).contains entry.1) = true := by
    rw [toFields, List.forall_mem_map]
    intro field hfield
    simpa using ⟨field, hfield, rfl⟩
  have hmissing : SpecField.required.filter
      (fun field => (raw.toFields.lookup field.label).isNone) = [] := by
    simp only [lookup_toFields]
    rfl
  rw [ofFields, List.find?_eq_none.mpr hknown]
  simp only [hmissing]
  simp only [lookup_toFields]
  rfl

end RawSpec

/-! ## The values of a method -/

/-- What a method has in the fields of its specification. Its operation stands there as a text. -/
def MethodSpec.toRaw (m : MethodSpec) : RawSpec where
  entityType := .str m.entityType
  methodName := .str m.methodName
  argumentName := .str m.argumentName
  sessionName := .str m.sessionName
  sessionType := .str m.sessionType
  operation := .str m.operation.word
  marksNonnull := m.marksNonnull
  kind := .kind m.kind
  returnsArgument := m.returnsArgument
  generatesIdentifier := m.generatesIdentifier
  overrides := m.overrides

namespace RawSpec

/-- The values of a method describe it. -/
theorem check_toRaw (m : MethodSpec) : m.toRaw.check = .ok m := by
  have hoperation : checkOperation m.toRaw.operation = .ok m.operation :=
    checkOperation_eq_ok_iff.mpr rfl
  have hkind : checkKind m.toRaw.kind = .ok m.kind := checkKind_eq_ok_iff.mpr rfl
  have hmethod : checkName .methodName m.toRaw.methodName =
      .ok ⟨m.methodName, m.methodName_usable⟩ := checkName_eq_ok_iff.mpr rfl
  have hargument : checkName .argumentName m.toRaw.argumentName =
      .ok ⟨m.argumentName, m.argumentName_usable⟩ := checkName_eq_ok_iff.mpr rfl
  have hsession : checkName .sessionName m.toRaw.sessionName =
      .ok ⟨m.sessionName, m.sessionName_usable⟩ := checkName_eq_ok_iff.mpr rfl
  have hentity : checkType .entityType m.toRaw.entityType =
      .ok ⟨m.entityType, m.entityType_nonblank⟩ := checkType_eq_ok_iff.mpr rfl
  have htype : checkType .sessionType m.toRaw.sessionType =
      .ok ⟨m.sessionType, m.sessionType_nonblank⟩ := checkType_eq_ok_iff.mpr rfl
  rw [check, hoperation, hkind, hmethod, hargument, hsession, hentity, htype]
  exact dif_neg m.not_list_upsert

/-- Values that keep all rules are those of a method. -/
theorem exists_eq_toRaw {raw : RawSpec} (h : ∀ rule ∈ SpecRule.all, raw.Keeps rule) :
    ∃ m : MethodSpec, raw = m.toRaw := by
  simp only [SpecRule.all, List.forall_mem_cons] at h
  obtain ⟨⟨operation, hoperation⟩, ⟨kind, hkind⟩, ⟨methodName, hmethod, hmethod'⟩,
    ⟨argumentName, hargument, hargument'⟩, ⟨sessionName, hsession, hsession'⟩,
    ⟨entityType, hentity, hentity'⟩, ⟨sessionType, htype, htype'⟩, hlist, -⟩ := h
  let m : MethodSpec := {
    entityType, methodName, argumentName, sessionName, sessionType, operation, kind
    marksNonnull := raw.marksNonnull
    returnsArgument := raw.returnsArgument
    generatesIdentifier := raw.generatesIdentifier
    overrides := raw.overrides
    methodName_usable := isUsableName_iff.mpr hmethod'
    argumentName_usable := isUsableName_iff.mpr hargument'
    sessionName_usable := isUsableName_iff.mpr hsession'
    entityType_nonblank := isNonblank_iff.mpr hentity'
    sessionType_nonblank := isNonblank_iff.mpr htype'
    not_list_upsert := (keeps_noListUpsert_iff hkind hoperation).mp hlist }
  refine ⟨m, ?_⟩
  obtain ⟨⟩ := raw
  simp only [value] at hmethod hargument hsession hentity htype hoperation hkind
  simp only [MethodSpec.toRaw, m, hmethod, hargument, hsession, hentity, htype, hoperation, hkind]

theorem check_eq_ok_iff {raw : RawSpec} {m : MethodSpec} : raw.check = .ok m ↔ raw = m.toRaw := by
  constructor
  · intro h
    rcases raw.checks_check with ⟨hkept, -⟩ | ⟨rule, -, herror⟩
    · obtain ⟨m', rfl⟩ := exists_eq_toRaw hkept
      rw [check_toRaw, Except.ok.injEq] at h
      rw [h]
    · rw [h] at herror
      contradiction
  · rintro rfl
    exact check_toRaw m

end RawSpec

open RawSpec

/-- Whatever is handed in describes a method if, and only if, it keeps all rules. Otherwise the
    first rule that it breaks is the one that is reported. No value and no kind of argument, in any
    field, leads to another error: the only way to one is a foreign object for the operation that
    cannot be shown. The method that is described has what was handed in and nothing else, so what a
    method has describes it again. -/
theorem MethodSpec.ofFields_first_broken (raw : RawSpec) :
    ((∃ m, ofFields raw.toFields = .ok m) ↔ ∀ rule ∈ SpecRule.all, raw.Keeps rule) ∧
    (∀ e, ofFields raw.toFields = .error e ↔
      ∃ rule, raw.FirstBroken SpecRule.all rule ∧ e = raw.complaint rule) ∧
    ((∃ e, ofFields raw.toFields = .error e ∧ ∀ broken, e ≠ .rule broken) ↔
      ∃ object fault, raw.operation = .foreign object ∧ object.shown = .error fault) ∧
    (∀ m, ofFields raw.toFields = .ok m ↔ raw = m.toRaw) ∧
    ∀ m : MethodSpec, ofFields m.toRaw.toFields = .ok m := by
  have hmake (raw : RawSpec) : ofFields raw.toFields = raw.check := by
    rw [ofFields, ofFields_toFields]
  simp only [hmake]
  refine ⟨raw.checks_check.exists_ok_iff, fun e => raw.checks_check.eq_error_iff, ?_,
    fun m => check_eq_ok_iff, check_toRaw⟩
  constructor
  · rintro ⟨e, herror, hnot⟩
    obtain ⟨rule, -, rfl⟩ := raw.checks_check.eq_error_iff.mp herror
    obtain ⟨fault, hshown⟩ := exists_shown_eq_error_of_complaint hnot
    obtain ⟨object, hoperation, hraised⟩ := FieldValue.shown_eq_error_iff.mp hshown
    exact ⟨object, fault, hoperation, hraised⟩
  · rintro ⟨object, fault, hoperation, hraised⟩
    refine ⟨.raised fault, raw.checks_check.eq_error_iff.mpr ⟨.knownOperation, ?_, ?_⟩, nofun⟩
    · refine ⟨[], _, rfl, by simp, ?_⟩
      rintro ⟨operation, hword⟩
      rw [hoperation] at hword
      contradiction
    · rw [complaint, FieldValue.shown_eq_error_iff.mpr ⟨object, hoperation, hraised⟩]

/-- The word for a kind of argument is refused in its place. -/
example : MethodSpec.ofFields
    [("entity_type", .str "Book[]"), ("method_name", .str "insert"),
     ("parameter_name", .str "books"), ("session_name", .str "session"),
     ("session_type", .str "org.hibernate.Session"), ("operation", .str "insert"),
     ("parameter_kind", .str "array")] = .error (.rule (.unknownKind "str")) :=
  rfl

end DataMethods
