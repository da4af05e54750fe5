import DataMethods.MethodSpec.FieldValue

/-!
# Specifications from field values

Callers describe a method by named values of any kind. `RawSpec.ofFields` sorts the values into
their fields, and `RawSpec.check` turns them into a `MethodSpec` or names the first rule that they
break: the operation, the kind of the argument, the three names, the two types, and at last the
combination of a list with an upsert. The message for an unknown operation shows what was given for
it. If that cannot be shown, the caller is left with what showing it raises.
-/

namespace DataMethods

/-- The fields of a specification. -/
inductive SpecField where
  | entityType
  | methodName
  | argumentName
  | sessionName
  | sessionType
  | operation
  | marksNonnull
  | kind
  | returnsArgument
  | generatesIdentifier
  | overrides
deriving Repr, DecidableEq

namespace SpecField

/-- The name by which callers know a field. -/
def label : SpecField → String
  | .entityType => "entity_type"
  | .methodName => "method_name"
  | .argumentName => "parameter_name"
  | .sessionName => "session_name"
  | .sessionType => "session_type"
  | .operation => "operation"
  | .marksNonnull => "requires_nonnull_annotation"
  | .kind => "parameter_kind"
  | .returnsArgument => "returns_argument"
  | .generatesIdentifier => "has_generated_identifier"
  | .overrides => "overrides"

/-- The fields that have no default. -/
def required : List SpecField :=
  [.entityType, .methodName, .argumentName, .sessionName, .sessionType, .operation]

/-- All fields. -/
def all : List SpecField :=
  required ++ [.marksNonnull, .kind, .returnsArgument, .generatesIdentifier, .overrides]

end SpecField

/-- Why named values do not fill the fields of a specification. -/
inductive FieldFault where
  /-- A name that no field has. -/
  | unknown (name : String)
  /-- A value is named by the word that stands for the specification itself. -/
  | ownName
  /-- Fields without a default that are not given, in the order of the fields. -/
  | missing (first : SpecField) (others : List SpecField)
deriving Repr, DecidableEq

namespace FieldFault

/-- What a faulty call is a call of. -/
def callee : String := "LifecycleMethodDescriptor.__init__()"

/-- The word that stands for the specification itself. -/
def ownWord : String := "self"

/-- The fault of giving a value to a name that no field has. -/
def ofStranger (name : String) : FieldFault :=
  if name = ownWord then .ownName else .unknown name

/-- Quoted names in a row, with the word for the last one. -/
def enumeration : List String → String
  | [] => ""
  | [a] => a
  | [a, b] => a ++ " and " ++ b
  | names => ", ".intercalate names.dropLast ++ ", and " ++ names.getLastD ""

/-- The message for a fault. -/
def message : FieldFault → String
  | .unknown name => callee ++ " got an unexpected keyword argument '" ++ name ++ "'"
  | .ownName => callee ++ " got multiple values for argument '" ++ ownWord ++ "'"
  | .missing first others =>
    let names := (first :: others).map fun field => "'" ++ field.label ++ "'"
    callee ++ " missing " ++ toString names.length ++ " required keyword-only argument" ++
      (if others.isEmpty then "" else "s") ++ ": " ++ enumeration names

end FieldFault

/-- The rule of specifications that values break. -/
inductive SpecError where
  /-- The operation is none of the known ones; the text that shows what was given for it. -/
  | unknownOperation (shown : String)
  /-- No kind of argument was given; the kind of what was given. -/
  | unknownKind (kindName : String)
  /-- A name is no text; the kind of its value. -/
  | nameNotText (field : SpecField) (kindName : String)
  /-- A name has not the form of one. -/
  | nameForm (field : SpecField) (name : String)
  /-- A name is a word of the generated language. -/
  | nameReserved (field : SpecField) (name : String)
  /-- A type is no text or blank. -/
  | typeBlank (field : SpecField)
  /-- The named method would upsert a list. -/
  | listUpsert (methodName : String)
deriving Repr, DecidableEq

namespace SpecError

/-- How the messages begin. -/
def opening : String := "Invalid lifecycle method descriptor"

/-- The message for a broken rule. -/
def message : SpecError → String
  | .unknownOperation shown =>
    opening ++ ": unknown operation " ++ shown ++ ", expected one of: " ++
      ", ".intercalate (Operation.all.map Operation.word) ++ "."
  | .unknownKind kindName =>
    opening ++ ": parameter_kind must be ParameterKind, got " ++ kindName ++ "."
  | .nameNotText field kindName =>
    opening ++ ": '" ++ field.label ++ "' must be str, got " ++ kindName ++ "."
  | .nameForm field name =>
    opening ++ ": " ++ field.label ++ " '" ++ name ++ "' is not a valid Java identifier."
  | .nameReserved field name =>
    opening ++ ": " ++ field.label ++ " '" ++ name ++ "' is a Java reserved word."
  | .typeBlank field => opening ++ ": '" ++ field.label ++ "' must be a non-empty str."
  | .listUpsert methodName =>
    opening ++ " for '" ++ methodName ++ "': upsert does not accept a java.util.List " ++
      "parameter because the session has no bulk upsert operation for lists."

end SpecError

/-- Why named values describe no method. -/
inductive DescriptionError where
  /-- The values do not fill the fields. -/
  | fields (fault : FieldFault)
  /-- The values break a rule. -/
  | rule (error : SpecError)
  /-- The operation is none of the known ones, and cannot be shown. -/
  | raised (fault : Raised)
deriving Repr, DecidableEq

namespace DescriptionError

/-- The error of what is handed in for an operation and is none of the known ones. -/
def ofOperation (v : FieldValue) : DescriptionError :=
  match v.shown with
  | .ok text => .rule (.unknownOperation text)
  | .error fault => .raised fault

end DescriptionError

/-- What is handed in for the fields of a specification, before any check. -/
structure RawSpec where
  entityType : FieldValue
  methodName : FieldValue
  argumentName : FieldValue
  sessionName : FieldValue
  sessionType : FieldValue
  operation : FieldValue
  marksNonnull : Bool
  kind : FieldValue
  returnsArgument : Bool
  generatesIdentifier : Bool
  overrides : Bool

namespace RawSpec

/-- The operation that is given by its word. -/
def checkOperation : FieldValue → Except DescriptionError Operation
  | .str word =>
    match Operation.ofWord? word with
    | some op => .ok op
    | none => .error (.ofOperation (.str word))
  | v => .error (.ofOperation v)

/-- The kind of argument that is given. Its word is not enough. -/
def checkKind : FieldValue → Except DescriptionError ArgumentKind
  | .kind kind => .ok kind
  | v => .error (.rule (.unknownKind v.kindName))

/-- The usable name that is given. -/
def checkName (field : SpecField) :
    FieldValue → Except DescriptionError { name : String // isUsableName name = true }
  | .str name =>
    if form : hasNameForm name = true then
      if reserved : reservedWords.contains name = true then
        .error (.rule (.nameReserved field name))
      else .ok ⟨name, by simp_all [isUsableName]⟩
    else .error (.rule (.nameForm field name))
  | v => .error (.rule (.nameNotText field v.kindName))

/-- The type that is given. -/
def checkType (field : SpecField) :
    FieldValue → Except DescriptionError { type : String // isNonblank type = true }
  | .str type =>
    if h : isNonblank type = true then .ok ⟨type, h⟩ else .error (.rule (.typeBlank field))
  | _ => .error (.rule (.typeBlank field))

/-- The specification that the values describe, or the first rule that they break. -/
def check (raw : RawSpec) : Except DescriptionError MethodSpec := do
  let operation ← checkOperation raw.operation
  let kind ← checkKind raw.kind
  let ⟨methodName, methodName_usable⟩ ← checkName .methodName raw.methodName
  let ⟨argumentName, argumentName_usable⟩ ← checkName .argumentName raw.argumentName
  let ⟨sessionName, sessionName_usable⟩ ← checkName .sessionName raw.sessionName
  let ⟨entityType, entityType_nonblank⟩ ← checkType .entityType raw.entityType
  let ⟨sessionType, sessionType_nonblank⟩ ← checkType .sessionType raw.sessionType
  if not_list_upsert : kind = .list ∧ operation = .upsert then
    .error (.rule (.listUpsert methodName))
  else
    .ok { entityType, methodName, argumentName, sessionName, sessionType, operation, kind
          marksNonnull := raw.marksNonnull
          returnsArgument := raw.returnsArgument
          generatesIdentifier := raw.generatesIdentifier
          overrides := raw.overrides
          methodName_usable, argumentName_usable, sessionName_usable
          entityType_nonblank, sessionType_nonblank, not_list_upsert }

/-- The named values sorted into their fields. The first name that no field has is reported before
any field that is missing. -/
def ofFields (fields : List (String × FieldValue)) : Except FieldFault RawSpec :=
  match fields.find? fun (name, _) => !(SpecField.all.map SpecField.label).contains name with
  | some (name, _) => .error (.ofStranger name)
  | none =>
    let value? (field : SpecField) := fields.lookup field.label
    let flag (field : SpecField) (default : Bool) :=
      ((value? field).map FieldValue.truth).getD default
    match SpecField.required.filter fun field => (value? field).isNone with
    | first :: others => .error (.missing first others)
    | [] =>
      let value (field : SpecField) := (value? field).getD (.value .null)
      .ok {
        entityType := value .entityType
        methodName := value .methodName
        argumentName := value .argumentName
        sessionName := value .sessionName
        sessionType := value .sessionType
        operation := value .operation
        marksNonnull := flag .marksNonnull false
        kind := (value? .kind).getD (.kind .single)
        returnsArgument := flag .returnsArgument false
        generatesIdentifier := flag .generatesIdentifier false
        overrides := flag .overrides true }

end RawSpec

/-- The method that named values describe. -/
def MethodSpec.ofFields (fields : List (String × FieldValue)) :
    Except DescriptionError MethodSpec :=
  match RawSpec.ofFields fields with
  | .error fault => .error (.fields fault)
  | .ok raw => raw.check

end DataMethods
