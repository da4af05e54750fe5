import DataMethods.Session
import DataMethods.Text.Identifier

/-!
# Specifications of generated methods

A `MethodSpec` says everything about one generated method. It exists only for what can be generated:
its three names are names of the generated language, its two types are not blank, and it does not
ask for the bulk operation that sessions do not have.
-/

namespace DataMethods

/-- The session operation that a method performs. -/
inductive Operation where
  | insert
  | update
  | delete
  | upsert
deriving Repr, DecidableEq

namespace Operation

/-- All operations. -/
def all : List Operation := [.insert, .update, .delete, .upsert]

/-- The word for an operation, which is also the session's method. -/
def word : Operation → String
  | .insert => "insert"
  | .update => "update"
  | .delete => "delete"
  | .upsert => "upsert"

/-- The operation that a word stands for. -/
def ofWord? (word : String) : Option Operation :=
  all.find? fun op => op.word == word

end Operation

/-- What a method takes: one entity, an array or a list of entities. -/
inductive ArgumentKind where
  | single
  | array
  | list
deriving Repr, DecidableEq

namespace ArgumentKind

/-- All kinds. -/
def all : List ArgumentKind := [.single, .array, .list]

/-- The word for a kind. -/
def word : ArgumentKind → String
  | .single => "single"
  | .array => "array"
  | .list => "list"

/-- The kind that a word stands for. -/
def ofWord? (word : String) : Option ArgumentKind :=
  all.find? fun kind => kind.word == word

end ArgumentKind

/-- The words that the generated language keeps for itself. -/
def reservedWords : List String :=
  ["abstract", "assert", "boolean", "break", "byte", "case", "catch", "char", "class", "const",
   "continue", "default", "do", "double", "else", "enum", "extends", "false", "final", "finally",
   "float", "for", "goto", "if", "implements", "import", "instanceof", "int", "interface", "long",
   "native", "new", "null", "package", "private", "protected", "public", "return", "short",
   "static", "strictfp", "super", "switch", "synchronized", "this", "throw", "throws", "transient",
   "true", "try", "void", "volatile", "while", "_"]

/-- Has the text the form of a name? A dollar sign may stand wherever an underscore may. -/
def hasNameForm (s : String) : Bool :=
  Text.isIdentifier (s.toList.map fun c => if c = '$' then '_' else c)

/-- May the text name a method, an argument or a field? -/
def isUsableName (s : String) : Bool :=
  hasNameForm s && !reservedWords.contains s

theorem ne_empty_of_isUsableName {name : String} (h : isUsableName name = true) : name ≠ "" := by
  rintro rfl
  exact absurd h (by decide)

/-- A name consists of characters of identifiers, and of dollar signs. -/
theorem not_mem_of_isUsableName {name : String} {c : Char} (h : isUsableName name = true)
    (hc : Text.isIdentifierContinue (if c = '$' then '_' else c) = false) : c ∉ name.toList := by
  have hform : hasNameForm name = true := (Bool.and_eq_true_iff.mp h).1
  have hcontinue : ∀ d ∈ name.toList.map (fun d => if d = '$' then '_' else d),
      Text.isIdentifierContinue d = true := by
    rw [hasNameForm] at hform
    cases hname : name.toList.map (fun d => if d = '$' then '_' else d) with
    | nil => simp
    | cons first rest =>
      simp only [hname, Text.isIdentifier_cons, Bool.and_eq_true, List.all_eq_true] at hform
      have hfirst : Text.isIdentifierContinue first = true := by
        simp [Text.isIdentifierContinue, hform.1]
      exact List.forall_mem_cons.mpr ⟨hfirst, hform.2⟩
  intro hmem
  rw [hcontinue _ (List.mem_map_of_mem hmem)] at hc
  contradiction

/-- Does the text hold anything but white space? -/
def isNonblank (s : String) : Bool :=
  !(Text.trim s.toList).isEmpty

/-- The specification of one generated method. -/
structure MethodSpec where
  /-- The declared type of the argument. -/
  entityType : String
  /-- The name of the method. -/
  methodName : String
  /-- The name of the argument. -/
  argumentName : String
  /-- The field that holds the session. -/
  sessionName : String
  /-- The type of the session. -/
  sessionType : String
  /-- The session operation to call. -/
  operation : Operation
  /-- Is the argument marked as never null? -/
  marksNonnull : Bool
  /-- What the argument is. -/
  kind : ArgumentKind
  /-- Does the method return its argument? -/
  returnsArgument : Bool
  /-- Is the identifier of an entity assigned when it is stored? -/
  generatesIdentifier : Bool
  /-- Does the method override a declared one? -/
  overrides : Bool
  /-- The method can be named so. -/
  methodName_usable : isUsableName methodName = true
  /-- The argument can be named so. -/
  argumentName_usable : isUsableName argumentName = true
  /-- The field can be named so. -/
  sessionName_usable : isUsableName sessionName = true
  /-- The type of the argument is given. -/
  entityType_nonblank : isNonblank entityType = true
  /-- The type of the session is given. -/
  sessionType_nonblank : isNonblank sessionType = true
  /-- Sessions upsert no lists. -/
  not_list_upsert : ¬(kind = .list ∧ operation = .upsert)
deriving DecidableEq

namespace MethodSpec

/-- The style of the method, which its session decides. -/
def style (m : MethodSpec) : Style := Session.style m.sessionType

/-- Does the method return a pipeline? -/
def isReactive (m : MethodSpec) : Bool := m.style == .reactive

/-- Must the session be unwrapped before use? -/
def isDeferred (m : MethodSpec) : Bool := Session.isDeferred m.sessionType

/-- The name under which the method calls the session. -/
def localSession (m : MethodSpec) : String :=
  if m.isDeferred then Session.unwrappedName else m.sessionName

/-- Does the presence of an identifier decide between inserting and upserting? -/
def choosesByIdentifier (m : MethodSpec) : Bool :=
  m.operation == .upsert && m.generatesIdentifier

end MethodSpec

end DataMethods
