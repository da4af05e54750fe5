import DataMethods.ImportTable
import DataMethods.Method.Render
import DataMethods.MethodSpec.Fields
import DataMethods.Settings.Process

/-!
# Generated types

A generated type has members, which are generated methods and attributes with a field of their own,
and the import table of its unit. Both kinds of members have a declaration. An attribute also has a
constant for its name and a type in the metamodel; a method has neither, and a query for them is
refused.

`Generator` is what a caller works with: a generated type under construction, the settings chosen
for it, and the process whose settings hold until some are chosen. Settings come from a builder.
-/

namespace DataMethods

/-- A member of a generated type. -/
inductive Member where
  /-- A generated method, and the settings for its text. -/
  | method (spec : MethodSpec) (settings : Settings)
  /-- An attribute with a field. -/
  | attribute (name : String)
deriving DecidableEq

/-- What only attributes can answer. -/
inductive MetamodelQuery where
  | nameDeclaration
  | metaType
deriving Repr, DecidableEq

namespace MetamodelQuery

/-- All queries. -/
def all : List MetamodelQuery := [.nameDeclaration, .metaType]

/-- The word for a query. -/
def word : MetamodelQuery → String
  | .nameDeclaration => "attribute_name_declaration_string"
  | .metaType => "meta_type"

/-- The query that a word stands for. -/
def ofWord? (word : String) : Option MetamodelQuery :=
  all.find? fun query => query.word == word

end MetamodelQuery

/-- A query to a member that cannot answer it. -/
structure UnsupportedQuery where
  query : MetamodelQuery
  /-- The name of the member. -/
  member : String
deriving Repr, DecidableEq

/-- What a member tells about itself. -/
structure MemberInfo where
  name : String
  type : String
  /-- Has the member a typed attribute? -/
  isTyped : Bool
  /-- Has the member an attribute for its name? -/
  isNamed : Bool
  /-- Can the member declare itself? -/
  isDeclarable : Bool
  /-- Can the member answer metamodel queries? -/
  isAttribute : Bool
deriving Repr, DecidableEq

namespace Member

/-- What messages call a generated method. -/
def methodWord : String := "LifecycleMethod"

/-- The name of a member. -/
def name : Member → String
  | .method spec _ => spec.methodName
  | .attribute name => name

/-- What a member tells about itself. -/
def info : Member → MemberInfo
  | .method spec _ => ⟨spec.methodName, spec.entityType, true, false, true, false⟩
  | .attribute name => ⟨name, "java.lang.String", true, true, true, true⟩

/-- A short description of a generated method. -/
def describe (spec : MethodSpec) : String :=
  methodWord ++ "(" ++ Value.quote spec.methodName ++ ", operation=" ++
    Value.quote spec.operation.word ++ ")"

/-- The declaration of a member. -/
def declaration {σ : Type} [NameResolver σ] : Member → Rendering σ String
  | .method spec settings => Method.render settings spec
  | .attribute name => return "public static volatile String " ++ name ++ ";"

/-- The answer to a metamodel query. -/
def answer (member : Member) (query : MetamodelQuery) : Except UnsupportedQuery String :=
  match member, query with
  | .method spec _, query => .error ⟨query, spec.methodName⟩
  | .attribute name, .nameDeclaration =>
    .ok ("public static final String NAME = \"" ++ name ++ "\";")
  | .attribute _, .metaType => .ok "jakarta.persistence.metamodel.SingularAttribute"

end Member

/-- The message for a query that is refused. -/
def UnsupportedQuery.message (u : UnsupportedQuery) : String :=
  "operation not supported: '" ++ u.query.word ++ "' is not available for " ++ Member.methodWord ++
    " '" ++ u.member ++ "'."

/-- A generated type: its members, and the imports of its unit. -/
structure GeneratedType where
  imports : ImportTable
  members : List Member
deriving DecidableEq

namespace GeneratedType

/-- A type in the given package, without members. -/
def empty (package : String) : GeneratedType := ⟨.empty package, []⟩

/-- The type with one more member. -/
def add (t : GeneratedType) (member : Member) : GeneratedType :=
  { t with members := t.members ++ [member] }

/-- Runs a computation on the imports of the type. They stay as they are after an error. -/
def write {α : Type} (t : GeneratedType) (r : Rendering ImportTable α) :
    Except RenderError α × GeneratedType :=
  let (outcome, run) := r.start t.imports
  (outcome, { t with imports := run.names })

/-- The declaration of one member. -/
def declaration (t : GeneratedType) (member : Member) :
    Except RenderError String × GeneratedType :=
  t.write member.declaration

/-- The declarations of all members, one after the other. -/
def body (t : GeneratedType) : Except RenderError String × GeneratedType :=
  t.write do return "\n".intercalate (← t.members.mapM Member.declaration)

/-- The printed form of a type. -/
def printType (t : GeneratedType) (type : String) : Except RenderError String × GeneratedType :=
  t.write (Rendering.printType type)

end GeneratedType

/-- Why a method cannot be added to a generated type. -/
inductive AddError where
  | description (error : DescriptionError)
  | settings (problems : List Problem)
deriving Repr, DecidableEq

/-- A generated type under construction. -/
structure Generator where
  /-- The process, which has settings of its own. -/
  process : SettingsProcess
  /-- The settings chosen for methods that are added from now on. -/
  chosen : Option Settings
  /-- The type. -/
  type : GeneratedType
deriving DecidableEq

namespace Generator

/-- A generator for an empty type. -/
def start (env : Environment) (package : String) : Generator :=
  ⟨.start env, none, .empty package⟩

/-- Chooses settings. If they cannot be built, the choice stays as it was. -/
def choose (g : Generator) (build : Settings.Builder) (given : Settings.Given) :
    Except (List Problem) Settings × Generator :=
  match build given g.process.environment with
  | .ok s => (.ok s, { g with chosen := some s })
  | .error problems => (.error problems, g)

/-- The settings for the next method: those chosen, or else those of the process. -/
def settings (g : Generator) (build : Settings.Builder) :
    Except (List Problem) Settings × Generator :=
  match g.chosen with
  | some s => (.ok s, g)
  | none =>
    let (outcome, process) := g.process.settings build
    (outcome, { g with process })

/-- Adds a member. -/
def add (g : Generator) (member : Member) : Generator :=
  { g with type := g.type.add member }

/-- Adds the method that named values describe. -/
def addMethod (g : Generator) (build : Settings.Builder) (fields : List (String × FieldValue)) :
    Except AddError Unit × Generator :=
  match MethodSpec.ofFields fields with
  | .error e => (.error (.description e), g)
  | .ok spec =>
    match g.settings build with
    | (.error problems, next) => (.error (.settings problems), next)
    | (.ok settings, next) => (.ok (), next.add (.method spec settings))

end Generator

end DataMethods
