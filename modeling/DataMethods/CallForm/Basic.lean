import DataMethods.Rendering

/-!
# Call forms

A session names its operations alike and takes one entity under the plain name of the operation,
several under the name with a suffix. A `CallForm` is the suffix together with a brace pattern for
the arguments; `CallForm.forKind` chooses it by the kind of the argument and the style of the
session, and `CallForm.select` refuses the one operation that takes no lists.
-/

namespace DataMethods

/-- What follows the name of a session operation. -/
structure CallForm where
  /-- The end of the operation's name. -/
  suffix : String
  /-- The pattern between the parentheses. -/
  argument : String
deriving Repr, DecidableEq

namespace CallForm

/-- The name of the method's argument in patterns. -/
def argumentField : String := "parameter"

/-- The name of the list type in patterns. -/
def listField : String := "list_type"

/-- A field for the named value. -/
def field (name : String) : String := "\x7b" ++ name ++ "\x7d"

/-- Does the pattern show a field for the list type? Braces that are doubled count, too. -/
def usesListType (form : CallForm) : Bool :=
  Text.occursIn (field listField).toList form.argument.toList

/-- The pattern filled with the argument and the printed list type. -/
def fillWith (form : CallForm) (argument listType : String) : Except PatternError String :=
  (fillPattern [(argumentField, argument), (listField, listType)] form.argument).map fun inside =>
    form.suffix ++ "(" ++ inside ++ ")"

/-- The text of a call behind the name of the operation. The list type is asked for only if the
pattern shows it, and then before the pattern is read. -/
def render {σ : Type} [NameResolver σ] (form : CallForm) (argument : String) :
    Rendering σ String := do
  let listType ← if form.usesListType then Rendering.printType Session.listType else pure ""
  match form.fillWith argument listType with
  | .ok text => return text
  | .error e => throw (.pattern e)

/-- The form for each kind of argument and style. -/
def forKind : ArgumentKind → Style → CallForm
  | .single, _ => ⟨"", field argumentField⟩
  | .array, .blocking => ⟨"Multiple", field listField ++ ".of(" ++ field argumentField ++ ")"⟩
  | .array, .reactive => ⟨"All", field argumentField⟩
  | .list, .blocking => ⟨"Multiple", field argumentField⟩
  | .list, .reactive => ⟨"All", field argumentField ++ ".toArray()"⟩

/-- The form for an operation. There is none that upserts a list. -/
def select (kind : ArgumentKind) (style : Style) (operation : Operation) :
    Except RenderError CallForm :=
  if kind = .list ∧ operation = .upsert then .error .listUpsert else .ok (forKind kind style)

end CallForm

end DataMethods
