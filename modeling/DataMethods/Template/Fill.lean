import DataMethods.Template.Basic
import DataMethods.Value

/-!
# Filling templates

`Template.fill` prints a template in a context that gives its variables values. Only the parts that
are reached count: a variable in a part of a branch that is not taken may be without a value. Values
are printed as they are, whatever they contain.
-/

namespace DataMethods.Template

/-- Values for variables. The first value given to a name counts. -/
abbrev Context := List (String × Value)

/-- Why a template cannot be filled. -/
inductive FillError where
  /-- A variable is reached that has no value. -/
  | missing (name : String)
  /-- The context names a value by the word that stands for the template itself. -/
  | ownName
deriving Repr, DecidableEq

namespace FillError

/-- The word that stands for the template itself. -/
def ownWord : String := "self"

/-- The message for a fault. -/
def message : FillError → String
  | .missing name => "Missing template variable '" ++ name ++ "'."
  | .ownName => "Snippet.render() got multiple values for argument '" ++ ownWord ++ "'"

end FillError

/-- The value of a variable. -/
def value (context : Context) (name : String) : Except FillError Value :=
  match context.lookup name with
  | some v => .ok v
  | none => .error (.missing name)

/-- The text of a template in a context, or the first variable reached without a value. -/
def print (context : Context) : Template → Except FillError String
  | .done => .ok ""
  | .text s rest => do return s ++ (← print context rest)
  | .slot name rest => do
    let v ← value context name
    return v.text ++ (← print context rest)
  | .branch name negated yes no rest => do
    let v ← value context name
    let part ← match v.truth != negated with
      | true => print context yes
      | false => print context no
    return part ++ (← print context rest)

section

variable {context : Context} {name : String} {v : Value} {rest : Template}

@[simp] theorem print_done : print context .done = .ok "" := rfl

@[simp] theorem print_text (s : String) :
    print context (.text s rest) = (print context rest).map (s ++ ·) :=
  rfl

@[simp] theorem print_slot (h : context.lookup name = some v) :
    print context (.slot name rest) = (print context rest).map (v.text ++ ·) := by
  rw [print, value, h]
  rfl

@[simp] theorem print_branch {negated : Bool} {yes no : Template} (h : context.lookup name = some v) :
    print context (.branch name negated yes no rest) =
      (print context (bif v.truth != negated then yes else no)).bind fun part =>
        (print context rest).map (part ++ ·) := by
  rw [print, value, h]
  cases hv : v.truth != negated <;> simp only [bind, Except.bind, hv] <;> rfl

end

/-- Fills a template. A context must leave the template's own word alone. -/
def fill (t : Template) (context : Context) : Except FillError String :=
  if (context.lookup FillError.ownWord).isSome then .error .ownName else t.print context

/-- A context without the template's own word is no obstacle. -/
theorem fill_eq_print {t : Template} {context : Context}
    (h : context.lookup FillError.ownWord = none) : t.fill context = t.print context := by
  rw [fill, h]
  rfl

end DataMethods.Template
