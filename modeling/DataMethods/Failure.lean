import DataMethods.Rendering
import DataMethods.Template.Fragment

/-!
# Failures

A generated method does not let the failures of the persistence layer through: each is rethrown as a
failure of the public interface. `FailureMapping.forOperation` says which become which. A blocking
method does so in catch clauses, a reactive one in stages of its pipeline.
-/

namespace DataMethods

/-- A handled failure, and the failure that is thrown for it. -/
structure FailureMapping where
  handled : String
  rethrown : String
deriving Repr, DecidableEq

namespace FailureMapping

open Template.Fragment

/-- What an insertion handles first. -/
def constraint : FailureMapping :=
  ⟨"org.hibernate.exception.ConstraintViolationException",
   "jakarta.data.exceptions.EntityExistsException"⟩

/-- What any other operation handles first. -/
def staleState : FailureMapping :=
  ⟨"org.hibernate.StaleStateException",
   "jakarta.data.exceptions.OptimisticLockingFailureException"⟩

/-- All other failures of the persistence layer. -/
def persistence : FailureMapping :=
  ⟨"jakarta.persistence.PersistenceException", "jakarta.data.exceptions.DataException"⟩

/-- The mappings for an operation. The most general one comes last, so that it hides no other. -/
def forOperation : Operation → List FailureMapping
  | .insert => [constraint, persistence]
  | _ => [staleState, persistence]

/-- The fragment of a catch clause. -/
def catchClause : String := source
  [slot "indent", plain "catch (", slot "handled", plain " exception) \x7b\n",
   slot "body_indent", plain "throw new ", slot "rethrown",
   plain "(exception.getMessage(), exception);\n",
   slot "indent", plain "\x7d\n"]

/-- The fragment of a recovery stage. -/
def recoveryStage : String := source
  [plain "\n", slot "stage_indent", plain ".onFailure(", slot "handled", plain ".class)\n",
   slot "transform_indent", plain ".transform(_ex -> new ", slot "rethrown",
   plain "(_ex.getMessage(), _ex))"]

/-- The catch clause for a mapping. -/
def renderCatch {σ : Type} [NameResolver σ] (indent : String) (m : FailureMapping) :
    Rendering σ String := do
  let handled ← Rendering.printType m.handled
  let rethrown ← Rendering.printType m.rethrown
  Rendering.fillFragment catchClause
    [("indent", .str indent), ("body_indent", .str (indentation 2 indent)),
     ("handled", .str handled), ("rethrown", .str rethrown)]

/-- The recovery stage for a mapping. -/
def renderStage {σ : Type} [NameResolver σ] (indent : String) (m : FailureMapping) :
    Rendering σ String := do
  let handled ← Rendering.printType m.handled
  let rethrown ← Rendering.printType m.rethrown
  Rendering.fillFragment recoveryStage
    [("stage_indent", .str (indentation 3 indent)),
     ("transform_indent", .str (indentation 5 indent)),
     ("handled", .str handled), ("rethrown", .str rethrown)]

/-- The catch clauses for mappings, in their order. -/
def renderCatches {σ : Type} [NameResolver σ] (indent : String) (ms : List FailureMapping) :
    Rendering σ String := do
  return String.join (← ms.mapM (renderCatch indent))

/-- The recovery stages for mappings, in their order. -/
def renderStages {σ : Type} [NameResolver σ] (indent : String) (ms : List FailureMapping) :
    Rendering σ String := do
  return String.join (← ms.mapM (renderStage indent))

end FailureMapping

end DataMethods
