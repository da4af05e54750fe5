import DataMethods.TypeName

/-!
# Name resolvers

Whoever writes generated text asks a name resolver how to print each type. A resolver is any state
that answers requests: it prints the type or refuses it, moves to a new state either way, and tells
which imports the request made it record. `Verbatim` is the resolver that prints every type as it
was asked for and remembers what it was asked.
-/

namespace DataMethods

/-- What a resolver in a state of type `σ` answers to one request. -/
structure Answer (σ : Type) where
  /-- The text to print, or why the type was refused. -/
  outcome : Except MalformedType String
  /-- The state after the request. -/
  state : σ
  /-- The imports that the request newly recorded, in order. -/
  recorded : List String

/-- A state that answers requests for the printed form of types. -/
class NameResolver (σ : Type) where
  /-- Answers the request for one type. -/
  request : σ → String → Answer σ

/-- The resolver that prints types as they are. -/
structure Verbatim where
  /-- All types asked for so far, in order. -/
  requests : List String
deriving Repr, DecidableEq

instance : NameResolver Verbatim where
  request names type := ⟨.ok type, ⟨names.requests ++ [type]⟩, []⟩

end DataMethods
