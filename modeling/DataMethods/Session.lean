import DataMethods.Text.Blank

/-!
# Sessions

A generated method delegates to a session. The type of the session decides the style of the method:
a reactive session is used in a pipeline, any other session by plain calls. A reactive session may
come wrapped in the type of a deferred value and is then unwrapped before use. Only the characters
of a session type that are not white space count.
-/

namespace DataMethods

/-- How a generated method works: by calls that wait, or by a pipeline that it returns. -/
inductive Style where
  | blocking
  | reactive
deriving Repr, DecidableEq

namespace Style

/-- All styles. -/
def all : List Style := [.blocking, .reactive]

/-- The word for a style. -/
def word : Style → String
  | .blocking => "blocking"
  | .reactive => "reactive"

end Style

namespace Session

/-- The type of a deferred value. -/
def uniType : String := "io.smallrye.mutiny.Uni"

/-- The list type of the generated language. -/
def listType : String := "java.util.List"

/-- The blocking session that tracks entities. -/
def statefulType : String := "org.hibernate.Session"

/-- The blocking session that does not track entities. -/
def statelessType : String := "org.hibernate.StatelessSession"

/-- The blocking session of the standard interface. -/
def entityManagerType : String := "jakarta.persistence.EntityManager"

/-- The reactive session that tracks entities. -/
def reactiveType : String := "org.hibernate.reactive.mutiny.Mutiny.Session"

/-- The reactive session that does not track entities. -/
def reactiveStatelessType : String := "org.hibernate.reactive.mutiny.Mutiny.StatelessSession"

/-- The type of a deferred value of the given type. -/
def deferred (type : String) : String := uniType ++ "<" ++ type ++ ">"

/-- The name under which a method knows the session that it has unwrapped. -/
def unwrappedName : String := "_session"

/-- The session type without white space. -/
def compact (type : String) : String :=
  String.ofList (Text.removeBlanks type.toList)

/-- Does the type stand for a deferred reactive session? -/
def isDeferred (type : String) : Bool :=
  [deferred reactiveType, deferred reactiveStatelessType].contains (compact type)

/-- The style that a session type asks for. -/
def style (type : String) : Style :=
  if [reactiveType, reactiveStatelessType].contains (compact type) || isDeferred type then
    .reactive
  else
    .blocking

end Session

end DataMethods
