import DataMethods.ImportTable
import DataMethods.Method.Render

/-!
# A sample

Two methods for looking at: an insertion into a blocking session, and an upsert of an array through
a reactive session that has to be unwrapped. They are written into one unit, and shown below its
imports.
-/

namespace DataMethods.Sample

/-- The insertion of a book into a blocking session. -/
def insertBook : MethodSpec where
  entityType := "org.example.Book"
  methodName := "insert"
  argumentName := "book"
  sessionName := "session"
  sessionType := Session.statelessType
  operation := .insert
  marksNonnull := true
  kind := .single
  returnsArgument := false
  generatesIdentifier := false
  overrides := true
  methodName_usable := by decide +kernel
  argumentName_usable := by decide +kernel
  sessionName_usable := by decide +kernel
  entityType_nonblank := by decide +kernel
  sessionType_nonblank := by decide +kernel
  not_list_upsert := by decide

/-- The upsert of an array of books through a reactive session. -/
def saveBooks : MethodSpec where
  entityType := "org.example.Book[]"
  methodName := "save"
  argumentName := "books"
  sessionName := "session"
  sessionType := Session.deferred Session.reactiveStatelessType
  operation := .upsert
  marksNonnull := false
  kind := .array
  returnsArgument := true
  generatesIdentifier := true
  overrides := true
  methodName_usable := by decide +kernel
  argumentName_usable := by decide +kernel
  sessionName_usable := by decide +kernel
  entityType_nonblank := by decide +kernel
  sessionType_nonblank := by decide +kernel
  not_list_upsert := by decide

/-- The package of the sample's unit. -/
def package : String := "org.example"

/-- The texts of the sample: the imports, then the methods. -/
def texts (settings : Settings) : Except RenderError (List String) :=
  let methods : Rendering ImportTable (List String) :=
    [insertBook, saveBooks].mapM (Method.render settings)
  match methods.start (.empty package) with
  | (.ok texts, run) => .ok (run.names.declarations :: texts)
  | (.error e, _) => .error e

/-- What the sample prints: each text with the end of its line. -/
def output (settings : Settings) : Except RenderError String :=
  (texts settings).map fun ts => String.join (ts.map (· ++ "\n"))

end DataMethods.Sample
