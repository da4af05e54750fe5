import DataMethods.Method.Render
import Mathlib.Control.Monad.Basic

/-!
# Compiled fragments

The parts of a method are written through templates. Here each of them is compiled, and filled with
any values whatever: block lines are gone, and every value stands where its slot was, as it is.

## Key results

- `compile_*`: the template that each fragment compiles to
- `fill_*`: its text, for all values
-/

namespace DataMethods

namespace Template

open Fragment

theorem compile_source (row : List Chunk) :
    compile (source row) = (chunksOf (sourceOf row)).bind ofChunks := by
  rw [compile, source, String.toList_ofList]
  cases chunksOf (sourceOf row) <;> rfl

end Template

open Template

theorem Rendering.fillFragment_of_print {σ : Type} {source : String} {t : Template}
    {context : Context} {text : String} (hcompile : compile source = .ok t)
    (hown : context.lookup FillError.ownWord = none) (hprint : t.print context = .ok text) :
    (Rendering.fillFragment source context : Rendering σ String) = pure text := by
  rw [Rendering.fillFragment, hcompile]
  simp only [fill_eq_print hown, hprint]

/-! ## Compilation

The sources are closed texts, so they are compiled by evaluation. -/

theorem Method.compile_header : compile header = .ok
    (.text "\n" <| .branch "override" false (.text "@Override\n" .done) .done <|
      .text "public " <| .slot "result" <| .text " " <| .slot "method" <| .text "(" <|
      .branch "nonnull" false (.text "@" <| .slot "nonnull" <| .text " " .done) .done <|
      .slot "type" <| .text " " <| .slot "argument" <| .text ") \x7b\n" .done) := by
  rw [header, compile_source]
  decide +kernel

theorem Method.compile_nullGuard : compile nullGuard = .ok
    (.slot "indent" <| .text "if (" <| .slot "argument" <|
      .text " == null) throw new IllegalArgumentException(\"Null " <| .slot "argument" <|
      .text "\");\n" .done) := by
  rw [nullGuard, compile_source]
  decide +kernel

theorem Method.compile_blockingCall : compile blockingCall = .ok
    (.branch "choosing" false
      (.slot "indent" <| .text "if (" <| .slot "session" <| .text ".getIdentifier(" <|
        .slot "argument" <| .text ") == null)\n" <| .slot "nested" <| .slot "session" <|
        .text ".insert" <| .slot "tail" <| .text ";\n" <| .slot "indent" <| .text "else\n" <|
        .slot "nested" <| .slot "session" <| .text "." <| .slot "operation" <| .slot "tail" <|
        .text ";\n" .done)
      (.slot "indent" <| .slot "session" <| .text "." <| .slot "operation" <| .slot "tail" <|
        .text ";\n" .done)
      .done) := by
  rw [blockingCall, compile_source]
  decide +kernel

theorem Method.compile_reactiveCall : compile reactiveCall = .ok
    (.slot "indent" <| .text "return " <|
      .branch "deferred" false
        (.slot "field" <| .text ".chain(" <| .slot "session" <| .text " -> " .done) .done <|
      .branch "choosing" false
        (.text "(" <| .slot "session" <| .text ".getIdentifier(" <| .slot "argument" <|
          .text ") == null ? " <| .slot "session" <| .text ".insert(" <| .slot "argument" <|
          .text ") : " <| .slot "session" <| .text "." <| .slot "operation" <| .slot "tail" <|
          .text ")" .done)
        (.slot "session" <| .text "." <| .slot "operation" <| .slot "tail" .done) <|
      .branch "deferred" false (.text ")" .done) .done .done) := by
  rw [reactiveCall, compile_source]
  decide +kernel

theorem FailureMapping.compile_catchClause : compile catchClause = .ok
    (.slot "indent" <| .text "catch (" <| .slot "handled" <| .text " exception) \x7b\n" <|
      .slot "body_indent" <| .text "throw new " <| .slot "rethrown" <|
      .text "(exception.getMessage(), exception);\n" <| .slot "indent" <| .text "\x7d\n" .done) := by
  rw [catchClause, compile_source]
  decide +kernel

theorem FailureMapping.compile_recoveryStage : compile recoveryStage = .ok
    (.text "\n" <| .slot "stage_indent" <| .text ".onFailure(" <| .slot "handled" <|
      .text ".class)\n" <| .slot "transform_indent" <| .text ".transform(_ex -> new " <|
      .slot "rethrown" <| .text "(_ex.getMessage(), _ex))" .done) := by
  rw [recoveryStage, compile_source]
  decide +kernel

/-! ## Filled fragments

The values are arbitrary texts. A branch on a text goes by whether it is empty. Simplification must
not join neighbouring texts that are closed (`String.reduceAppend`), for the two sides of an equation
have different neighbours until all is associated to the right. -/

section

variable {σ : Type}

theorem Method.fill_header (override : Bool) (result method nonnull type argument : String) :
    (Rendering.fillFragment header
      [("override", .bool override), ("result", .str result), ("method", .str method),
       ("nonnull", .str nonnull), ("type", .str type),
       ("argument", .str argument)] : Rendering σ String) =
    pure ("\n" ++ (if override then "@Override\n" else "") ++ "public " ++ result ++ " " ++ method ++
      "(" ++ (if nonnull = "" then "" else "@" ++ nonnull ++ " ") ++ type ++ " " ++ argument ++
      ") \x7b\n") := by
  apply Rendering.fillFragment_of_print compile_header rfl
  -- The branch tests the text itself, where the equation has a proposition about it.
  have htruth : (nonnull != "") = !decide (nonnull = "") := rfl
  cases override <;> by_cases hempty : nonnull = "" <;>
    simp [-String.reduceAppend, List.lookup_cons, Except.map, Except.bind, String.append_assoc, htruth,
      hempty]

theorem Method.fill_nullGuard (indent argument : String) :
    (Rendering.fillFragment nullGuard
      [("indent", .str indent), ("argument", .str argument)] : Rendering σ String) =
    pure (indent ++ "if (" ++ argument ++ " == null) throw new IllegalArgumentException(\"Null " ++
      argument ++ "\");\n") := by
  apply Rendering.fillFragment_of_print compile_nullGuard rfl
  simp [-String.reduceAppend, List.lookup_cons, Except.map, String.append_assoc]

theorem Method.fill_blockingCall (indent nested session argument operation tail : String)
    (choosing : Bool) :
    (Rendering.fillFragment blockingCall
      [("indent", .str indent), ("nested", .str nested), ("session", .str session),
       ("choosing", .bool choosing), ("argument", .str argument), ("operation", .str operation),
       ("tail", .str tail)] : Rendering σ String) =
    pure (if choosing then
        indent ++ "if (" ++ session ++ ".getIdentifier(" ++ argument ++ ") == null)\n" ++
        nested ++ session ++ ".insert" ++ tail ++ ";\n" ++
        indent ++ "else\n" ++
        nested ++ session ++ "." ++ operation ++ tail ++ ";\n"
      else indent ++ session ++ "." ++ operation ++ tail ++ ";\n") := by
  apply Rendering.fillFragment_of_print compile_blockingCall rfl
  cases choosing <;>
    simp [-String.reduceAppend, List.lookup_cons, Except.map, Except.bind, String.append_assoc]

theorem Method.fill_reactiveCall (indent field session argument operation tail : String)
    (deferred choosing : Bool) :
    (Rendering.fillFragment reactiveCall
      [("indent", .str indent), ("deferred", .bool deferred), ("field", .str field),
       ("session", .str session), ("choosing", .bool choosing), ("argument", .str argument),
       ("operation", .str operation), ("tail", .str tail)] : Rendering σ String) =
    pure (indent ++ "return " ++
      (if deferred then field ++ ".chain(" ++ session ++ " -> " else "") ++
      (if choosing then
        "(" ++ session ++ ".getIdentifier(" ++ argument ++ ") == null ? " ++
        session ++ ".insert(" ++ argument ++ ") : " ++ session ++ "." ++ operation ++ tail ++ ")"
      else session ++ "." ++ operation ++ tail) ++
      (if deferred then ")" else "")) := by
  apply Rendering.fillFragment_of_print compile_reactiveCall rfl
  cases deferred <;> cases choosing <;>
    simp [-String.reduceAppend, List.lookup_cons, Except.map, Except.bind, String.append_assoc]

theorem FailureMapping.fill_catchClause (indent body handled rethrown : String) :
    (Rendering.fillFragment catchClause
      [("indent", .str indent), ("body_indent", .str body), ("handled", .str handled),
       ("rethrown", .str rethrown)] : Rendering σ String) =
    pure (indent ++ "catch (" ++ handled ++ " exception) \x7b\n" ++
      body ++ "throw new " ++ rethrown ++ "(exception.getMessage(), exception);\n" ++
      indent ++ "\x7d\n") := by
  apply Rendering.fillFragment_of_print compile_catchClause rfl
  simp [-String.reduceAppend, List.lookup_cons, Except.map, String.append_assoc]

theorem FailureMapping.fill_recoveryStage (stage transform handled rethrown : String) :
    (Rendering.fillFragment recoveryStage
      [("stage_indent", .str stage), ("transform_indent", .str transform),
       ("handled", .str handled), ("rethrown", .str rethrown)] : Rendering σ String) =
    pure ("\n" ++ stage ++ ".onFailure(" ++ handled ++ ".class)\n" ++
      transform ++ ".transform(_ex -> new " ++ rethrown ++ "(_ex.getMessage(), _ex))") := by
  apply Rendering.fillFragment_of_print compile_recoveryStage rfl
  simp [-String.reduceAppend, List.lookup_cons, Except.map, String.append_assoc]

end

end DataMethods
