import DataMethods.Template.Chunk
import DataMethods.Text.Quoted

/-!
# Templates

A template is a sequence of texts, slots for variables, and branches on the truth of a variable.
`compile` reads one from its source: a slot holds the name of a variable; a block `if x` or
`if not x` opens a branch, which goes on to the block `endif` and may be parted by `else`. The first
fault in the order of reading is reported.
-/

namespace DataMethods

/-- A compiled template: what comes first, and what follows. -/
inductive Template where
  /-- The end of the sequence. -/
  | done
  /-- Text that is printed as it is. -/
  | text (s : String) (rest : Template)
  /-- The place of a variable's value. -/
  | slot (name : String) (rest : Template)
  /-- A choice by a variable's truth, or by its opposite. -/
  | branch (name : String) (negated : Bool) (yes no rest : Template)
deriving Repr, DecidableEq

namespace Template

/-- A block that ends a part of a branch. -/
inductive BlockEnd where
  | otherwise
  | finish
deriving Repr, DecidableEq

namespace BlockEnd

/-- The text inside the block, without white space at its ends. -/
def word : BlockEnd → String
  | .otherwise => "else"
  | .finish => "endif"

/-- The end that a word stands for. -/
def ofWord? (word : List Char) : Option BlockEnd :=
  [otherwise, finish].find? fun ending => ending.word.toList == word

end BlockEnd

/-- Why a source is no template. -/
inductive CompileError where
  /-- A text with an opening that belongs to no tag, shown by its beginning. -/
  | unclosedTag (near : String)
  /-- A slot that holds no name. -/
  | slotExpression (expression : String)
  /-- A condition that is no name. -/
  | conditionExpression (expression : String)
  /-- A block that ends a part of a branch where none can end. -/
  | unexpectedBlock (ending : BlockEnd)
  /-- A block of no known kind. -/
  | unsupportedBlock (tag : String)
  /-- A branch that does not end; its condition as written. -/
  | missingEnd (condition : String)
deriving Repr, DecidableEq

namespace CompileError

/-- The message for a fault. -/
def message : CompileError → String
  | .unclosedTag near =>
    "Unclosed template tag near " ++ String.ofList (Text.quoted near.toList) ++ "."
  | .slotExpression expression => "Unsupported variable expression '" ++ expression ++ "'."
  | .conditionExpression expression =>
    "Unsupported if condition expression '" ++ expression ++ "'."
  | .unexpectedBlock ending => "Unexpected block tag '" ++ ending.word ++ "'."
  | .unsupportedBlock tag => "Unsupported template tag '" ++ tag ++ "'."
  | .missingEnd condition => "Unclosed if block for '" ++ condition ++ "': missing endif."

end CompileError

/-- The chunks of a source, or the first text among them that holds a lone opening. -/
def chunksOf (source : List Char) : Except CompileError (List Chunk) :=
  let cs := chunks (withoutBlockLines true source)
  match cs.find? Chunk.isUnclosed with
  | some bad => .error (.unclosedTag (String.ofList ((Text.trim bad.source).take 40)))
  | none => .ok cs

/-- A name for a variable: ASCII letters, digits and underscores, no digit first. -/
def isVariableName : List Char → Bool
  | [] => false
  | c :: cs => (c.isAlpha || c == '_') && cs.all fun d => d.isAlphanum || d == '_'

/-- Where a row of chunks stands: outside all branches, or in a part of one. -/
inductive Level where
  | top
  | yesPart
  | noPart
deriving Repr, DecidableEq

/-- Can a part of a template end so at this level? -/
def Level.endsWith : Level → BlockEnd → Bool
  | .top, _ => false
  | .yesPart, _ => true
  | .noPart, ending => ending == .finish

/-- A condition: the name of a variable, and whether the branch goes by its opposite. -/
structure Condition where
  name : String
  negated : Bool
deriving Repr, DecidableEq

/-- Reads the text after the word `if`, which has no white space at its ends. -/
def Condition.read (expression : List Char) : Except CompileError Condition :=
  let (negated, name) :=
    match Text.stripStart? "not ".toList expression with
    | some rest => (true, Text.trim rest)
    | none => (false, expression)
  if isVariableName name then .ok ⟨String.ofList name, negated⟩
  else .error (.conditionExpression (String.ofList name))

/-- A block: the end of a part, or the beginning of a branch with its condition, which is also kept
as it was written. -/
inductive Block where
  | ends (ending : BlockEnd)
  | opens (condition : Condition) (written : String)
deriving Repr, DecidableEq

/-- Reads the text inside a block. -/
def Block.read (inside : List Char) : Except CompileError Block :=
  let tag := Text.trim inside
  match BlockEnd.ofWord? tag with
  | some ending => .ok (.ends ending)
  | none =>
    match Text.stripStart? "if ".toList tag with
    | none => .error (.unsupportedBlock (String.ofList tag))
    | some rest =>
      let expression := Text.trim rest
      match Condition.read expression with
      | .error e => .error e
      | .ok condition => .ok (.opens condition (String.ofList expression))

/-- Reads the text inside a slot. -/
def readSlot (inside : List Char) : Except CompileError String :=
  let name := String.ofList (Text.trim inside)
  if isVariableName name.toList then .ok name else .error (.slotExpression name)

/-- A part of a template that was read from the first of `n` chunks. -/
structure Part (n : Nat) where
  /-- What was read. -/
  template : Template
  /-- The block that ended the part, unless the chunks ran out. -/
  ending : Option BlockEnd
  /-- The chunks after that block. -/
  rest : List Chunk
  /-- No chunk was added. -/
  length_le : rest.length ≤ n

/-- Reads chunks up to a block that ends a part at this level, or to the last one. -/
def readPart (level : Level) : (cs : List Chunk) → Except CompileError (Part cs.length)
  | [] => .ok ⟨.done, none, [], Nat.le_refl _⟩
  | .text s :: cs =>
    match readPart level cs with
    | .error e => .error e
    | .ok ⟨t, ending, rest, h⟩ => .ok ⟨.text (String.ofList s) t, ending, rest, Nat.le_succ_of_le h⟩
  | .slot inside :: cs =>
    match readSlot inside with
    | .error e => .error e
    | .ok name =>
      match readPart level cs with
      | .error e => .error e
      | .ok ⟨t, ending, rest, h⟩ => .ok ⟨.slot name t, ending, rest, Nat.le_succ_of_le h⟩
  | .block inside :: cs =>
    match Block.read inside with
    | .error e => .error e
    | .ok (.ends ending) =>
      if level.endsWith ending then .ok ⟨.done, some ending, cs, Nat.le_succ _⟩
      else .error (.unexpectedBlock ending)
    | .ok (.opens ⟨name, negated⟩ written) =>
      match readPart .yesPart cs with
      | .error e => .error e
      | .ok ⟨_, none, _, _⟩ => .error (.missingEnd written)
      | .ok ⟨yes, some .finish, afterYes, h⟩ =>
        have : afterYes.length < cs.length + 1 := Nat.lt_succ_of_le h
        match readPart level afterYes with
        | .error e => .error e
        | .ok ⟨t, ending, rest, h'⟩ =>
          .ok ⟨.branch name negated yes .done t, ending, rest,
            Nat.le_succ_of_le (Nat.le_trans h' h)⟩
      | .ok ⟨yes, some .otherwise, afterYes, h⟩ =>
        have : afterYes.length < cs.length + 1 := Nat.lt_succ_of_le h
        match readPart .noPart afterYes with
        | .error e => .error e
        | .ok ⟨_, none, _, _⟩ => .error (.missingEnd written)
        | .ok ⟨no, some _, afterNo, h'⟩ =>
          have : afterNo.length < cs.length + 1 := Nat.lt_succ_of_le (Nat.le_trans h' h)
          match readPart level afterNo with
          | .error e => .error e
          | .ok ⟨t, ending, rest, h''⟩ =>
            .ok ⟨.branch name negated yes no t, ending, rest,
              Nat.le_succ_of_le (Nat.le_trans h'' (Nat.le_trans h' h))⟩
termination_by cs => cs.length
decreasing_by
  · exact Nat.lt_succ_self _
  · exact Nat.lt_succ_self _
  · exact Nat.lt_succ_self _
  all_goals assumption

/-- Reads all chunks as one template. -/
def ofChunks (cs : List Chunk) : Except CompileError Template :=
  match readPart .top cs with
  | .error e => .error e
  | .ok part => .ok part.template

/-- Compiles the source of a template. -/
def compile (source : String) : Except CompileError Template :=
  match chunksOf source.toList with
  | .error e => .error e
  | .ok cs => ofChunks cs

end Template

end DataMethods
