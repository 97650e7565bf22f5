import PEInspect.Toml.Token
import PEInspect.Toml.Scalar
import PEInspect.Toml.Namespace

/-!
# Reading TOML

Values with their nesting, statements, and whole documents: `Toml.read` gives the table of a
document, or its first defect. A document is malformed where it breaks the grammar and where it
contradicts what it said before, so every pair and every header takes effect as soon as it is read.
-/

namespace PEInspect.Toml

open Document

/-- A value that is neither a string, a list nor a table. -/
def readPlain (s : List Char) : Except Defect (Value × List Char) :=
  match s with
  | 't' :: 'r' :: 'u' :: 'e' :: rest => .ok (.bool true, rest)
  | 'f' :: 'a' :: 'l' :: 's' :: 'e' :: rest => .ok (.bool false, rest)
  | s =>
    match readMoment? s with
    | some result => Defect.ofOption result
    | none =>
      match readTime? s with
      | some (t, rest) => .ok (.time t, rest)
      | none =>
        match readMarked? s with
        | some result => .ok result
        | none => (readDecimal? s).getD (Defect.ofOption (readNamedFloat? s))

/-- How much nesting a document may have. The format sets no such limit: this is where one
interpreter, as it is set up by default, was measured to run out of room. -/
def maxNesting : Nat := 980

/-- How much nesting a list inside another value takes. -/
def listNesting : Nat := 2

/-- How much nesting an inline table inside another value takes. -/
def tableNesting : Nat := 3

mutual

/-- A value at the start of a text; `room` tells how much nesting there may still be. -/
def readValue : Nat → Nat → List Char → Except Defect (Value × List Char)
  | 0, _, _ => .error .malformed
  | fuel + 1, room, s =>
    match readString? s with
    | some result => (Defect.ofOption result).map fun (t, rest) => (.text (String.ofList t), rest)
    | none =>
      match s with
      | '[' :: rest => do
        if room < listNesting then throw .deepNesting
        match ← Defect.ofOption (skipGaps false rest) with
        | ']' :: rest => return (.list [], rest)
        | rest =>
          let (items, rest) ← readItems fuel (room - listNesting) rest
          return (.list items, rest)
      | '{' :: rest => do
        if room < tableNesting then throw .deepNesting
        match skipBlanks rest with
        | '}' :: rest => return (.table [], rest)
        | rest =>
          let (entries, rest) ← readPairs fuel (room - tableNesting) {} rest
          return (.table entries, rest)
      | s => readPlain s

/-- The items of a list from the first one to the closing bracket; a comma may follow the last. -/
def readItems : Nat → Nat → List Char → Except Defect (List Value × List Char)
  | 0, _, _ => .error .malformed
  | fuel + 1, room, s => do
    let (v, rest) ← readValue fuel room s
    match ← Defect.ofOption (skipGaps false rest) with
    | ']' :: rest => return ([v], rest)
    | ',' :: rest =>
      match ← Defect.ofOption (skipGaps false rest) with
      | ']' :: rest => return ([v], rest)
      | rest =>
        let (items, rest) ← readItems fuel room rest
        return (v :: items, rest)
    | _ => throw .malformed

/-- The pairs of an inline table from a key to the closing brace, after those of a draft. -/
def readPairs : Nat → Nat → InlineDraft → List Char → Except Defect (Table × List Char)
  | 0, _, _, _ => .error .malformed
  | fuel + 1, room, draft, s => do
    let (path, rest) ← Defect.ofOption (readKey fuel s)
    match rest with
    | '=' :: rest =>
      let (v, rest) ← readValue fuel room (skipBlanks rest)
      let draft ← Defect.ofOption (draft.add path v)
      match skipBlanks rest with
      | '}' :: rest => return (draft.entries, rest)
      | ',' :: rest => readPairs fuel room draft (skipBlanks rest)
      | _ => throw .malformed
    | _ => throw .malformed

end

/-- A header, up to its closing brackets. -/
def readHeader (fuel : Nat) : List Char → Option (Statement × List Char)
  | '[' :: '[' :: rest => do
    let (path, rest) ← readKey fuel (skipBlanks rest)
    match rest with
    | ']' :: ']' :: rest => return (.listHeader path, rest)
    | _ => none
  | s => do
    let (path, rest) ← readKey fuel (skipBlanks (s.drop 1))
    match rest with
    | ']' :: rest => return (.header path, rest)
    | _ => none

/-- The statement at the start of a line that holds one. -/
def readStatement (fuel : Nat) (s : List Char) : Except Defect (Statement × List Char) :=
  match s with
  | '[' :: _ => Defect.ofOption (readHeader fuel s)
  | s => do
    let (path, rest) ← Defect.ofOption (readKey fuel s)
    match rest with
    | '=' :: rest =>
      let (v, rest) ← readValue fuel maxNesting (skipBlanks rest)
      return (.pair path v, rest)
    | _ => throw .malformed

/-- The document that the statements of a text make of a draft, one to a line; lines may also be
empty or hold a comment. -/
def readStatements (fuel : Nat) (draft : Draft) (s : List Char) : Except Defect Draft :=
  match fuel with
  | 0 => .error .malformed
  | fuel + 1 =>
    match skipBlanks s with
    | [] => .ok draft
    | '\n' :: rest => readStatements fuel draft rest
    | '#' :: rest => do
      match ← Defect.ofOption (skipComment ('#' :: rest)) with
      | _ :: rest => readStatements fuel draft rest
      | [] => return draft
    | line => do
      let (statement, rest) ← readStatement fuel line
      let draft ← Defect.ofOption (draft.add statement)
      match ← Defect.ofOption (skipComment (skipBlanks rest)) with
      | [] => return draft
      | '\n' :: rest => readStatements fuel draft rest
      | _ => throw .malformed

/-- The table of a document. Each step of reading takes a character or descends once, so the fuel
never runs out first. -/
def read (text : String) : Except Defect Table := do
  let s := unifyLineEnds text.toList
  return (← readStatements (2 * s.length + 2) {} s).root

end PEInspect.Toml
