/-!
# Characters, strings and keys of TOML

Readers of the smallest parts of a TOML document: blanks and comments, strings in their four
quotations, and dotted keys. A reader gives what it found and the text that follows, or nothing
when the document is malformed.
-/

namespace PEInspect.Toml

/-- Control characters other than the tab have no place in a document's strings and comments. -/
def isForbidden (c : Char) : Bool :=
  (c.toNat < 0x20 && c != '\t') || c.toNat == 0x7F

/-- The blanks inside a line. -/
def isBlank (c : Char) : Bool :=
  c = ' ' || c = '\t'

/-- The text after leading blanks of the line. -/
def skipBlanks (s : List Char) : List Char :=
  s.dropWhile isBlank

/-- A document with every carriage return before a line feed removed. -/
def unifyLineEnds : List Char → List Char
  | '\r' :: '\n' :: rest => '\n' :: unifyLineEnds rest
  | c :: rest => c :: unifyLineEnds rest
  | [] => []

/-- The text from the end of the line on, where a comment may come first. -/
def skipComment (s : List Char) : Option (List Char) :=
  match s with
  | '#' :: rest =>
    if (rest.takeWhile (· != '\n')).any isForbidden then none
    else some (rest.dropWhile (· != '\n'))
  | s => some s

/-- The text after blanks, line ends and comments; `inComment` says whether a comment is open. -/
def skipGaps (inComment : Bool) : List Char → Option (List Char)
  | [] => some []
  | c :: rest =>
    if c = '\n' then skipGaps false rest
    else if inComment then (if isForbidden c then none else skipGaps true rest)
    else if isBlank c then skipGaps false rest
    else if c = '#' then skipGaps true rest
    else some (c :: rest)

/-! ## Strings -/

/-- A literal string of one line, after its opening quote. -/
def readLiteral : List Char → Option (List Char × List Char)
  | [] => none
  | c :: rest =>
    if c = '\'' then some ([], rest)
    else if isForbidden c then none
    else (readLiteral rest).map fun (s, rest) => (c :: s, rest)

/-- A literal string of several lines, up to three quotes. -/
def readLiteralBlock : List Char → Option (List Char × List Char)
  | [] => none
  | '\'' :: '\'' :: '\'' :: rest => some ([], rest)
  | c :: rest =>
    if isForbidden c && c != '\n' then none
    else (readLiteralBlock rest).map fun (s, rest) => (c :: s, rest)

/-- The value of a hexadecimal digit. -/
def hexValue? (c : Char) : Option Nat :=
  if '0' ≤ c ∧ c ≤ '9' then some (c.toNat - 48)
  else if 'a' ≤ c ∧ c ≤ 'f' then some (c.toNat - 87)
  else if 'A' ≤ c ∧ c ≤ 'F' then some (c.toNat - 55)
  else none

/-- The character whose code point hexadecimal digits write; surrogates are no characters. -/
def hexChar? (digits : List Char) : Option Char := do
  let n ← digits.foldlM (fun n c => (hexValue? c).map (n * 16 + ·)) 0
  if n < 0xD800 ∨ (0xE000 ≤ n ∧ n < 0x110000) then some (Char.ofNat n) else none

/-- The character that a backslash and a letter stand for. -/
def shortEscape? (c : Char) : Option Char :=
  if c = 'b' then some '\x08'
  else if c = 't' then some '\t'
  else if c = 'n' then some '\n'
  else if c = 'f' then some '\x0c'
  else if c = 'r' then some '\r'
  else if c = '"' ∨ c = '\\' then some c
  else none

/-- A basic string of one line, after its opening quote. -/
def readBasic : List Char → Option (List Char × List Char)
  | [] => none
  | '"' :: rest => some ([], rest)
  | '\\' :: 'u' :: a :: b :: c :: d :: rest => do
    let e ← hexChar? [a, b, c, d]
    (readBasic rest).map fun (s, rest) => (e :: s, rest)
  | '\\' :: 'U' :: a :: b :: c :: d :: e :: f :: g :: h :: rest => do
    let x ← hexChar? [a, b, c, d, e, f, g, h]
    (readBasic rest).map fun (s, rest) => (x :: s, rest)
  | '\\' :: c :: rest => do
    let e ← shortEscape? c
    (readBasic rest).map fun (s, rest) => (e :: s, rest)
  | c :: rest =>
    if isForbidden c then none
    else (readBasic rest).map fun (s, rest) => (c :: s, rest)

/-- What a string of several lines does with blanks: keeps them, drops them up to the end of a
line that a backslash continues, or drops them and line ends alike. -/
inductive Margin where
  | keep
  | toLineEnd
  | toText
  deriving Repr, DecidableEq

/-- A basic string of several lines, up to three quotes. -/
def readBasicBlock : Margin → List Char → Option (List Char × List Char)
  | _, [] => none
  | .toLineEnd, c :: rest =>
    if c = '\n' then readBasicBlock .toText rest
    else if isBlank c then readBasicBlock .toLineEnd rest
    else none
  | _, '"' :: '"' :: '"' :: rest => some ([], rest)
  | _, '\\' :: 'u' :: a :: b :: c :: d :: rest => do
    let e ← hexChar? [a, b, c, d]
    (readBasicBlock .keep rest).map fun (s, rest) => (e :: s, rest)
  | _, '\\' :: 'U' :: a :: b :: c :: d :: e :: f :: g :: h :: rest => do
    let x ← hexChar? [a, b, c, d, e, f, g, h]
    (readBasicBlock .keep rest).map fun (s, rest) => (x :: s, rest)
  | _, '\\' :: c :: rest =>
    if c = '\n' then readBasicBlock .toText rest
    else if isBlank c then readBasicBlock .toLineEnd rest
    else do
      let e ← shortEscape? c
      (readBasicBlock .keep rest).map fun (s, rest) => (e :: s, rest)
  | margin, c :: rest =>
    if margin = .toText ∧ (c = '\n' ∨ isBlank c) then readBasicBlock .toText rest
    else if isForbidden c && c != '\n' then none
    else (readBasicBlock .keep rest).map fun (s, rest) => (c :: s, rest)

/-- Up to two further quotes after the closing three belong to the string. -/
def extraQuotes (quote : Char) (s rest : List Char) : List Char × List Char :=
  match rest with
  | a :: b :: tail =>
    if a = quote then (if b = quote then (s ++ [a, b], tail) else (s ++ [a], b :: tail))
    else (s, rest)
  | [a] => if a = quote then (s ++ [a], []) else (s, rest)
  | [] => (s, rest)

/-- A line end directly after the opening quotes of a block is not part of it. -/
def skipFirstLineEnd : List Char → List Char
  | '\n' :: rest => rest
  | s => s

/-- A string in any quotation, if the text starts with a quote. -/
def readString? : List Char → Option (Option (List Char × List Char))
  | '"' :: '"' :: '"' :: rest =>
    some ((readBasicBlock .keep (skipFirstLineEnd rest)).map fun (s, rest) =>
      extraQuotes '"' s rest)
  | '\'' :: '\'' :: '\'' :: rest =>
    some ((readLiteralBlock (skipFirstLineEnd rest)).map fun (s, rest) => extraQuotes '\'' s rest)
  | '"' :: rest => some (readBasic rest)
  | '\'' :: rest => some (readLiteral rest)
  | _ => none

/-! ## Keys -/

/-- The characters of a key without quotes. -/
def isBareKeyChar (c : Char) : Bool :=
  c.isAlphanum || c = '-' || c = '_'

/-- One part of a key. -/
def readKeyPart (s : List Char) : Option (String × List Char) :=
  match s with
  | '"' :: rest => (readBasic rest).map fun (k, rest) => (String.ofList k, rest)
  | '\'' :: rest => (readLiteral rest).map fun (k, rest) => (String.ofList k, rest)
  | s =>
    match s.takeWhile isBareKeyChar with
    | [] => none
    | k => some (String.ofList k, s.dropWhile isBareKeyChar)

/-- A key: parts with a dot and optional blanks between them. -/
def readKey : Nat → List Char → Option (List String × List Char)
  | 0, _ => none
  | fuel + 1, s => do
    let (part, rest) ← readKeyPart s
    match skipBlanks rest with
    | '.' :: rest =>
      let (parts, rest) ← readKey fuel (skipBlanks rest)
      return (part :: parts, rest)
    | rest => return ([part], rest)

end PEInspect.Toml
