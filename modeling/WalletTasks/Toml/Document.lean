import WalletTasks.Text.Blank
import WalletTasks.Toml.Scalar
import WalletTasks.Toml.Text

/-!
# Documents

A document is a sequence of lines: fields, headers, comments and empty lines. Arrays may run over
several lines, tables inside of a value may not. Values nest at most `maxDepth` deep, and a key has
at most that many parts.

* `readDocument_nil`: the empty document is the empty table.
-/

namespace WalletTasks.Toml

/-- How deep values nest, and how many parts a key has, at most. -/
def maxDepth : Nat := 79

def skipGaps (s : List Char) : List Char := s.dropWhile isGap

/-- Takes a newline or the end of the text. -/
def readNewline : List Char → Option (List Char)
  | [] => some []
  | '\n' :: s => some s
  | '\r' :: '\n' :: s => some s
  | _ => none

/-- Takes the end of a line: blanks, perhaps a comment, and a newline or the end of the text. -/
def readLineEnd (s : List Char) : Option (List Char) :=
  match skipGaps s with
  | '#' :: s => readNewline (s.dropWhile isPlain)
  | s => readNewline s

/-- Skips blanks, newlines and comments; `inComment` tells whether a comment is open. -/
def skipLines : Bool → List Char → Option (List Char)
  | inComment, [] => if inComment then none else some []
  | inComment, c :: s =>
    if c = '\n' then skipLines false s
    else if c = '\r' then if returns s then skipLines false s else none
    else if inComment then if isPlain c then skipLines true s else none
    else if isGap c then skipLines false s
    else if c = '#' then skipLines true s
    else some (c :: s)

/-- Whether a character may stand in a bare key. -/
def isBare (c : Char) : Bool := c.isAlphanum || c = '-' || c = '_'

/-- Reads one part of a key. -/
def readKeyPart (s : List Char) : Option (String × List Char) :=
  match s with
  | '"' :: _ => (readLineText s).map fun r => (String.ofList r.1, r.2)
  | '\'' :: _ => (readLineText s).map fun r => (String.ofList r.1, r.2)
  | _ =>
    let name := s.takeWhile isBare
    if name = [] then none else some (String.ofList name, s.dropWhile isBare)

/-- Reads a key of at most so many parts, with the blanks around it. -/
def readKey : Nat → List Char → Option (List String × List Char)
  | 0, _ => none
  | parts + 1, s => do
    let (name, s) ← readKeyPart (skipGaps s)
    match skipGaps s with
    | '.' :: s => do
      let (names, s) ← readKey parts s
      some (name :: names, s)
    | s => some ([name], s)

/-- Reads the items of an array, up to its closing bracket. The number bounds that of the items. -/
def readItems (readValue : List Char → Option (Value × List Char)) :
    Nat → List Char → Option (List Value × List Char)
  | 0, _ => none
  | bound + 1, s => do
    match ← skipLines false s with
    | ']' :: s => some ([], s)
    | s => do
      let (v, s) ← readValue s
      match ← skipLines false s with
      | ',' :: s => do
        let (vs, s) ← readItems readValue bound s
        some (v :: vs, s)
      | ']' :: s => some ([v], s)
      | _ => none

/-- Reads the fields of a table inside of a value, at least one, up to its closing brace. The number
bounds that of the fields. -/
def readFields (readValue : List Char → Option (Value × List Char)) :
    Nat → Fields → List Char → Option (Fields × List Char)
  | 0, _, _ => none
  | bound + 1, fs, s => do
    let (key, s) ← readKey maxDepth s
    let (v, s) ← readValue (skipGaps (← behind? '=' s))
    let fs ← Fields.insert key v fs
    match skipGaps s with
    | ',' :: s => readFields readValue bound fs s
    | '\x7d' :: s => some (fs, s)
    | _ => none

/-- Reads a value that nests at most so deep. -/
def readValue : Nat → List Char → Option (Value × List Char)
  | depth, s =>
    match s with
    | [] => none
    | c :: rest =>
      if c = '"' ∨ c = '\'' then (readText s).map fun r => (.text (String.ofList r.1), r.2)
      else if c = '[' then
        match depth with
        | 0 => none
        | depth + 1 =>
          (readItems (readValue depth) s.length rest).map fun r => (.array r.1, r.2)
      else if c = '\x7b' then
        match depth with
        | 0 => none
        | depth + 1 =>
          match skipGaps rest with
          | '\x7d' :: s => some (.table .inside [], s)
          | s =>
            (readFields (readValue depth) s.length [] s).map fun r => (.table .inside r.1, r.2)
      else
        let (word, rest) := readWord s
        (scalar? word).map (·, rest)

/-- The tables of a document so far, and the header that fields belong to. -/
structure Draft where
  header : List String
  root : Fields

namespace Draft

def empty : Draft := ⟨[], []⟩

/-- Adds a field below the header. -/
def addField (d : Draft) (key : List String) (v : Value) : Option Draft :=
  (Fields.within (Fields.insert key v) d.header d.root).map (⟨d.header, ·⟩)

/-- Starts the table of a header. -/
def startTable (d : Draft) (header : List String) : Option Draft :=
  (Fields.atHeader Fields.openTable header d.root).map (⟨header, ·⟩)

/-- Starts one more table of a header. -/
def startNext (d : Draft) (header : List String) : Option Draft :=
  (Fields.atHeader Fields.openNext header d.root).map (⟨header, ·⟩)

/-- Reads a header, behind its first bracket. -/
def readHeader (d : Draft) : List Char → Option (Draft × List Char)
  | '[' :: s => do
    let (header, s) ← readKey maxDepth s
    let s ← behind? ']' (← behind? ']' s)
    some (← d.startNext header, s)
  | s => do
    let (header, s) ← readKey maxDepth s
    let s ← behind? ']' s
    some (← d.startTable header, s)

/-- Reads a field. -/
def readField (d : Draft) (s : List Char) : Option (Draft × List Char) := do
  let (key, s) ← readKey maxDepth s
  let (v, s) ← readValue maxDepth (skipGaps (← behind? '=' s))
  some (← d.addField key v, s)

/-- Reads a line, and says what comes behind it. -/
def readLine (d : Draft) (s : List Char) : Option (Draft × List Char) :=
  match s with
  | '#' :: _ => (readLineEnd s).map (d, ·)
  | '\n' :: _ => (readLineEnd s).map (d, ·)
  | '\r' :: _ => (readLineEnd s).map (d, ·)
  | '[' :: s => do
    let (d, s) ← d.readHeader s
    some (d, ← readLineEnd s)
  | s => do
    let (d, s) ← d.readField s
    some (d, ← readLineEnd s)

/-- Reads lines up to the end of the text. The number bounds that of the lines. -/
def readLines : Nat → Draft → List Char → Option Draft
  | 0, _, _ => none
  | bound + 1, d, s =>
    match skipGaps s with
    | [] => some d
    | s => do
      let (d, s) ← d.readLine s
      readLines bound d s

end Draft

/-- Reads a document. -/
def readDocument (text : String) : Option Fields :=
  let s := Text.withoutMark text.toList
  (Draft.empty.readLines (s.length + 1) s).map (·.root)

theorem readDocument_nil : (readDocument "").isSome = true := rfl

end WalletTasks.Toml
