import WalletTasks.Text.Hex

/-!
# Quoted text

Text in a document stands between quotation marks of one of two kinds. Between basic marks a
backslash starts an escape; between literal marks every character stands for itself. Three marks
in place of one let the text run over several lines; then up to two marks may stand in the text,
even before the closing ones, and the newline behind the opening ones does not count.
-/

namespace WalletTasks.Toml

/-- Whether a character may stand in a line: a tab, or any character but the controls. -/
def isPlain (c : Char) : Bool := c = '\t' || (32 ≤ c.toNat && c.toNat ≠ 127)

def isGap (c : Char) : Bool := c = ' ' || c = '\t'

/-- The number of marks that a text starts with. -/
def countMarks (mark : Char) : List Char → Nat
  | [] => 0
  | c :: s => if c = mark then countMarks mark s + 1 else 0

/-- Takes the marks that close a text: one, or three behind up to two that belong to the text, whose
number is given. -/
def close? (lines : Bool) (mark : Char) (s : List Char) : Option (Nat × List Char) :=
  let count := countMarks mark s
  if lines then
    -- Of five marks in a row the last three close the text; a sixth is left behind it.
    if count < 3 then none else some (min count 5 - 3, s.drop (min count 5))
  else if count = 0 then none else some (0, s.drop 1)

/-- The character of an escape with one letter. -/
def escaped? (c : Char) : Option Char :=
  if c = 'b' then some '\x08'
  else if c = 't' then some '\t'
  else if c = 'n' then some '\n'
  else if c = 'f' then some '\x0c'
  else if c = 'r' then some '\r'
  else if c = '"' ∨ c = '\\' then some c
  else none

/-- The character with a code point. -/
def charOfCode? (n : Nat) : Option Char :=
  if h : n.isValidChar then some (Char.ofNatAux n h) else none

/-- Where a reader of basic text stands: in the text, behind a backslash, in a code point with so
many digits to come, behind a backslash at the end of a line, or before the next line's text. -/
inductive Escape
  | none
  | started
  | code (left value : Nat)
  | lineEnd
  | lineStart
deriving DecidableEq, Repr

/-- Whether a carriage return may stand here: before a newline only. -/
def returns (s : List Char) : Bool := s.head? = some '\n'

/-- Reads basic text up to the closing marks. -/
def readBasic (lines : Bool) : Escape → List Char → Option (List Char × List Char)
  | _, [] => .none
  | .none, c :: s =>
    match close? lines '"' (c :: s) with
    | some (marks, rest) => some (List.replicate marks '"', rest)
    | .none =>
      if c = '\\' then readBasic lines .started s
      else if isPlain c then (readBasic lines .none s).map fun r => (c :: r.1, r.2)
      else if lines ∧ c = '\n' then (readBasic lines .none s).map fun r => (c :: r.1, r.2)
      else if lines ∧ c = '\r' ∧ returns s then readBasic lines .none s
      else .none
  | .started, c :: s =>
    match escaped? c with
    | some d => (readBasic lines .none s).map fun r => (d :: r.1, r.2)
    | .none =>
      if c = 'u' then readBasic lines (.code 3 0) s
      else if c = 'U' then readBasic lines (.code 7 0) s
      else if lines ∧ isGap c then readBasic lines .lineEnd s
      else if lines ∧ c = '\n' then readBasic lines .lineStart s
      else if lines ∧ c = '\r' ∧ returns s then readBasic lines .lineEnd s
      else .none
  | .code left value, c :: s =>
    match Text.hexValue? c, left with
    | .none, _ => .none
    | some d, left + 1 => readBasic lines (.code left (value * 16 + d)) s
    | some d, 0 =>
      match charOfCode? (value * 16 + d) with
      | some e => (readBasic lines .none s).map fun r => (e :: r.1, r.2)
      | .none => .none
  | .lineEnd, c :: s =>
    if isGap c then readBasic lines .lineEnd s
    else if c = '\n' then readBasic lines .lineStart s
    else if c = '\r' ∧ returns s then readBasic lines .lineEnd s
    else .none
  | .lineStart, c :: s =>
    if isGap c ∨ c = '\n' then readBasic lines .lineStart s
    else if c = '\r' ∧ returns s then readBasic lines .lineStart s
    else
      match close? lines '"' (c :: s) with
      | some (marks, rest) => some (List.replicate marks '"', rest)
      | .none =>
        if c = '\\' then readBasic lines .started s
        else if isPlain c then (readBasic lines .none s).map fun r => (c :: r.1, r.2)
        else .none

/-- Reads literal text up to the closing marks. -/
def readLiteral (lines : Bool) : List Char → Option (List Char × List Char)
  | [] => none
  | c :: s =>
    match close? lines '\'' (c :: s) with
    | some (marks, rest) => some (List.replicate marks '\'', rest)
    | none =>
      if isPlain c then (readLiteral lines s).map fun r => (c :: r.1, r.2)
      else if lines ∧ c = '\n' then (readLiteral lines s).map fun r => (c :: r.1, r.2)
      else if lines ∧ c = '\r' ∧ returns s then readLiteral lines s
      else none

/-- The text behind opening marks, without the newline that may follow them. -/
def afterOpening : List Char → List Char
  | '\n' :: s => s
  | '\r' :: '\n' :: s => s
  | s => s

/-- Reads quoted text in one line. -/
def readLineText : List Char → Option (List Char × List Char)
  | '"' :: s => readBasic false .none s
  | '\'' :: s => readLiteral false s
  | _ => none

/-- Reads quoted text. -/
def readText : List Char → Option (List Char × List Char)
  | '"' :: '"' :: '"' :: s => readBasic true .none (afterOpening s)
  | '\'' :: '\'' :: '\'' :: s => readLiteral true (afterOpening s)
  | s => readLineText s

end WalletTasks.Toml
