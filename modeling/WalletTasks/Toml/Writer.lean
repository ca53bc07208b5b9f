import WalletTasks.Text.Hex
import WalletTasks.Text.Numeral

/-!
# Written values

A text is written in the plainest form that it allows: between basic marks in one line, between
literal marks in one line, over several lines between basic marks or between literal ones, and only
then with escapes. Whole numbers are written in base ten.
-/

namespace WalletTasks.Toml

/-- The greatest number of marks in a row, in a text that follows so many. -/
def longestRun (mark : Char) : Nat → List Char → Nat
  | _, [] => 0
  | run, c :: s =>
    if c = mark then max (run + 1) (longestRun mark (run + 1) s) else longestRun mark 0 s

/-- Whether a character is a control other than the tab and the newline. -/
def isControl (c : Char) : Bool :=
  (c.toNat < 32 && c ≠ '\t' && c ≠ '\n') || c.toNat = 127

/-- The forms of a written text. -/
inductive Form
  | basic
  | literal
  | basicLines
  | literalLines
deriving DecidableEq, Repr

/-- The plainest form that a text allows. -/
def formOf (s : List Char) : Form :=
  let controls := s.any isControl
  let backslash := s.contains '\\'
  let newline := s.contains '\n'
  let basicRun := longestRun '"' 0 s
  let literalRun := longestRun '\'' 0 s
  if !controls ∧ !backslash ∧ basicRun = 0 ∧ !newline then .basic
  else if !controls ∧ literalRun = 0 ∧ !newline then .literal
  else if !controls ∧ !backslash ∧ basicRun ≤ 2 then .basicLines
  else if !controls ∧ literalRun ≤ 2 then .literalLines
  else if newline then .basicLines
  else .basic

/-- A character by its code point in four digits. -/
def codeEscape (c : Char) : List Char :=
  '\\' :: 'u' :: (Text.writeHex 4 c.toNat).map Char.toUpper

/-- Writes text between basic marks, behind so many marks in a row. Over several lines, a newline
and up to two marks in a row stand for themselves. -/
def writeBasic (lines : Bool) : Nat → List Char → List Char
  | _, [] => []
  | run, c :: s =>
    if c = '"' then
      if lines ∧ run < 2 then c :: writeBasic lines (run + 1) s
      else '\\' :: '"' :: writeBasic lines 0 s
    else if c = '\x08' then '\\' :: 'b' :: writeBasic lines 0 s
    else if c = '\t' then '\\' :: 't' :: writeBasic lines 0 s
    else if c = '\n' then
      if lines then c :: writeBasic lines 0 s else '\\' :: 'n' :: writeBasic lines 0 s
    else if c = '\x0c' then '\\' :: 'f' :: writeBasic lines 0 s
    else if c = '\r' then '\\' :: 'r' :: writeBasic lines 0 s
    else if c = '\\' then '\\' :: '\\' :: writeBasic lines 0 s
    else if isControl c then codeEscape c ++ writeBasic lines 0 s
    else c :: writeBasic lines 0 s

/-- Three marks, and a newline if the text has one. -/
def opening (mark : Char) (s : List Char) : List Char :=
  List.replicate 3 mark ++ if s.contains '\n' then ['\n'] else []

/-- Writes a text. -/
def writeText (s : List Char) : List Char :=
  match formOf s with
  | .basic => '"' :: writeBasic false 0 s ++ ['"']
  | .literal => '\'' :: s ++ ['\'']
  | .basicLines => opening '"' s ++ writeBasic true 0 s ++ List.replicate 3 '"'
  | .literalLines => opening '\'' s ++ s ++ List.replicate 3 '\''

/-- Writes a field. -/
def writeField (key : String) (value : List Char) : List Char :=
  key.toList ++ " = ".toList ++ value ++ ['\n']

/-- Writes a header. -/
def writeHeader (key : String) : List Char := '[' :: key.toList ++ "]\n".toList

end WalletTasks.Toml
