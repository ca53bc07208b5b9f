import WalletTasks.Text.Hex
import WalletTasks.Text.Numeral

/-!
# JSON values and their text

A value is written in one of two layouts: compact, without any blank, or pretty, with one entry a
line and two blanks of indentation a level. Both write the same tokens. The fields of an object
keep their order.
-/

namespace WalletTasks

/-- A JSON value. Only whole numbers are ever written. -/
inductive Json
  | null
  | bool (b : Bool)
  | number (n : Int)
  | string (s : String)
  | array (items : List Json)
  | object (fields : List (String × Json))
deriving Repr, Inhabited

namespace Json

/-- A natural number as a JSON number. -/
def nat (n : Nat) : Json := number n

/-- A value that may be absent. -/
def option {α : Type} (encode : α → Json) : Option α → Json
  | none => null
  | some a => encode a

/-- A list of values. -/
def list {α : Type} (encode : α → Json) (xs : List α) : Json := array (xs.map encode)

/-- How a character stands in a string: quotes, backslashes and control characters are escaped. -/
def escape (c : Char) : List Char :=
  if c = '"' then ['\\', '"']
  else if c = '\\' then ['\\', '\\']
  else if c = '\n' then ['\\', 'n']
  else if c = '\r' then ['\\', 'r']
  else if c = '\t' then ['\\', 't']
  else if c = '\x08' then ['\\', 'b']
  else if c = '\x0c' then ['\\', 'f']
  else if c.toNat < 32 then '\\' :: 'u' :: Text.writeHex 4 c.toNat
  else [c]

/-- A string between quotes. -/
def writeString (s : String) : List Char := '"' :: s.toList.flatMap escape ++ ['"']

/-- A whole number. -/
def writeInt (n : Int) : List Char :=
  if n < 0 then '-' :: Text.digits n.natAbs else Text.digits n.natAbs

mutual

/-- The compact text of a value. -/
def write : Json → List Char
  | null => ['n', 'u', 'l', 'l']
  | bool true => ['t', 'r', 'u', 'e']
  | bool false => ['f', 'a', 'l', 's', 'e']
  | number n => writeInt n
  | string s => writeString s
  | array items => '[' :: writeItems items ++ [']']
  | object fields => '{' :: writeFields fields ++ ['}']

/-- The items of an array with commas between them. -/
def writeItems : List Json → List Char
  | [] => []
  | [j] => write j
  | j :: js => write j ++ ',' :: writeItems js

/-- The fields of an object with commas between them. -/
def writeFields : List (String × Json) → List Char
  | [] => []
  | [(k, j)] => writeString k ++ ':' :: write j
  | (k, j) :: fs => writeString k ++ ':' :: write j ++ ',' :: writeFields fs

end

/-- A new line with the indentation of a level. -/
def newLine (level : Nat) : List Char := '\n' :: List.replicate (2 * level) ' '

mutual

/-- The pretty text of a value at a level of indentation. -/
def writePretty (level : Nat) : Json → List Char
  | null => ['n', 'u', 'l', 'l']
  | bool true => ['t', 'r', 'u', 'e']
  | bool false => ['f', 'a', 'l', 's', 'e']
  | number n => writeInt n
  | string s => writeString s
  | array [] => ['[', ']']
  | array (j :: js) =>
    '[' :: newLine (level + 1) ++ writePrettyItems (level + 1) (j :: js) ++ newLine level ++ [']']
  | object [] => ['{', '}']
  | object (f :: fs) =>
    '{' :: newLine (level + 1) ++ writePrettyFields (level + 1) (f :: fs) ++ newLine level ++ ['}']

/-- The items of an array, one a line. -/
def writePrettyItems (level : Nat) : List Json → List Char
  | [] => []
  | [j] => writePretty level j
  | j :: js => writePretty level j ++ ',' :: newLine level ++ writePrettyItems level js

/-- The fields of an object, one a line. -/
def writePrettyFields (level : Nat) : List (String × Json) → List Char
  | [] => []
  | [(k, j)] => writeString k ++ ':' :: ' ' :: writePretty level j
  | (k, j) :: fs =>
    writeString k ++ ':' :: ' ' :: writePretty level j ++ ',' :: newLine level ++
      writePrettyFields level fs

end

/-- The compact text of a value. -/
def compact (j : Json) : String := String.ofList j.write

/-- The pretty text of a value. -/
def pretty (j : Json) : String := String.ofList (j.writePretty 0)

end Json

end WalletTasks
