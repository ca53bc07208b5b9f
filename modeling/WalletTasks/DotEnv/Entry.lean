import WalletTasks.Text.Alphanumeric
import WalletTasks.Text.Blank

/-!
# Entries of a variables file

An entry is a name, an equals sign and a value. A value may be quoted: strong quotation marks keep
every character, and weak ones, like no marks at all, leave the backslash and the dollar sign their
meanings. A dollar sign and a name stand for the value of that name; the character behind such a
name belongs to the value as it is.

* `readValue_strong`: text between strong quotation marks is kept as it is.
-/

namespace WalletTasks.DotEnv

/-- What the next character of a value means. The name behind a dollar sign is kept with its last
character first. -/
inductive Reading
  | plain
  | strong
  | escaped
  | name (letters : List Char)
  | braced (letters : List Char)
  | ended
deriving DecidableEq, Repr

/-- The character that a backslash and a character stand for. -/
def unescape? (c : Char) : Option Char :=
  if c = '\\' ∨ c = '\'' ∨ c = '"' ∨ c = '$' ∨ c = ' ' then some c
  else if c = 'n' then some '\n'
  else none

/-- The value of a name that has been collected with its last character first. -/
def valueOf (lookup : String → String) (letters : List Char) : List Char :=
  (lookup (String.ofList letters.reverse)).toList

/-- Reads the rest of a value; `weak` tells whether weak quotation marks are open. -/
def readValue (lookup : String → String) : Bool → Reading → List Char → Option (List Char)
  | weak, .plain, [] => if weak then none else some []
  | weak, .escaped, [] => if weak then none else some []
  | _, .strong, [] => none
  | weak, .name letters, [] => if weak then none else some (valueOf lookup letters)
  | _, .braced _, [] => none
  | _, .ended, [] => some []
  | weak, .plain, c :: s =>
    if c = '$' then readValue lookup weak (.name []) s
    else if c = '\\' then readValue lookup weak .escaped s
    else if c = '"' then readValue lookup (!weak) .plain s
    else if weak then (readValue lookup weak .plain s).map (c :: ·)
    else if c = '\'' then readValue lookup weak .strong s
    else if c = ' ' ∨ c = '\t' then readValue lookup weak .ended s
    else (readValue lookup weak .plain s).map (c :: ·)
  | weak, .strong, c :: s =>
    if c = '\'' then readValue lookup weak .plain s
    else (readValue lookup weak .strong s).map (c :: ·)
  | weak, .escaped, c :: s =>
    match unescape? c with
    | some d => (readValue lookup weak .plain s).map (d :: ·)
    | none => none
  | weak, .name letters, c :: s =>
    if Text.isAlphanumeric c then readValue lookup weak (.name (c :: letters)) s
    else if c = '\x7b' ∧ letters = [] then readValue lookup weak (.braced []) s
    else if c = '$' then
      (readValue lookup weak (.name []) s).map (valueOf lookup letters ++ ·)
    -- The character that ends a name has no meaning of its own: a quotation mark here opens and
    -- closes nothing.
    else (readValue lookup weak .plain s).map (valueOf lookup letters ++ c :: ·)
  | weak, .braced letters, c :: s =>
    if c = '\x7d' then (readValue lookup weak .plain s).map (valueOf lookup letters ++ ·)
    else readValue lookup weak (.braced (c :: letters)) s
  | weak, .ended, c :: s =>
    if c = ' ' ∨ c = '\t' then readValue lookup weak .ended s
    else if c = '#' then some []
    else none

/-- Whether a character may start a name. -/
def startsName (c : Char) : Bool := c.isAlpha || c = '_'

/-- Whether a character may stand in a name. -/
def continuesName (c : Char) : Bool := c.isAlphanum || c = '_' || c = '.'

/-- Reads a name. -/
def readName : List Char → Option (List Char × List Char)
  | [] => none
  | c :: s =>
    if startsName c then
      some ((c :: s).takeWhile continuesName, (c :: s).dropWhile continuesName)
    else none

/-- Reads an equals sign with blanks around it. -/
def readEquals (s : List Char) : Option (List Char) :=
  match Text.trimLeft s with
  | '=' :: s => some (Text.trimLeft s)
  | _ => none

/-- Reads a name and an equals sign. The word `export` may stand in front of the name; it is itself
a name if the equals sign follows it. -/
def readAssignment (s : List Char) : Option (List Char × List Char) := do
  let (name, s) ← readName s
  match readEquals s with
  | some s => some (name, s)
  | none =>
    if name = "export".toList then do
      let (name, s) ← readName (Text.trimLeft s)
      let s ← readEquals s
      some (name, s)
    else none

/-- Whether a text is empty or starts with a number sign. -/
def isVoid (s : List Char) : Bool := s = [] || s.head? = some '#'

/-- A name and its value. -/
structure Entry where
  name : String
  value : String
deriving DecidableEq, Repr

/-- Reads a line: `none` if it is malformed, and no entry if it is empty or a comment. -/
def Entry.ofLine? (lookup : String → String) (line : List Char) : Option (Option Entry) :=
  let s := Text.trim line
  if isVoid s then some none
  else do
    let (name, s) ← readAssignment s
    if isVoid s then some (some ⟨String.ofList name, ""⟩)
    else
      let value ← readValue lookup false .plain s
      some (some ⟨String.ofList name, String.ofList value⟩)

/-- Text between strong quotation marks is kept as it is. -/
theorem readValue_strong (lookup : String → String) {s : List Char} (h : '\'' ∉ s) :
    readValue lookup false .strong (s ++ ['\'']) = some s := by
  induction s with
  | nil => simp [readValue]
  | cons c s ih =>
    have hc : c ≠ '\'' := fun e => h (by simp [e])
    have hs : '\'' ∉ s := fun m => h (List.mem_cons_of_mem _ m)
    simp [readValue, hc, ih hs]

end WalletTasks.DotEnv
