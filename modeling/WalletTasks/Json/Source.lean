import WalletTasks.Decimal.Binary64
import WalletTasks.Json.Basic

/-!
# JSON as it was found

A reader of JSON meets the faults of a text where they stand: a field of the wrong type may come in
front of a missing brace, and then it is the field that is reported. So the text is first turned
into a tree that keeps its first flaw in place, and a decoder that walks the tree in the order of
the text finds the faults in that order too.

* `Source.read` turns a text into such a tree.
* `Json.source` is the tree of a value without flaws.
-/

namespace WalletTasks.Json

/-- How a text fails to be JSON: it ends too early, or something stands where it may not. -/
inductive Flaw
  | truncated
  | malformed
deriving DecidableEq, Repr

/-- The end of an array or object that was not closed: what was wrong, and whether a comma had
already promised another entry. -/
structure Cut where
  flaw : Flaw
  afterComma : Bool
deriving DecidableEq, Repr

/-- What a reader finds at the place of a value. Numbers are whole, or digits times a power of ten.
`unreadable` is a literal of correct form that denotes nothing: it harms only who wants its value.
`flawed` is a place without a value; `started` says that something other than a string stands
there. The key of a field is missing if it is unreadable. -/
inductive Source
  | null
  | bool (b : Bool)
  | whole (n : Int)
  | real (negative : Bool) (significand : Nat) (exponent : Int)
  | string (s : String)
  | array (items : List Source) (cut : Option Cut)
  | object (fields : List (Option String × Source)) (cut : Option Cut)
  | unreadable
  | flawed (flaw : Flaw) (started : Bool)
deriving Inhabited

/-- The rest of a text behind what was read, or the flaw that ends it. -/
abbrev Rest := Except Flaw (List Char)

/-- Whether a character may stand between tokens. -/
def isGap (c : Char) : Bool := c == ' ' || c == '\n' || c == '\t' || c == '\r'

/-- Drops the blanks in front of a token. -/
def skipGap (s : List Char) : List Char := s.dropWhile isGap

/-! ## Strings -/

/-- Four hexadecimal digits; a text that ends inside them is truncated. -/
def readHex4 (s : List Char) : Except Flaw (Nat × List Char) :=
  match s with
  | a :: b :: c :: d :: r =>
    match Text.readHex [a, b, c, d] with
    | some n => .ok (n, r)
    | none => .error .malformed
  | _ => if s.foldl (fun n c => n + c.utf8Size) 0 < 4 then .error .truncated else .error .malformed

/-- What stands for one character in a string: the character, nothing if it is half of a surrogate
pair, or the closing quote. -/
inductive Piece
  | char (c : Char)
  | unpaired
  | close

/-- Reads one character of a string, an escape, or the closing quote. A half of a surrogate pair
that is not followed by its other half takes only its own escape, so that a reader who skips the
string goes on behind it. -/
def readPiece (s : List Char) : Except Flaw (Piece × List Char) :=
  match s with
  | [] => .error .truncated
  | '"' :: r => .ok (.close, r)
  | '\\' :: [] => .error .truncated
  | '\\' :: 'u' :: r =>
    match readHex4 r with
    | .error f => .error f
    | .ok (n, r) =>
      if 0xD800 ≤ n ∧ n ≤ 0xDBFF then
        match r with
        | [] => .error .truncated
        | ['\\'] => .error .truncated
        | '\\' :: 'u' :: r' =>
          match readHex4 r' with
          | .error f => .error f
          | .ok (m, r'') =>
            if 0xDC00 ≤ m ∧ m ≤ 0xDFFF then
              .ok (.char (Char.ofNat (0x10000 + (n - 0xD800) * 0x400 + (m - 0xDC00))), r'')
            -- The second escape is read again, as a character of its own.
            else .ok (.unpaired, r)
        | _ => .ok (.unpaired, r)
      else if 0xDC00 ≤ n ∧ n ≤ 0xDFFF then .ok (.unpaired, r)
      else .ok (.char (Char.ofNat n), r)
  | '\\' :: c :: r =>
    if c = '"' then .ok (.char '"', r)
    else if c = '\\' then .ok (.char '\\', r)
    else if c = '/' then .ok (.char '/', r)
    else if c = 'b' then .ok (.char '\x08', r)
    else if c = 'f' then .ok (.char '\x0c', r)
    else if c = 'n' then .ok (.char '\n', r)
    else if c = 'r' then .ok (.char '\r', r)
    else if c = 't' then .ok (.char '\t', r)
    else .error .malformed
  | c :: r => if c.toNat < 32 then .error .malformed else .ok (.char c, r)

/-- What a string literal denotes: its characters, nothing if one of them is half of a surrogate
pair, or nothing because it breaks off. -/
inductive Literal
  | text (s : String)
  | unreadable
  | broken (f : Flaw)

/-- Reads a string behind its opening quote. A flaw behind an unreadable character is met too late
to matter to who wants the characters. Each step takes at least one character of the text. -/
def readChars : Nat → List Char → List Char → Bool → Literal × Rest
  | 0, _, _, _ => (.broken .truncated, .error .truncated)
  | fuel + 1, s, acc, clean =>
    match readPiece s with
    | .error f => (if clean then .broken f else .unreadable, .error f)
    | .ok (.close, r) => (if clean then .text (String.ofList acc.reverse) else .unreadable, .ok r)
    | .ok (.unpaired, r) => readChars fuel r acc false
    | .ok (.char c, r) => readChars fuel r (c :: acc) clean

/-- Reads a string behind its opening quote. -/
def readString (s : List Char) : Literal × Rest := readChars (s.length + 1) s [] true

/-- The node of a string. -/
def Literal.source : Literal → Source
  | .text s => .string s
  | .unreadable => .unreadable
  | .broken f => .flawed f false

/-- The key that a string stands for. -/
def Literal.key? : Literal → Option String
  | .text s => some s
  | _ => none

/-! ## Numbers -/

/-- Adds a digit while the digits fit in 64 bits; a digit of the whole part that does not fit
stands for a power of ten. -/
def takeWhole : Nat → Int → List Char → Nat × Int
  | n, e, [] => (n, e)
  | n, e, c :: s =>
    if e = 0 ∧ n * 10 + Text.digitValue c < 2 ^ 64 then
      takeWhole (n * 10 + Text.digitValue c) 0 s
    else takeWhole n (e + 1) s

/-- Adds digits behind the point while they fit in 64 bits, and drops the others. -/
def takeFraction : Nat → Int → List Char → Nat × Int
  | n, e, [] => (n, e)
  | n, e, c :: s =>
    if n * 10 + Text.digitValue c < 2 ^ 64 then
      takeFraction (n * 10 + Text.digitValue c) (e - 1) s
    else (n, e)

/-- The node of a number that is not whole or too large for 64 bits. -/
def realSource (negative : Bool) (n : Nat) (e : Int) : Source :=
  match Binary64.ofDigits n e with
  | some _ => .real negative n e
  | none => .unreadable

/-- The node of a whole number. -/
def wholeSource (negative : Bool) (n : Nat) (e : Int) : Source :=
  if e = 0 ∧ !negative then .whole n
  else if e = 0 ∧ 0 < n ∧ n ≤ 2 ^ 63 then .whole (-(n : Int))
  else realSource negative n e

/-- A place where a number breaks off: who skips it does not tell an early end from a wrong
character. -/
def brokenNumber (s : List Char) : Source × Rest :=
  (.flawed (if s.isEmpty then .truncated else .malformed) true, .error .malformed)

/-- Reads the exponent of a number, behind the letter. An exponent of more than five digits is far
beyond the range of numbers on either side and is cut off. -/
def readExponent (negative : Bool) (n : Nat) (e : Int) (s : List Char) : Source × Rest :=
  let (down, s) :=
    match s with
    | '-' :: r => (true, r)
    | '+' :: r => (false, r)
    | r => (false, r)
  let ds := s.takeWhile Text.isDigit
  if ds.isEmpty then brokenNumber s
  else
    let x : Int := Text.ofDigits ds
    (realSource negative n (if down then max (e - x) (-100000) else min (e + x) 100000),
      .ok (s.drop ds.length))

/-- Reads what may follow the whole part of a number. -/
def readTail (negative : Bool) (n : Nat) (e : Int) (s : List Char) : Source × Rest :=
  match s with
  | '.' :: r =>
    let ds := r.takeWhile Text.isDigit
    if ds.isEmpty then brokenNumber r
    else
      let (n, e) := takeFraction n e ds
      match r.drop ds.length with
      | 'e' :: r => readExponent negative n e r
      | 'E' :: r => readExponent negative n e r
      | r => (realSource negative n e, .ok r)
  | 'e' :: r => readExponent negative n e r
  | 'E' :: r => readExponent negative n e r
  | r => (wholeSource negative n e, .ok r)

/-- Reads a number behind its sign. A zero in front of another digit is refused. -/
def readNumber (negative : Bool) (s : List Char) : Source × Rest :=
  match s with
  | '0' :: c :: r =>
    if Text.isDigit c then (.flawed .malformed true, .error .malformed)
    else readTail negative 0 0 (c :: r)
  | ['0'] => readTail negative 0 0 []
  | _ =>
    let ds := s.takeWhile Text.isDigit
    if ds.isEmpty then brokenNumber s
    else
      let (n, e) := takeWhole 0 0 ds
      readTail negative n e (s.drop ds.length)

/-! ## Values -/

/-- Reads the rest of a word. -/
def readWord (word : List Char) (value : Source) : List Char → Source × Rest :=
  match word with
  | [] => fun s => (value, .ok s)
  | w :: ws => fun s =>
    match s with
    | [] => (.flawed .truncated true, .error .truncated)
    | c :: r =>
      if c = w then readWord ws value r else (.flawed .malformed true, .error .malformed)

mutual

/-- Reads a value behind blanks. -/
def readValue : Nat → List Char → Source × Rest
  | 0, _ => (.flawed .truncated false, .error .truncated)
  | fuel + 1, s =>
    match skipGap s with
    | [] => (.flawed .truncated false, .error .truncated)
    | 'n' :: r => readWord ['u', 'l', 'l'] .null r
    | 't' :: r => readWord ['r', 'u', 'e'] (.bool true) r
    | 'f' :: r => readWord ['a', 'l', 's', 'e'] (.bool false) r
    | '"' :: r => ((readString r).1.source, (readString r).2)
    | '-' :: r => readNumber true r
    | '[' :: r =>
      match skipGap r with
      | ']' :: r => (.array [] none, .ok r)
      | r =>
        let (items, cut, rest) := readItems fuel r false
        (.array items cut, rest)
    | '{' :: r =>
      match skipGap r with
      | '}' :: r => (.object [] none, .ok r)
      | r =>
        let (fields, cut, rest) := readFields fuel r false
        (.object fields cut, rest)
    | c :: r =>
      if Text.isDigit c then readNumber false (c :: r)
      else (.flawed .malformed true, .error .malformed)

/-- Reads the items of an array; an item that is not there ends it. -/
def readItems : Nat → List Char → Bool → List Source × Option Cut × Rest
  | 0, _, comma => ([], some ⟨.truncated, comma⟩, .error .truncated)
  | fuel + 1, s, comma =>
    match skipGap s with
    | [] => ([], some ⟨.truncated, comma⟩, .error .truncated)
    | ']' :: _ => ([], some ⟨.malformed, comma⟩, .error .malformed)
    | s =>
      match readValue fuel s with
      | (v, .error f) => ([v], some ⟨f, false⟩, .error f)
      | (v, .ok r) =>
        match skipGap r with
        | [] => ([v], some ⟨.truncated, false⟩, .error .truncated)
        | ']' :: r => ([v], none, .ok r)
        | ',' :: r =>
          let (vs, cut, rest) := readItems fuel r true
          (v :: vs, cut, rest)
        | _ => ([v], some ⟨.malformed, false⟩, .error .malformed)

/-- Reads the fields of an object; a field that is not there ends it. -/
def readFields : Nat → List Char → Bool → List (Option String × Source) × Option Cut × Rest
  | 0, _, comma => ([], some ⟨.truncated, comma⟩, .error .truncated)
  | fuel + 1, s, comma =>
    match skipGap s with
    | [] => ([], some ⟨.truncated, comma⟩, .error .truncated)
    | '"' :: r =>
      match readString r with
      | (.broken _, .error f) => ([], some ⟨f, comma⟩, .error f)
      | (_, .error f) => ([(none, .flawed f false)], some ⟨f, false⟩, .error f)
      | (l, .ok r) =>
        let k := l.key?
        match skipGap r with
        | [] => ([(k, .flawed .truncated false)], some ⟨.truncated, false⟩, .error .truncated)
        | ':' :: r =>
          match readValue fuel r with
          | (v, .error f) => ([(k, v)], some ⟨f, false⟩, .error f)
          | (v, .ok r) =>
            match skipGap r with
            | [] => ([(k, v)], some ⟨.truncated, false⟩, .error .truncated)
            | '}' :: r => ([(k, v)], none, .ok r)
            | ',' :: r =>
              let (fs, cut, rest) := readFields fuel r true
              ((k, v) :: fs, cut, rest)
            | _ => ([(k, v)], some ⟨.malformed, false⟩, .error .malformed)
        | _ => ([(k, .flawed .malformed false)], some ⟨.malformed, false⟩, .error .malformed)
    | _ => ([], some ⟨.malformed, comma⟩, .error .malformed)

end

/-- A text as it was found: the tree, and the flaw behind it if something else follows. -/
structure Document where
  root : Source
  trailing : Option Flaw

/-- Reads a text to the end. -/
def Source.read (s : List Char) : Document :=
  match readValue (2 * s.length + 2) s with
  | (v, .error f) => ⟨v, some f⟩
  | (v, .ok r) => ⟨v, if (skipGap r).isEmpty then none else some .malformed⟩

/-! ## Values as sources -/

mutual

/-- The tree of a value. -/
def source : Json → Source
  | null => .null
  | bool b => .bool b
  | number n => .whole n
  | string s => .string s
  | array items => .array (sourceItems items) none
  | object fields => .object (sourceFields fields) none

/-- The trees of a list of values. -/
def sourceItems : List Json → List Source
  | [] => []
  | j :: js => source j :: sourceItems js

/-- The trees of the fields of an object. -/
def sourceFields : List (String × Json) → List (Option String × Source)
  | [] => []
  | (k, j) :: fs => (some k, source j) :: sourceFields fs

end

end WalletTasks.Json
