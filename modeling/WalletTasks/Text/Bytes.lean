import WalletTasks.Text.Hex
import WalletTasks.Text.Invisible

/-!
# Bytes that may not be text

A sequence of bytes in UTF-8, some of which may belong to no character. `parts` splits it into
characters and stray bytes; it is text if no byte is stray. A display spells stray bytes and
characters that are not shown.

* `textOf?_chars`: parts that are all characters are text.
-/

namespace WalletTasks.Text

/-- The payload of a byte that continues a character. -/
def continuation? (b : UInt8) : Option Nat :=
  if b.toNat / 64 = 2 then some (b.toNat % 64) else none

/-- A character from its code point, if the sequence of bytes had to be that long. -/
def charOf? (least code : Nat) : Option Char :=
  if h : code.isValidChar then
    if least ≤ code then some (Char.ofNatAux code h) else none
  else none

/-- The character that starts a sequence of bytes, and the number of its bytes. -/
def firstChar? : List UInt8 → Option (Char × Nat)
  | [] => none
  | a :: bs =>
    let n := a.toNat
    if n < 0x80 then some (Char.ofNat n, 1)
    else if n / 32 = 6 then
      match bs with
      | b :: _ => do
        let b ← continuation? b
        let c ← charOf? 0x80 (n % 32 * 64 + b)
        some (c, 2)
      | _ => none
    else if n / 16 = 14 then
      match bs with
      | b :: c :: _ => do
        let b ← continuation? b
        let c ← continuation? c
        let r ← charOf? 0x800 ((n % 16 * 64 + b) * 64 + c)
        some (r, 3)
      | _ => none
    else if n / 8 = 30 then
      match bs with
      | b :: c :: d :: _ => do
        let b ← continuation? b
        let c ← continuation? c
        let d ← continuation? d
        let r ← charOf? 0x10000 (((n % 8 * 64 + b) * 64 + c) * 64 + d)
        some (r, 4)
      | _ => none
    else none

/-- A character, or a byte that belongs to none. -/
inductive Part
  | char (c : Char)
  | stray (b : UInt8)
deriving DecidableEq, Repr

/-- The characters and stray bytes of a sequence of bytes; `skip` counts the bytes that a character
in front has taken already. -/
def partsFrom : Nat → List UInt8 → List Part
  | _, [] => []
  | skip + 1, _ :: bs => partsFrom skip bs
  | 0, b :: bs =>
    match firstChar? (b :: bs) with
    | some (c, n) => .char c :: partsFrom (n - 1) bs
    | none => .stray b :: partsFrom 0 bs

/-- The characters and stray bytes of a sequence of bytes. -/
def parts (bs : List UInt8) : List Part := partsFrom 0 bs

/-- The text of parts without a stray byte. -/
def textOf? : List Part → Option (List Char)
  | [] => some []
  | .char c :: ps => (textOf? ps).map (c :: ·)
  | .stray _ :: _ => none

/-- A byte in hexadecimal, with capitals. -/
def capitalHex (b : UInt8) : List Char := (writeHex 2 b.toNat).map Char.toUpper

/-- The hexadecimal digits of a number without zeros in front. -/
def shortHex (n : Nat) : List Char :=
  match (writeHex 6 n).dropWhile (· == '0') with
  | [] => ['0']
  | ds => ds

/-- A character as a display shows or spells it. -/
def spell (c : Char) : List Char :=
  if c = '\x00' then ['\\', '0']
  else if c = '\t' then ['\\', 't']
  else if c = '\r' then ['\\', 'r']
  else if c = '\n' then ['\\', 'n']
  else if c = '\\' ∨ c = '"' ∨ c = '\'' then ['\\', c]
  else if isInvisible c then ['\\', 'u', '\x7b'] ++ shortHex c.toNat ++ ['\x7d']
  else [c]

/-- Parts between quotation marks, with stray bytes and unshown characters spelled. -/
def display (ps : List Part) : String :=
  String.ofList ('"' :: (ps.flatMap fun
    | .char c => spell c
    | .stray b => '\\' :: 'x' :: capitalHex b) ++ ['"'])

theorem textOf?_chars (s : List Char) : textOf? (s.map .char) = some s := by
  induction s with
  | nil => rfl
  | cons c s ih => simp [textOf?, ih]

end WalletTasks.Text
