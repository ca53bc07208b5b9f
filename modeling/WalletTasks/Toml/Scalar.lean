import WalletTasks.Decimal.Binary64
import WalletTasks.Text.Hex
import WalletTasks.Time.Date
import WalletTasks.Toml.Table

/-!
# Numbers, truth values and times

The values that a single word is: whole numbers of 64 bits in four bases, fractions, truth values,
and dates and times of day. Underscores may stand between the digits of a number.

* `integer?_digits`: the digits of a number that fits denote it.
-/

namespace WalletTasks.Toml

/-- The digits of a number without the underscores between them. -/
def digitsOf? (isDigit : Char → Bool) : Bool → List Char → Option (List Char)
  | afterDigit, [] => if afterDigit then some [] else none
  | afterDigit, c :: s =>
    if isDigit c then (digitsOf? isDigit true s).map (c :: ·)
    else if c = '_' ∧ afterDigit then digitsOf? isDigit false s
    else none

/-- A sign in front of a number, and the rest. -/
def sign : List Char → Bool × List Char
  | '-' :: s => (true, s)
  | '+' :: s => (false, s)
  | s => (false, s)

/-- The digits of a whole number, which has no zero in front unless it is zero. -/
def wholeDigits? (s : List Char) : Option (List Char) := do
  let ds ← digitsOf? Text.isDigit false s
  if ds.head? = some '0' ∧ ds.length ≠ 1 then none else some ds

/-- One more than the greatest whole number. -/
def integerBound : Nat := 2 ^ 63

/-- A whole number in base ten. -/
def integer? (s : List Char) : Option Int := do
  let (negative, s) := sign s
  let n := Text.ofDigits (← wholeDigits? s)
  if negative then
    if n ≤ integerBound then some (-n) else none
  else if n < integerBound then some n else none

/-- A whole number in a base other than ten, from its digits. -/
def inBase? (base : Nat) (s : List Char) : Option Int := do
  let isDigit (c : Char) : Bool :=
    match Text.hexValue? c with
    | some d => d < base
    | none => false
  let ds ← digitsOf? isDigit false s
  let n := ds.foldl (fun n c => n * base + (Text.hexValue? c).getD 0) 0
  if n < integerBound then some n else none

/-- Splits a text before the first character of some kind. -/
def splitBefore (p : Char → Bool) (s : List Char) : List Char × List Char :=
  (s.takeWhile (!p ·), s.dropWhile (!p ·))

def isExponentMark (c : Char) : Bool := c = 'e' || c = 'E'

/-- The exponent of a fraction, behind its mark. -/
def exponent? : List Char → Option Int
  | [] => some 0
  | _ :: s => do
    let (negative, s) := sign s
    let n := Text.ofDigits (← digitsOf? Text.isDigit false s)
    some (if negative then -n else n)

/-- Whether digits times a power of ten are less than every number that is not finite. -/
def isFinite (ds : List Char) (exponent : Int) : Bool :=
  let ds := ds.dropWhile (· = '0')
  let places := ds.length + exponent
  if ds = [] ∨ places ≤ 308 then true
  else if 310 ≤ places then false
  else
    let (num, den) :=
      if 0 ≤ exponent then (Text.ofDigits ds * 10 ^ exponent.toNat, 1)
      else (Text.ofDigits ds, 10 ^ (-exponent).toNat)
    (Binary64.roundRatio num den).isSome

/-- Whether a word is a fraction: it has a point or an exponent, and unless it is negative it does
not exceed the finite numbers. -/
def isFraction (word : List Char) : Bool :=
  let (negative, s) := sign word
  if s = "inf".toList ∨ s = "nan".toList then true
  else
    let (mantissa, exponent) := splitBefore isExponentMark s
    let (whole, part) := splitBefore (· = '.') mantissa
    if part = [] ∧ exponent = [] then false
    else
      let part? := match part with
        | [] => some []
        | _ :: s => digitsOf? Text.isDigit false s
      match wholeDigits? whole, part?, exponent? exponent with
      | some ds, some ps, some e => negative || isFinite (ds ++ ps) (e - ps.length)
      | _, _, _ => false

/-- A number of so many digits, and the rest. -/
def fixedNumber? (count : Nat) (s : List Char) : Option (Nat × List Char) :=
  let ds := s.take count
  if ds.length = count ∧ ds.all Text.isDigit then some (Text.ofDigits ds, s.drop count) else none

/-- The rest behind a character. -/
def behind? (c : Char) : List Char → Option (List Char)
  | d :: s => if d = c then some s else none
  | [] => none

/-- Takes a date. -/
def date? (s : List Char) : Option (List Char) := do
  let (year, s) ← fixedNumber? 4 s
  let (month, s) ← fixedNumber? 2 (← behind? '-' s)
  let (day, s) ← fixedNumber? 2 (← behind? '-' s)
  if Date.isValid ⟨year, month, day⟩ then some s else none

/-- Takes an hour and a minute. -/
def hourMinute? (s : List Char) : Option (List Char) := do
  let (hour, s) ← fixedNumber? 2 s
  let (minute, s) ← fixedNumber? 2 (← behind? ':' s)
  if hour ≤ 23 ∧ minute ≤ 59 then some s else none

/-- Takes a time of day, which may have a fraction of a second. A minute may have a leap second. -/
def timeOfDay? (s : List Char) : Option (List Char) := do
  let s ← hourMinute? s
  let (second, s) ← fixedNumber? 2 (← behind? ':' s)
  if 60 < second then none
  else
    match s with
    | '.' :: s =>
      if (s.takeWhile Text.isDigit).isEmpty then none else some (s.dropWhile Text.isDigit)
    | s => some s

/-- Takes an offset from universal time, if there is one. -/
def offset? : List Char → Option (List Char)
  | [] => some []
  | 'Z' :: s => some s
  | 'z' :: s => some s
  | '+' :: s => hourMinute? s
  | '-' :: s => hourMinute? s
  | _ => none

/-- Whether a word is a date, a time of day, or both with a mark between them. -/
def isTime (word : List Char) : Bool :=
  match date? word with
  | some [] => true
  | some (c :: s) =>
    (c = 'T' || c = 't' || c = ' ') && ((timeOfDay? s).bind offset?) = some []
  | none => timeOfDay? word = some []

/-- The value that a word is. -/
def scalar? (word : List Char) : Option Value :=
  match word with
  | '0' :: 'x' :: s => (inBase? 16 s).map .integer
  | '0' :: 'o' :: s => (inBase? 8 s).map .integer
  | '0' :: 'b' :: s => (inBase? 2 s).map .integer
  | _ =>
    if word = "true".toList then some (.boolean true)
    else if word = "false".toList then some (.boolean false)
    else
      match integer? word with
      | some n => some (.integer n)
      | none =>
        if isFraction word then some (.fraction (String.ofList word))
        else if isTime word then some (.time (String.ofList word))
        else none

/-- Whether a character ends a word. -/
def endsWord (c : Char) : Bool :=
  c = ' ' || c = '\t' || c = '\n' || c = '\r' || c = ',' || c = ']' || c = '\x7d' || c = '#'

/-- Takes a word. A time of day behind a date and a space belongs to the word. -/
def readWord (s : List Char) : List Char × List Char :=
  let (word, rest) := splitBefore endsWord s
  match rest with
  | ' ' :: more =>
    let (next, rest') := splitBefore endsWord more
    -- A space ends every other word.
    if date? word = some [] ∧ (fixedNumber? 2 next).bind (behind? ':' ·.2) ≠ none then
      (word ++ ' ' :: next, rest')
    else (word, rest)
  | _ => (word, rest)

theorem digitsOf?_true {isDigit : Char → Bool} {s : List Char}
    (h : ∀ c ∈ s, isDigit c = true) : digitsOf? isDigit true s = some s := by
  induction s with
  | nil => rfl
  | cons c s ih =>
    simp [digitsOf?, h c (by simp), ih fun d hd => h d (List.mem_cons_of_mem _ hd)]

/-- Digits are found without any underscore. -/
theorem digitsOf?_of_digits {isDigit : Char → Bool} {s : List Char} (hs : s ≠ [])
    (h : ∀ c ∈ s, isDigit c = true) : digitsOf? isDigit false s = some s := by
  cases s with
  | nil => exact absurd rfl hs
  | cons c s =>
    simp [digitsOf?, h c (by simp), digitsOf?_true fun d hd => h d (List.mem_cons_of_mem _ hd)]

theorem wholeDigits?_digits (n : Nat) : wholeDigits? (Text.digits n) = some (Text.digits n) := by
  have hd := digitsOf?_of_digits (Text.digits_ne_nil n) (Text.isDigit_of_mem_digits n)
  have hz : ¬((Text.digits n).head? = some '0' ∧ (Text.digits n).length ≠ 1) := by
    rintro ⟨hh, hl⟩
    by_cases hn : n = 0
    · subst hn
      exact hl (by rw [Text.digits]; rfl)
    · exact Text.head?_digits (Nat.pos_of_ne_zero hn) hh
  simp [wholeDigits?, hd, hz]

theorem sign_digits (n : Nat) : sign (Text.digits n) = (false, Text.digits n) := by
  cases h : Text.digits n with
  | nil => exact absurd h (Text.digits_ne_nil n)
  | cons c s =>
    have hc : Text.isDigit c = true := Text.isDigit_of_mem_digits n c (by simp [h])
    unfold sign
    split
    · next he => cases he; exact absurd hc (by decide)
    · next he => cases he; exact absurd hc (by decide)
    · rfl

theorem integer?_digits {n : Nat} (h : n < integerBound) : integer? (Text.digits n) = some n := by
  simp [integer?, sign_digits, wholeDigits?_digits, Text.ofDigits_digits, h]

end WalletTasks.Toml
