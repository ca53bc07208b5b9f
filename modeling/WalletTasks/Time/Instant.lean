import WalletTasks.Text.Blank
import WalletTasks.Text.Numeral
import WalletTasks.Time.Date

/-!
# Instants

A moment of universal time to the nanosecond, in the years from -262143 to 262142. A leap second is
the sixtieth second of a minute and is held as a fraction of a thousand million nanoseconds or more.

An instant is written as a date, `T`, a time and `Z`, with no fraction or one of 3, 6 or 9 digits.
The reader is lenient: it takes a blank or a small letter for the `T`, any offset from universal
time, blanks in front of numbers and separators, and years of more than four digits behind a sign.
-/

namespace WalletTasks

/-- The day number of the first representable day. -/
def Instant.firstDay : Int := Date.toDays ⟨-262143, 1, 1⟩

/-- The day number of the last representable day. -/
def Instant.lastDay : Int := Date.toDays ⟨262142, 12, 31⟩

/-- A moment of universal time. -/
structure Instant where
  day : Int
  second : Nat
  nano : Nat
  firstDay_le : Instant.firstDay ≤ day := by decide
  le_lastDay : day ≤ Instant.lastDay := by decide
  second_lt : second < 86400 := by decide
  nano_lt : nano < 2000000000 := by decide
deriving DecidableEq, Repr

namespace Instant

/-- The instant with this day number, second of the day and fraction, if they are in range. -/
def ofParts? (day : Int) (second nano : Nat) : Option Instant :=
  if h : firstDay ≤ day ∧ day ≤ lastDay ∧ second < 86400 ∧ nano < 2000000000 then
    some ⟨day, second, nano, h.1, h.2.1, h.2.2.1, h.2.2.2⟩
  else none

/-- The first moment of 1970. -/
def epoch : Instant := ⟨0, 0, 0, by decide, by decide, by decide, by decide⟩

instance : Inhabited Instant := ⟨epoch⟩

/-- Seconds from the epoch. -/
def toSeconds (t : Instant) : Int := t.day * 86400 + t.second

/-- Nanoseconds from the epoch. -/
def toNanos (t : Instant) : Int := t.toSeconds * 1000000000 + t.nano

/-- The instant so many seconds from the epoch, with a fraction. -/
def ofSeconds? (seconds : Int) (nano : Nat) : Option Instant :=
  ofParts? (seconds / 86400) (seconds % 86400).toNat nano

/-- The instant some seconds later, if it is representable. Only a wait of no length stays inside a
leap second. -/
def addSeconds? (t : Instant) (n : Nat) : Option Instant :=
  if n = 0 then some t
  else ofSeconds? (t.toSeconds + n)
    (if 1000000000 ≤ t.nano then t.nano - 1000000000 else t.nano)

/-- The nanoseconds from `t` to `u`, or none if `u` is not later. -/
def nanosUntil (t u : Instant) : Nat := (u.toNanos - t.toNanos).toNat

/-! ## Writing -/

/-- Two digits. -/
def twoDigits (n : Nat) : List Char := Text.padded 2 n

/-- Four digits, or a sign and at least four digits outside the years 0 to 9999. -/
def writeYear (y : Int) : List Char :=
  if 0 ≤ y ∧ y ≤ 9999 then Text.padded 4 y.toNat
  else (if y < 0 then '-' else '+') :: Text.padded 4 y.natAbs

/-- A fraction of as many groups of three digits as it needs. -/
def writeFraction (nano : Nat) : List Char :=
  if nano = 0 then []
  else if nano % 1000000 = 0 then '.' :: Text.padded 3 (nano / 1000000)
  else if nano % 1000 = 0 then '.' :: Text.padded 6 (nano / 1000)
  else '.' :: Text.padded 9 nano

/-- Date, `T`, time and `Z`. -/
def write (t : Instant) : List Char :=
  let d := Date.ofDays t.day
  let leap := 1000000000 ≤ t.nano
  writeYear d.year ++ '-' :: twoDigits d.month ++ '-' :: twoDigits d.day ++
    'T' :: twoDigits (t.second / 3600) ++ ':' :: twoDigits (t.second / 60 % 60) ++
    ':' :: twoDigits (t.second % 60 + if leap then 1 else 0) ++
    writeFraction (if leap then t.nano - 1000000000 else t.nano) ++ ['Z']

/-- The text of an instant. -/
def text (t : Instant) : String := String.ofList t.write

instance : ToString Instant := ⟨text⟩

/-! ## Reading -/

/-- Reads one to `width` digits. -/
def readNumber (width : Nat) (s : List Char) : Option (Nat × List Char) :=
  let ds := (s.take width).takeWhile Text.isDigit
  if ds.isEmpty then none else some (Text.ofDigits ds, s.drop ds.length)

/-- Reads a year: four digits at most, or any number of digits behind a sign. -/
def readYear (s : List Char) : Option (Int × List Char) :=
  match Text.trimLeft s with
  | '-' :: t => (readNumber t.length t).map fun (n, r) => (-(n : Int), r)
  | '+' :: t => (readNumber t.length t).map fun (n, r) => ((n : Int), r)
  | t => (readNumber 4 t).map fun (n, r) => ((n : Int), r)

/-- Reads one or two digits behind blanks. -/
def readPart (s : List Char) : Option (Nat × List Char) := readNumber 2 (Text.trimLeft s)

/-- Reads a separator behind blanks. -/
def readMark (mark : Char) (s : List Char) : Option (List Char) :=
  match Text.trimLeft s with
  | c :: t => if c = mark then some t else none
  | [] => none

/-- Reads a fraction if there is one; digits behind the ninth are dropped. -/
def readFraction (s : List Char) : Option (Nat × List Char) :=
  match s with
  | '.' :: t =>
    let ds := t.takeWhile Text.isDigit
    if ds.isEmpty then none
    else
      let kept := ds.take 9
      some (Text.ofDigits kept * 10 ^ (9 - kept.length), t.drop ds.length)
  | _ => some (0, s)

/-- Reads an offset from universal time in seconds: `Z`, `UTC` or a sign, two digits of hours and
two of minutes, with colons or blanks between them. -/
def readOffset (s : List Char) : Option (Int × List Char) :=
  let s := Text.trimLeft s
  if (s.take 3).map Text.lowerAscii = ['u', 't', 'c'] then some (0, s.drop 3)
  else
    match s with
    | 'Z' :: t | 'z' :: t => some (0, t)
    | sign :: h1 :: h2 :: t =>
      let t := t.dropWhile fun c => c == ':' || Text.isBlank c
      match t with
      | m1 :: m2 :: r =>
        if (sign = '+' ∨ sign = '-' ∨ sign = '−') ∧ Text.isDigit h1 ∧ Text.isDigit h2 ∧
            Text.isDigit m1 ∧ m1 ≤ '5' ∧ Text.isDigit m2 then
          let seconds : Int := Text.ofDigits [h1, h2] * 3600 + Text.ofDigits [m1, m2] * 60
          some (if sign = '+' then seconds else -seconds, r)
        else none
      | _ => none
    | _ => none

/-- The sign between date and time. -/
def isDateEnd (c : Char) : Bool := c == 'T' || c == 't' || c == ' '

/-- Reads a date, a time and an offset, and turns them into universal time. -/
def read (s : List Char) : Option Instant := do
  let (year, s) ← readYear s
  let s ← readMark '-' s
  let (month, s) ← readPart s
  let s ← readMark '-' s
  let (day, s) ← readPart s
  let (c, s) ← s.head?.map fun c => (c, s.tail)
  guard (isDateEnd c)
  let (hour, s) ← readPart s
  let s ← readMark ':' s
  let (minute, s) ← readPart s
  let s ← readMark ':' s
  let (second, s) ← readPart s
  let (nano, s) ← readFraction s
  let (offset, s) ← readOffset s
  guard (s.all Text.isBlank)
  guard (hour < 24 ∧ minute < 60 ∧ second ≤ 60)
  guard (-86400 < offset ∧ offset < 86400)
  let date : Date := ⟨year, month, day⟩
  guard date.isValid
  -- Second 60 is held as second 59 with one more second in the fraction.
  let local' ← ofParts? date.toDays (hour * 3600 + minute * 60 + min second 59)
    (if second = 60 then nano + 1000000000 else nano)
  ofSeconds? (local'.toSeconds - offset) local'.nano

/-- Reads an instant from a string. -/
def read? (s : String) : Option Instant := read s.toList

end Instant

end WalletTasks
