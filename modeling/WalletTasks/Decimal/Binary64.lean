import WalletTasks.Text.Numeral

/-!
# Binary fractions of 53 bits

Non-negative numbers of the binary interchange format of 64 bits: a significand below 2^53 times a
power of two of at least 2^-1074 and below 2^972. Arithmetic is exact and rounded once, to the
nearest, a tie going to the even significand. The text of such a number is the shortest decimal
that rounds to it, in positional notation.
-/

namespace WalletTasks

/-- The number `significand * 2 ^ exponent`. -/
structure Binary64 where
  significand : Nat
  exponent : Int
deriving DecidableEq, Repr

namespace Binary64

/-- A fraction rounded to the nearest whole number, a tie going to the even one. -/
def nearest (num den : Nat) : Nat :=
  let q := num / den
  let r := num % den
  if 2 * r < den ∨ (2 * r = den ∧ q % 2 = 0) then q else q + 1

/-- Numerator and denominator of a fraction times a power of two. -/
def timesPowerOfTwo (num den : Nat) (e : Int) : Nat × Nat :=
  if 0 ≤ e then (num * 2 ^ e.toNat, den) else (num, den * 2 ^ (-e).toNat)

/-- The least exponent that leaves a positive fraction a significand below 2^53. -/
def exponentFor (num den : Nat) : Int :=
  -- The logarithms tell the size of the fraction up to one power of two.
  let guess : Int := (Nat.log2 num : Int) - Nat.log2 den - 53
  let fits (e : Int) : Bool :=
    let (n, d) := timesPowerOfTwo num den (-e)
    n < d * 2 ^ 53
  let e := if fits guess then guess else guess + 1
  max e (-1074)

/-- The nearest number to a fraction, or `none` if it is too large. -/
def roundRatio (num den : Nat) : Option Binary64 :=
  if num = 0 then some ⟨0, -1074⟩
  else
    let e := exponentFor num den
    let (n, d) := timesPowerOfTwo num den (-e)
    let m := nearest n d
    -- Rounding up may take the significand to 2^53.
    let (m, e) := if m = 2 ^ 53 then (2 ^ 52, e + 1) else (m, e)
    if e < 972 then some ⟨m, e⟩ else none

/-- Numerator and denominator of a number. -/
def ratio (x : Binary64) : Nat × Nat := timesPowerOfTwo x.significand 1 x.exponent

/-- The product, rounded. -/
def mul (x y : Binary64) : Option Binary64 :=
  let (a, b) := x.ratio
  let (c, d) := y.ratio
  roundRatio (a * c) (b * d)

/-- The quotient, rounded. -/
def div (x y : Binary64) : Option Binary64 :=
  let (a, b) := x.ratio
  let (c, d) := y.ratio
  roundRatio (a * d) (b * c)

/-- The nearest number to a power of ten. -/
def powerOfTen (e : Nat) : Option Binary64 := roundRatio (10 ^ e) 1

/-- The number that a reader gets from decimal digits and a power of ten: the digits are rounded
first, then multiplied or divided by the rounded power, in steps of 308 digits when dividing. -/
def ofDigits (significand : Nat) (exponent : Int) : Option Binary64 := do
  let f ← roundRatio significand 1
  if f.significand = 0 then pure f
  else if 0 ≤ exponent then
    if exponent ≤ 308 then f.mul (← powerOfTen exponent.toNat) else none
  else shrink ((-exponent).toNat / 308) f (-exponent).toNat
where
  /-- Divides by a power of ten in steps of 308 digits. -/
  shrink : Nat → Binary64 → Nat → Option Binary64
  | 0, f, e => do f.div (← powerOfTen e)
  | steps + 1, f, e => do
    if e ≤ 308 then f.div (← powerOfTen e)
    else
      let g ← f.div (← powerOfTen 308)
      if g.significand = 0 then pure g else shrink steps g (e - 308)

/-- Whether a fraction rounds to a number. -/
def isRoundedFrom (x : Binary64) (num den : Nat) : Bool := roundRatio num den = some x

/-- The number of decimal digits in front of the point, less the zeros behind it. -/
def decimalExponent (num den : Nat) : Int :=
  if den ≤ num then (Text.digits (num / den)).length
  else 1 - (Text.digits ((den - 1) / num)).length

/-- The nearest decimal with so many digits that rounds to a number: the digits and a power of
ten. -/
def decimalOf? (x : Binary64) (count : Nat) : Option (Nat × Int) :=
  let (num, den) := x.ratio
  let place := decimalExponent num den - count
  let (up, down) : Nat × Nat :=
    if 0 ≤ place then (1, 10 ^ place.toNat) else (10 ^ (-place).toNat, 1)
  let low := num * up / (den * down)
  let hit (d : Nat) : Bool := x.isRoundedFrom (d * down) up
  let nearLow := 2 * (num * up % (den * down)) ≤ den * down
  match hit low, hit (low + 1) with
  | true, true => some (if nearLow then low else low + 1, place)
  | true, false => some (low, place)
  | false, true => some (low + 1, place)
  | false, false => none

/-- Moves zeros at the end of the digits into the power of ten. -/
def dropZeros (d : Nat) (place : Int) : Nat × Int :=
  if d % 10 = 0 ∧ 0 < d then dropZeros (d / 10) (place + 1) else (d, place)
termination_by d

/-- The shortest decimal that rounds to a number. -/
def shortest (x : Binary64) : Nat × Int :=
  if x.significand = 0 then (0, 0)
  else
    match (List.range 17).findSome? fun i => x.decimalOf? (i + 1) with
    | some (d, place) => dropZeros d place
    | none => (0, 0)

/-- The shortest decimal of a number in positional notation, without a point if it is whole. -/
def write (x : Binary64) : List Char :=
  let (d, place) := x.shortest
  if 0 ≤ place then Text.digits (d * 10 ^ place.toNat)
  else
    let p := (-place).toNat
    let ds := Text.padded (p + 1) d
    ds.take (ds.length - p) ++ '.' :: ds.drop (ds.length - p)

end Binary64

end WalletTasks
