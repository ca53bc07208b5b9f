import WalletTasks.Text.Numeral

/-!
# Fixed-point decimals

A decimal is a whole mantissa of at most 96 bits and a scale of at most 28: it denotes the mantissa
divided by ten to the scale. The scale is kept, so `1.10` and `1.1` are two decimals of one value.

* `lt_iff`, `le_iff`: the order is the order of the denoted fractions.
* `fitDigits_of_lt`: a product that fits in 96 bits is kept as it is.
* `mantissa_truncate_le`, `mantissa_normalize_le`: dropping digits and zeros keeps a whole bound.
-/

namespace WalletTasks

/-- A decimal with a mantissa of at most 96 bits and at most 28 digits after the point. -/
structure Decimal where
  mantissa : Int
  scale : Nat
  mantissa_lt : mantissa.natAbs < 2 ^ 96 := by decide
  scale_le : scale ≤ 28 := by decide
deriving DecidableEq, Repr

namespace Decimal

/-- The decimal with this mantissa and scale, if both are in range. -/
def ofParts? (mantissa : Int) (scale : Nat) : Option Decimal :=
  if h : mantissa.natAbs < 2 ^ 96 ∧ scale ≤ 28 then some ⟨mantissa, scale, h.1, h.2⟩ else none

/-- The decimal of a whole number, if it has at most 96 bits. -/
def ofInt? (n : Int) : Option Decimal := ofParts? n 0

def zero : Decimal := ⟨0, 0, by decide, by decide⟩

def one : Decimal := ⟨1, 0, by decide, by decide⟩

def oneHundred : Decimal := ⟨100, 0, by decide, by decide⟩

/-- So many tenths. -/
def tenths (n : Nat) (h : n < 2 ^ 96 := by decide) : Decimal := ⟨n, 1, h, by decide⟩

/-- The largest decimal. -/
def largest : Decimal := ⟨2 ^ 96 - 1, 0, by decide, by decide⟩

instance : Inhabited Decimal := ⟨zero⟩

/-- Order of the denoted fractions: both mantissas are brought to one denominator. -/
def lt (a b : Decimal) : Bool := a.mantissa * 10 ^ b.scale < b.mantissa * 10 ^ a.scale

/-- The order up to equality of value. -/
def le (a b : Decimal) : Bool := a.mantissa * 10 ^ b.scale ≤ b.mantissa * 10 ^ a.scale

/-- Drops the digits behind the first `places` ones after the point. -/
def truncate (places : Nat) (d : Decimal) : Decimal :=
  if h : d.scale ≤ places then d
  else
    ⟨d.mantissa.tdiv (10 ^ (d.scale - places)), places,
      Nat.lt_of_le_of_lt (by
        rw [Int.natAbs_tdiv]
        exact Nat.div_le_self _ _) d.mantissa_lt,
      by have := d.scale_le; omega⟩

/-- Takes zeros off the end of the digits after the point: a pair of mantissa and scale. -/
def stripZeros (mantissa : Int) : Nat → Int × Nat
  | 0 => (mantissa, 0)
  | s + 1 => if mantissa.tmod 10 = 0 then stripZeros (mantissa.tdiv 10) s else (mantissa, s + 1)

theorem natAbs_stripZeros (m : Int) (s : Nat) : (stripZeros m s).1.natAbs ≤ m.natAbs := by
  induction s generalizing m with
  | zero => exact Nat.le_refl _
  | succ s ih =>
    rw [stripZeros]
    split
    · refine Nat.le_trans (ih _) ?_
      rw [Int.natAbs_tdiv]
      exact Nat.div_le_self _ _
    · exact Nat.le_refl _

theorem scale_stripZeros (m : Int) (s : Nat) : (stripZeros m s).2 ≤ s := by
  induction s generalizing m with
  | zero => exact Nat.le_refl _
  | succ s ih =>
    rw [stripZeros]
    split
    · exact Nat.le_trans (ih _) (Nat.le_succ s)
    · exact Nat.le_refl _

/-- The same value with as few digits after the point as possible. -/
def normalize (d : Decimal) : Decimal :=
  ⟨(stripZeros d.mantissa d.scale).1, (stripZeros d.mantissa d.scale).2,
    Nat.lt_of_le_of_lt (natAbs_stripZeros _ _) d.mantissa_lt,
    Nat.le_trans (scale_stripZeros _ _) d.scale_le⟩

/-- A quotient of naturals rounded to the nearest whole number, a half going to the even one. -/
def roundHalfEven (n d : Nat) : Nat :=
  let q := n / d
  let r := n % d
  if 2 * r < d then q
  else if d < 2 * r then q + 1
  else if q % 2 = 0 then q else q + 1

/-- Gives up as many digits after the point as it takes for the rest, rounded half to even, to fit
in 96 bits, starting with `dropped` digits and never more than the scale has: the mantissa and the
number of digits given up. -/
def fitDigits (m scale : Nat) (dropped : Nat) : Option (Nat × Nat) :=
  let r := roundHalfEven m (10 ^ dropped)
  if r < 2 ^ 96 then some (r, dropped)
  else if dropped < scale then fitDigits m scale (dropped + 1) else none
termination_by scale - dropped

theorem fitDigits_lt {m scale dropped r k : Nat} (h : fitDigits m scale dropped = some (r, k)) :
    r < 2 ^ 96 := by
  fun_induction fitDigits m scale dropped with
  | case1 dropped x hx =>
    simp only [Option.some.injEq, Prod.mk.injEq] at h
    rw [← h.1]
    exact hx
  | case2 dropped x hx hd ih => exact ih h
  | case3 => simp at h

/-- The product of a natural number with a decimal. A product of more than 96 bits gives up digits
after the point; `none` if it still does not fit. -/
def scaledBy? (n : Nat) (d : Decimal) : Option Decimal :=
  if n = 0 ∨ d.mantissa = 0 then some zero
  else
    match h : fitDigits (n * d.mantissa.natAbs) d.scale 0 with
    | none => none
    | some (r, k) =>
      some ⟨d.mantissa.sign * r, d.scale - k,
        Nat.lt_of_le_of_lt (by
          rw [Int.natAbs_mul, Int.natAbs_natCast]
          have : d.mantissa.sign.natAbs ≤ 1 := by
            rcases Int.sign_trichotomy d.mantissa with h | h | h <;> simp [h]
          exact Nat.le_trans (Nat.mul_le_mul_right r this) (by omega)) (fitDigits_lt h),
        Nat.le_trans (Nat.sub_le _ _) d.scale_le⟩

/-- The least whole number that is not below the decimal. -/
def ceil (d : Decimal) : Int := -((-d.mantissa) / 10 ^ d.scale)

theorem lt_iff {a b : Decimal} :
    a.lt b = true ↔ a.mantissa * 10 ^ b.scale < b.mantissa * 10 ^ a.scale := by
  simp [lt]

theorem le_iff {a b : Decimal} :
    a.le b = true ↔ a.mantissa * 10 ^ b.scale ≤ b.mantissa * 10 ^ a.scale := by
  simp [le]

theorem fitDigits_of_lt {m scale : Nat} (h : m < 2 ^ 96) : fitDigits m scale 0 = some (m, 0) := by
  rw [fitDigits]
  simp [roundHalfEven, Nat.mod_one, h]

/-- Taking zeros off keeps a decimal at most a whole number. -/
theorem stripZeros_le {k m : Int} {s : Nat} (h : m ≤ k * 10 ^ s) :
    (stripZeros m s).1 ≤ k * 10 ^ (stripZeros m s).2 := by
  induction s generalizing m with
  | zero => exact h
  | succ s ih =>
    rw [stripZeros]
    split
    · rename_i hmod
      refine ih ?_
      have hm := Int.mul_tdiv_add_tmod m 10
      rw [Int.pow_succ, ← Int.mul_assoc] at h
      omega
    · exact h

theorem mantissa_normalize_le {k : Int} {d : Decimal} (h : d.mantissa ≤ k * 10 ^ d.scale) :
    d.normalize.mantissa ≤ k * 10 ^ d.normalize.scale := stripZeros_le h

/-- Dropping digits of a decimal keeps it at most a whole number. -/
theorem mantissa_truncate_le {k : Int} {d : Decimal} (places : Nat) (hd : 0 ≤ d.mantissa)
    (h : d.mantissa ≤ k * 10 ^ d.scale) :
    (d.truncate places).mantissa ≤ k * 10 ^ (d.truncate places).scale := by
  unfold truncate
  split
  · exact h
  · rename_i hscale
    have hpow : (10 : Int) ^ d.scale = 10 ^ places * 10 ^ (d.scale - places) := by
      rw [← Int.pow_add]
      congr 1
      omega
    rw [hpow, ← Int.mul_assoc] at h
    simp only
    rw [Int.tdiv_eq_ediv_of_nonneg hd]
    exact Int.ediv_le_of_le_mul (Int.pow_pos (by decide)) h

end Decimal

end WalletTasks
