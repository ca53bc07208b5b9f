import WalletTasks.Decimal.Basic
import Mathlib.Algebra.Order.Floor.Ring
import Mathlib.Data.Rat.Floor
import Mathlib.Tactic.FieldSimp
import Mathlib.Tactic.Linarith
import Mathlib.Tactic.Positivity
import Mathlib.Tactic.Ring

/-!
# Decimals as fractions

A decimal denotes a fraction, and what is done with decimals is a fact about fractions: order,
dropping digits and taking off zeros are exact, and a product with a natural number is exact unless
it takes more than 96 bits. Then it is rounded at some digit behind the point, so it stays between
the whole numbers that the exact product lies between.

* `value_truncate`, `value_normalize`, `ceil_eq_ceil_value`: the operations on fractions.
* `value_of_scaledBy?`: a product of less than 96 bits is exact.
* `natCast_le_value_of_scaledBy?`, `value_le_natCast_of_scaledBy?`: rounding passes no whole number.
* `scaledBy?_eq_none_iff`: there is no product from half below 2^96 on.
-/

namespace WalletTasks.Decimal

variable {a b d p : Decimal} {n m k lo hi scale dropped : ℕ}

/-- The fraction that a decimal denotes. -/
def value (d : Decimal) : ℚ := d.mantissa / 10 ^ d.scale

theorem pow_ten_pos (n : ℕ) : (0 : ℚ) < 10 ^ n := by positivity

/-! ## Order -/

/-- Comparing decimals compares their values. -/
theorem lt_iff_value : a.lt b = true ↔ a.value < b.value := by
  rw [lt_iff, value, value, div_lt_div_iff₀ (pow_ten_pos _) (pow_ten_pos _)]
  exact_mod_cast Iff.rfl

theorem le_iff_value : a.le b = true ↔ a.value ≤ b.value := by
  rw [le_iff, value, value, div_le_div_iff₀ (pow_ten_pos _) (pow_ten_pos _)]
  exact_mod_cast Iff.rfl

@[simp] theorem value_zero : zero.value = 0 := by simp [value, zero]

@[simp] theorem value_one : one.value = 1 := by simp [value, one]

@[simp] theorem value_oneHundred : oneHundred.value = 100 := by simp [value, oneHundred]

theorem value_nonneg_iff : 0 ≤ d.value ↔ 0 ≤ d.mantissa := by
  rw [value, le_div_iff₀ (pow_ten_pos _), zero_mul]
  exact Int.cast_nonneg_iff

/-- A decimal that is not negative is a quotient of natural numbers. -/
theorem value_eq_toNat_div (h : 0 ≤ d.mantissa) :
    d.value = (d.mantissa.toNat : ℚ) / 10 ^ d.scale := by
  have hcast : ((d.mantissa.toNat : ℤ) : ℚ) = (d.mantissa : ℚ) := by rw [Int.toNat_of_nonneg h]
  rw [value, ← hcast, Int.cast_natCast]

/-! ## Digits behind the point -/

/-- Taking zeros off does not change the fraction. -/
theorem stripZeros_value (m : ℤ) (s : ℕ) :
    ((stripZeros m s).1 : ℚ) / 10 ^ (stripZeros m s).2 = m / 10 ^ s := by
  induction s generalizing m with
  | zero => rfl
  | succ s ih =>
    rw [stripZeros]
    split
    · rename_i hmod
      have hm : m = 10 * m.tdiv 10 := by
        have := Int.mul_tdiv_add_tmod m 10
        omega
      have hq : (m : ℚ) = 10 * (m.tdiv 10 : ℤ) := by exact_mod_cast hm
      rw [ih, div_eq_div_iff (pow_ten_pos s).ne' (pow_ten_pos _).ne', pow_succ, hq]
      ring
    · rfl

/-- Trailing zeros do not count. -/
theorem value_normalize (d : Decimal) : d.normalize.value = d.value :=
  stripZeros_value d.mantissa d.scale

/-- A fraction without the digits behind the first `places` ones after the point. -/
def towardZero (places : ℕ) (x : ℚ) : ℚ :=
  (if 0 ≤ x then ⌊x * 10 ^ places⌋ else ⌈x * 10 ^ places⌉ : ℤ) / 10 ^ places

/-- Nothing is cut off a value that has no more places. -/
theorem towardZero_of_eq {places : ℕ} {x : ℚ} {z : ℤ} (h : x * 10 ^ places = z) :
    towardZero places x = x := by
  unfold towardZero
  rw [h, Int.floor_intCast, Int.ceil_intCast, ite_self, ← h]
  exact mul_div_cancel_right₀ x (pow_ten_pos places).ne'

/-- Division toward zero is the floor of a quotient that is not negative and the ceiling of one
that is. -/
theorem tdiv_natCast_eq (z : ℤ) (n : ℕ) :
    z.tdiv n = if 0 ≤ z then ⌊(z : ℚ) / n⌋ else ⌈(z : ℚ) / n⌉ := by
  split
  · rename_i hz
    rw [Rat.floor_intCast_div_natCast, Int.tdiv_eq_ediv_of_nonneg hz]
  · rename_i hz
    have hneg : 0 ≤ -z := by omega
    rw [Rat.ceil_intCast_div_natCast, ← Int.tdiv_eq_ediv_of_nonneg hneg, Int.neg_tdiv, neg_neg]

/-- Dropping digits of a decimal is dropping digits of its fraction. -/
theorem value_truncate (places : ℕ) (d : Decimal) :
    (d.truncate places).value = towardZero places d.value := by
  have hplaces := (pow_ten_pos places).ne'
  unfold truncate
  split
  · rename_i hscale
    -- a whole number of the last digit that counts
    obtain ⟨more, rfl⟩ := Nat.exists_eq_add_of_le hscale
    refine (towardZero_of_eq (z := d.mantissa * 10 ^ more) ?_).symm
    have hne := (pow_ten_pos d.scale).ne'
    rw [value, pow_add]
    push_cast
    field_simp
  · rename_i hscale
    obtain ⟨drop, hdrop⟩ := Nat.exists_eq_add_of_le (Nat.le_of_not_le hscale)
    have hback : d.scale - places = drop := by omega
    have hshift : d.value * 10 ^ places = (d.mantissa : ℚ) / (10 ^ drop : ℕ) := by
      have hne := (pow_ten_pos drop).ne'
      rw [value, hdrop, pow_add]
      push_cast
      field_simp
    have hdiv := tdiv_natCast_eq d.mantissa (10 ^ drop)
    rw [← hshift] at hdiv
    simp only [value_nonneg_iff.symm] at hdiv
    unfold towardZero
    rw [← hdiv]
    simp only [value, hback]
    push_cast
    rfl

/-- Rounding a decimal up rounds its value up. -/
theorem ceil_eq_ceil_value (d : Decimal) : d.ceil = ⌈d.value⌉ := by
  have hceil := Rat.ceil_intCast_div_natCast d.mantissa (10 ^ d.scale)
  push_cast at hceil
  rw [value, hceil]
  rfl

/-! ## Rounding -/

/-- Rounding does not pass a whole number below the quotient. -/
theorem le_roundHalfEven (hm : 0 < m) (h : lo * m ≤ n) : lo ≤ roundHalfEven n m := by
  have hq : lo ≤ n / m := (Nat.le_div_iff_mul_le hm).2 h
  unfold roundHalfEven
  simp only
  split_ifs <;> omega

/-- Rounding does not pass a whole number above the quotient. -/
theorem roundHalfEven_le (hm : 0 < m) (h : n ≤ hi * m) : roundHalfEven n m ≤ hi := by
  have hq : n / m ≤ hi := Nat.div_le_of_le_mul (by rwa [Nat.mul_comm])
  -- the quotient reaches the bound only without a rest
  have hrest : n / m = hi → n % m = 0 := by
    intro heq
    have hsplit := Nat.div_add_mod n m
    rw [heq, Nat.mul_comm] at hsplit
    omega
  unfold roundHalfEven
  simp only
  split_ifs <;> omega

/-- An even number is reached by rounding from half below it on. -/
theorem even_le_roundHalfEven_iff (hm : 0 < m) (heven : lo % 2 = 0) (hlo : 0 < lo) :
    lo ≤ roundHalfEven n m ↔ (2 * lo - 1) * m ≤ 2 * n := by
  have hsplit := Nat.div_add_mod n m
  have hrest := Nat.mod_lt n hm
  unfold roundHalfEven
  simp only
  generalize n / m = q at hsplit
  generalize n % m = r at hsplit hrest
  subst hsplit
  obtain ⟨c, rfl⟩ : ∃ c, lo = c + 1 := ⟨lo - 1, by omega⟩
  have hodd : 2 * (c + 1) - 1 = 2 * c + 1 := by omega
  rw [hodd]
  -- only a quotient next to the bound depends on the rest
  rcases Nat.lt_trichotomy q c with hlt | rfl | hgt
  · have hbelow := Nat.mul_le_mul_left m (Nat.succ_le_of_lt hlt)
    have hfalse : ¬(2 * c + 1) * m ≤ 2 * (m * q + r) := by
      rw [Nat.mul_succ] at hbelow
      have : (2 * c + 1) * m = 2 * (m * c) + m := by ring
      omega
    simp only [hfalse, iff_false]
    split_ifs <;> omega
  · have : (2 * q + 1) * m = 2 * (m * q) + m := by ring
    split_ifs <;> omega
  · have habove := Nat.mul_le_mul_left m (Nat.succ_le_of_lt hgt)
    have htrue : (2 * c + 1) * m ≤ 2 * (m * q + r) := by
      rw [Nat.mul_succ] at habove
      have : (2 * c + 1) * m = 2 * (m * c) + m := by ring
      omega
    simp only [htrue, iff_true]
    split_ifs <;> omega

/-! ## Products -/

/-- The digits that a product is left with are its rounded ones. -/
theorem fitDigits_eq_some (hdropped : dropped ≤ scale)
    (h : fitDigits m scale dropped = some (n, k)) : n = roundHalfEven m (10 ^ k) ∧ k ≤ scale := by
  fun_induction fitDigits m scale dropped with
  | case1 dropped r hr =>
    obtain ⟨hn, hk⟩ := Prod.mk.inj (Option.some.inj h)
    rw [← hn, ← hk]
    exact ⟨rfl, hdropped⟩
  | case2 dropped r hr hmore ih => exact ih hmore h
  | case3 => cases h

/-- A number that fits with some digits given up fits with all of them given up. -/
theorem roundHalfEven_pow_lt (hdropped : dropped ≤ scale)
    (h : roundHalfEven m (10 ^ dropped) < 2 ^ 96) : roundHalfEven m (10 ^ scale) < 2 ^ 96 := by
  obtain ⟨more, rfl⟩ := Nat.exists_eq_add_of_le hdropped
  rcases Nat.eq_zero_or_pos more with rfl | hmore
  · exact h
  have hunit : 0 < 10 ^ dropped := Nat.pow_pos (by decide)
  have hm : ¬(2 * 2 ^ 96 - 1) * 10 ^ dropped ≤ 2 * m := by
    rw [← even_le_roundHalfEven_iff hunit (by decide) (by decide)]
    exact Nat.not_le_of_lt h
  have hten : 10 ^ dropped * 10 ≤ 10 ^ (dropped + more) := by
    rw [← pow_succ]
    exact Nat.pow_le_pow_right (by decide) (by omega)
  have hle : m ≤ (2 ^ 96 - 1) * 10 ^ (dropped + more) := by
    have := Nat.mul_le_mul_left (2 ^ 96 - 1) hten
    omega
  exact Nat.lt_of_le_of_lt (roundHalfEven_le (Nat.pow_pos (by decide)) hle) (by decide)

/-- Too many digits are left only if the whole part does not fit. -/
theorem fitDigits_eq_none_iff (hdropped : dropped ≤ scale) :
    fitDigits m scale dropped = none ↔ 2 ^ 96 ≤ roundHalfEven m (10 ^ scale) := by
  fun_induction fitDigits m scale dropped with
  | case1 dropped r hr =>
    simp only [reduceCtorEq, false_iff, Nat.not_le]
    exact roundHalfEven_pow_lt hdropped hr
  | case2 dropped r hr hmore ih => exact ih hmore
  | case3 dropped r hr hend =>
    obtain rfl : dropped = scale := by omega
    simpa using Nat.le_of_not_lt hr

/-- How a product with a decimal that is not negative comes about. -/
theorem scaledBy?_cases (hd : 0 ≤ d.mantissa) (n : ℕ) :
    (n * d.mantissa.toNat = 0 ∧ scaledBy? n d = some zero) ∨
      (fitDigits (n * d.mantissa.toNat) d.scale 0 = none ∧ scaledBy? n d = none) ∨
      ∃ p r k, fitDigits (n * d.mantissa.toNat) d.scale 0 = some (r, k) ∧
        scaledBy? n d = some p ∧ p.mantissa = (r : ℕ) ∧ p.scale = d.scale - k := by
  have habs : d.mantissa.natAbs = d.mantissa.toNat := by omega
  by_cases hnull : n = 0 ∨ d.mantissa = 0
  · refine .inl ⟨?_, by rw [scaledBy?, if_pos hnull]⟩
    rcases hnull with rfl | hnull
    · exact Nat.zero_mul _
    · rw [hnull]
      exact Nat.mul_zero _
  have hsign : d.mantissa.sign = 1 := Int.sign_eq_one_of_pos (by omega)
  rw [← habs, scaledBy?, if_neg hnull]
  split
  · rename_i hfit
    exact .inr (.inl ⟨hfit, rfl⟩)
  · rename_i r k hfit
    refine .inr (.inr ⟨_, r, k, hfit, rfl, ?_, rfl⟩)
    show d.mantissa.sign * r = r
    rw [hsign, Int.one_mul]

/-- The parts of a product are the rounded digits of the exact one. -/
theorem scaledBy?_eq_some (hd : 0 ≤ d.mantissa) (h : scaledBy? n d = some p) :
    ∃ k, k ≤ d.scale ∧ p.scale = d.scale - k ∧
      p.mantissa = roundHalfEven (n * d.mantissa.toNat) (10 ^ k) := by
  rcases scaledBy?_cases hd n with ⟨hproduct, hzero⟩ | ⟨-, hnone⟩ | ⟨q, r, k, hfit, hq, hr, hk⟩
  · rw [h] at hzero
    cases hzero
    have hround : roundHalfEven 0 (10 ^ d.scale) = 0 :=
      Nat.le_zero.1 (roundHalfEven_le (Nat.pow_pos (by decide)) (Nat.zero_le _))
    refine ⟨d.scale, Nat.le_refl _, (Nat.sub_self _).symm, ?_⟩
    rw [hproduct, hround]
    rfl
  · rw [h] at hnone
    cases hnone
  · rw [h] at hq
    cases hq
    obtain ⟨rfl, hle⟩ := fitDigits_eq_some (Nat.zero_le _) hfit
    exact ⟨k, hle, hk, hr⟩

/-- A product with a decimal that is not negative is a quotient of natural numbers. -/
theorem mul_value_eq (hd : 0 ≤ d.mantissa) (n : ℕ) :
    n * d.value = ((n * d.mantissa.toNat : ℕ) : ℚ) / (10 ^ d.scale : ℕ) := by
  rw [value_eq_toNat_div hd]
  push_cast
  ring

/-- A product is a quotient of natural numbers as well, with fewer digits behind the point. -/
theorem value_of_parts (hscale : p.scale = scale - k) (hmantissa : p.mantissa = (m : ℕ)) :
    p.value = (m : ℚ) / (10 ^ (scale - k) : ℕ) := by
  rw [value, hscale, hmantissa]
  push_cast
  rfl

/-- **Rounding a product passes no whole number** below it. -/
theorem natCast_le_value_of_scaledBy? (hd : 0 ≤ d.mantissa) (h : scaledBy? n d = some p)
    (hlo : (lo : ℚ) ≤ n * d.value) : (lo : ℚ) ≤ p.value := by
  obtain ⟨k, hk, hscale, hmantissa⟩ := scaledBy?_eq_some hd h
  obtain ⟨kept, hkept⟩ := Nat.exists_eq_add_of_le' hk
  have hpos : ∀ e, (0 : ℚ) < (10 ^ e : ℕ) := fun e => by positivity
  rw [mul_value_eq hd, le_div_iff₀ (hpos _), hkept, pow_add] at hlo
  have hle : lo * 10 ^ kept * 10 ^ k ≤ n * d.mantissa.toNat := by
    rw [Nat.mul_assoc]
    exact_mod_cast hlo
  rw [value_of_parts hscale hmantissa, le_div_iff₀ (hpos _), hkept, Nat.add_sub_cancel]
  exact_mod_cast le_roundHalfEven (Nat.pow_pos (by decide)) hle

/-- **Rounding a product passes no whole number** above it. -/
theorem value_le_natCast_of_scaledBy? (hd : 0 ≤ d.mantissa) (h : scaledBy? n d = some p)
    (hhi : n * d.value ≤ hi) : p.value ≤ hi := by
  obtain ⟨k, hk, hscale, hmantissa⟩ := scaledBy?_eq_some hd h
  obtain ⟨kept, hkept⟩ := Nat.exists_eq_add_of_le' hk
  have hpos : ∀ e, (0 : ℚ) < (10 ^ e : ℕ) := fun e => by positivity
  rw [mul_value_eq hd, div_le_iff₀ (hpos _), hkept, pow_add] at hhi
  have hle : n * d.mantissa.toNat ≤ hi * 10 ^ kept * 10 ^ k := by
    rw [Nat.mul_assoc]
    exact_mod_cast hhi
  rw [value_of_parts hscale hmantissa, div_le_iff₀ (hpos _), hkept, Nat.add_sub_cancel]
  exact_mod_cast roundHalfEven_le (Nat.pow_pos (by decide)) hle

/-- **A product of less than 96 bits is exact.** -/
theorem value_of_scaledBy? (hd : 0 ≤ d.mantissa) (hfits : n * d.mantissa.toNat < 2 ^ 96)
    (h : scaledBy? n d = some p) : p.value = n * d.value := by
  rw [mul_value_eq hd]
  rcases scaledBy?_cases hd n with ⟨hproduct, hzero⟩ | ⟨-, hnone⟩ | ⟨q, r, k, hfit, hq, hr, hk⟩
  · rw [h] at hzero
    cases hzero
    rw [hproduct, value_zero, Nat.cast_zero, zero_div]
  · rw [h] at hnone
    cases hnone
  · rw [h] at hq
    cases hq
    -- no digit is given up
    rw [fitDigits_of_lt hfits] at hfit
    cases hfit
    rw [value_of_parts hk hr, Nat.sub_zero]

/-- **There is no product** from half below 2^96 on, and only then. -/
theorem scaledBy?_eq_none_iff (hd : 0 ≤ d.mantissa) :
    scaledBy? n d = none ↔ 2 ^ 96 - 1 / 2 ≤ n * d.value := by
  have hunit : 0 < 10 ^ d.scale := Nat.pow_pos (by decide)
  have hnone : scaledBy? n d = none ↔ fitDigits (n * d.mantissa.toNat) d.scale 0 = none := by
    rcases scaledBy?_cases hd n with ⟨hproduct, hzero⟩ | ⟨hfit, hnone⟩ | ⟨q, r, k, hfit, hq, -⟩
    · rw [hproduct, hzero, fitDigits_of_lt (by decide)]
      simp
    · simp [hfit, hnone]
    · simp [hfit, hq]
  rw [hnone, fitDigits_eq_none_iff (Nat.zero_le _),
    even_le_roundHalfEven_iff hunit (by decide) (by decide), mul_value_eq hd,
    le_div_iff₀ (by exact_mod_cast hunit)]
  generalize n * d.mantissa.toNat = product
  generalize 10 ^ d.scale = unit
  have hhalf : ((2 ^ 96 - 1 / 2 : ℚ) * unit ≤ product) ↔
      ((2 * 2 ^ 96 - 1 : ℕ) : ℚ) * unit ≤ 2 * product := by
    norm_num
    constructor <;> intro h <;> linarith
  rw [hhalf]
  exact_mod_cast Iff.rfl

end WalletTasks.Decimal
