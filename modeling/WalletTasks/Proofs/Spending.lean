import WalletTasks.Amount
import WalletTasks.Proofs.Fractions
import Mathlib.Algebra.Order.Floor.Semifield
import Mathlib.Tactic.NormNum

/-!
# What is spent, in fractions

A share of a balance is worked out in numbers of 128 bits, in two parts. Of a percentage in range at
most sixteen digits behind the point count, so that it is a numerator over a denominator of at most
60 bits, and no part of the quotient leaves 128 bits: the result is the floor of the exact fraction.

* `mulDivFloor_exact`: the quotients that are given are exact, and which ones are given.
* `counted_spec`: what counts of a percentage in range.
* `mulDivFloor_counted`: the quotient is the exact share, and no product overflows.
* `resolve_exact`: what is spent is what the fractions say, for every balance.
-/

namespace WalletTasks.Amount

variable {balance amount : Wei} {percent : Decimal}

/-! ## Quotients -/

/-- The floor of an exact fraction. -/
theorem floor_mul_div (v n d : ℕ) : ⌊(v * n / d : ℚ)⌋₊ = v * n / d := by
  rw [← Nat.cast_mul, Nat.floor_div_eq_div]

/-- **The floor of a quotient is exact, or there is none.** There is one exactly if it has 128 bits
and so has the product of the remainder; of numbers of 128 bits there always is one if the numerator
is not greater than the denominator, and the denominator at most `2 ^ 64`. So a dry run spends the
floor of nine tenths of every amount, and zero never takes its place. -/
theorem mulDivFloor_exact :
    (∀ v n d : ℕ, 0 < d → mulDivFloor v n d =
      if v % d * n < 2 ^ 128 ∧ ⌊(v * n / d : ℚ)⌋₊ < 2 ^ 128 then some ⌊(v * n / d : ℚ)⌋₊
      else none) ∧
    (∀ v n d : ℕ, 0 < d → v < 2 ^ 128 → n ≤ d → d ≤ 2 ^ 64 →
      mulDivFloor v n d = some ⌊(v * n / d : ℚ)⌋₊) ∧
    ∀ amount : Wei,
      (mulDivFloor amount.toNat estimatePercent 100).bind Wei.ofNat? = some (estimate amount) ∧
        (estimate amount).toNat = ⌊(9 * amount.toNat / 10 : ℚ)⌋₊ := by
  refine ⟨fun v n d hd => ?_, fun v n d hd hv hn hle => ?_, fun amount =>
    ⟨mulDivFloor_estimate amount, ?_⟩⟩
  · rw [floor_mul_div]
    split
    · next hfits => exact (mulDivFloor_eq_some_iff hd).2 ⟨hfits, rfl⟩
    · next hoverflow =>
      rw [Option.eq_none_iff_forall_ne_some]
      intro r hr
      exact hoverflow ((mulDivFloor_eq_some_iff hd).1 hr).1
  · rw [floor_mul_div]
    exact mulDivFloor_of_le hd hv hn hle
  · rw [estimate_eq]
    exact_mod_cast (floor_mul_div 9 amount.toNat 10).symm

/-- The greatest amount comes back from a fraction that is one, up to the denominator `2 ^ 64`. With
a denominator of one bit more there may be no quotient, although it would have 65 bits. -/
theorem sample_mulDivFloor_exact :
    let greatest : Wei := ⟨2 ^ 128 - 1, by decide⟩
    mulDivFloor greatest.toNat (2 ^ 64) (2 ^ 64) = some greatest.toNat ∧
      mulDivFloor (2 ^ 65 - 1) (2 ^ 65) (2 ^ 65) = none ∧
      (estimate greatest).toNat = 306254130228844617117037146688591390309 := by
  intro greatest
  obtain ⟨hexact, hsafe, hestimate⟩ := mulDivFloor_exact
  refine ⟨?_, ?_, ?_⟩
  · rw [hsafe greatest.toNat (2 ^ 64) (2 ^ 64) (by decide) (by decide) (by decide) (by decide),
      floor_mul_div, Nat.mul_div_cancel _ (by decide)]
  · rw [hexact (2 ^ 65 - 1) (2 ^ 65) (2 ^ 65) (by decide)]
    exact if_neg fun hfits => absurd hfits.1 (by decide)
  · rw [(hestimate greatest).2]
    norm_num [greatest]

/-! ## What should be spent -/

/-- The share of a balance that a percentage is, rounded down. Digits of the percentage behind the
sixteenth one do not count. -/
def share (balance : Wei) (percent : ℚ) : ℕ :=
  ⌊balance.toNat * Decimal.towardZero 16 percent / 100⌋₊

/-- What is spent from a balance, by the exact fractions. -/
def exact (balance : Wei) : Spend → Except TaskError ℕ
  | .absolute amount =>
    if 0 < amount.toNat ∧ amount.toNat ≤ balance.toNat then .ok amount.toNat
    else .error (.insufficientBalance amount balance)
  | .percent percent =>
    if percent.value ≤ 0 ∨ 100 < percent.value then
      .error (.invalidAmount (.percentOutOfRange (toString percent)))
    else if share balance percent.value = 0 then .error (.insufficientBalance .zero balance)
    else .ok (share balance percent.value)

/-! ## Percentages in range -/

/-- What counts of a percentage. -/
def counted (percent : Decimal) : Decimal := (percent.truncate percentPlaces).normalize

/-- The denominator of the share that is spent. -/
def denominator (percent : Decimal) : ℕ := 10 ^ (counted percent).scale * 100

theorem denominator_pos (percent : Decimal) : 0 < denominator percent :=
  Nat.mul_pos (Nat.pow_pos (by decide)) (by decide)

theorem value_counted (percent : Decimal) :
    (counted percent).value = Decimal.towardZero 16 percent.value := by
  rw [counted, Decimal.value_normalize, Decimal.value_truncate]
  rfl

/-- No more than sixteen places of a percentage count. -/
theorem scale_counted_le (percent : Decimal) : (counted percent).scale ≤ 16 := by
  have htruncate : (percent.truncate percentPlaces).scale ≤ percentPlaces := by
    unfold Decimal.truncate
    split
    · assumption
    · exact Nat.le_refl _
  exact Nat.le_trans (Decimal.scale_stripZeros _ _) htruncate

/-- The denominator has at most eighteen zeros. -/
theorem denominator_le (percent : Decimal) : denominator percent ≤ 10 ^ 18 := by
  have hpow : 10 ^ (counted percent).scale ≤ 10 ^ 16 :=
    Nat.pow_le_pow_right (by decide) (scale_counted_le percent)
  unfold denominator
  omega

/-- **What counts of a percentage in range** is a numerator between nothing and the denominator. -/
theorem counted_spec (hpos : 0 < percent.value) (hle : percent.value ≤ 100) :
    0 ≤ (counted percent).mantissa ∧ (counted percent).mantissa.toNat ≤ denominator percent := by
  have hmantissa : 0 ≤ percent.mantissa := Decimal.value_nonneg_iff.1 hpos.le
  have hbound : percent.mantissa ≤ 100 * 10 ^ percent.scale := by
    rw [Decimal.value, div_le_iff₀ (Decimal.pow_ten_pos _)] at hle
    exact_mod_cast hle
  have hcounted : (counted percent).mantissa ≤ 100 * 10 ^ (counted percent).scale :=
    Decimal.mantissa_normalize_le (Decimal.mantissa_truncate_le percentPlaces hmantissa hbound)
  constructor
  · rw [← Decimal.value_nonneg_iff, value_counted, Decimal.towardZero, if_pos hpos.le]
    have hfloor : (0 : ℤ) ≤ ⌊percent.value * 10 ^ 16⌋ := Int.floor_nonneg.2 (by positivity)
    have hcast : (0 : ℚ) ≤ (⌊percent.value * 10 ^ 16⌋ : ℤ) := by exact_mod_cast hfloor
    positivity
  · rw [Int.toNat_le, denominator]
    push_cast
    rw [Int.mul_comm]
    exact hcounted

/-- The exact share is a quotient of natural numbers. -/
theorem share_eq (balance : Wei) (hcounted : 0 ≤ (counted percent).mantissa) :
    share balance percent.value =
      balance.toNat * (counted percent).mantissa.toNat / denominator percent := by
  have hquotient : balance.toNat * Decimal.towardZero 16 percent.value / 100 =
      ((balance.toNat * (counted percent).mantissa.toNat : ℕ) : ℚ) / (denominator percent : ℕ) := by
    rw [← value_counted, Decimal.value_eq_toNat_div hcounted, denominator]
    push_cast
    rw [mul_div_assoc', div_div]
  rw [share, hquotient, Nat.floor_div_eq_div]

/-- A share of a balance is at most the balance. -/
theorem share_le (hcounted : 0 ≤ (counted percent).mantissa)
    (hle : (counted percent).mantissa.toNat ≤ denominator percent) :
    share balance percent.value ≤ balance.toNat := by
  rw [share_eq balance hcounted]
  exact Nat.div_le_of_le_mul (by
    rw [Nat.mul_comm]
    exact Nat.mul_le_mul_right _ hle)

/-! ## No overflow -/

/-- **No intermediate result** of a share takes more than 128 bits: not the denominator and the
numerator, not the products of both parts of the balance, and not their sum. -/
structure ShareFits (percent : Decimal) (balance : Wei) : Prop where
  denominator_lt : denominator percent < 2 ^ 128
  numerator_nonneg : 0 ≤ (counted percent).mantissa
  whole_lt : balance.toNat / denominator percent * (counted percent).mantissa.toNat < 2 ^ 128
  part_lt : balance.toNat % denominator percent * (counted percent).mantissa.toNat < 2 ^ 128
  sum_lt : balance.toNat / denominator percent * (counted percent).mantissa.toNat +
    balance.toNat % denominator percent * (counted percent).mantissa.toNat / denominator percent <
      2 ^ 128

/-- No step of the share overflows, for any percentage up to one hundred. -/
theorem shareFits (hpos : 0 < percent.value) (hle : percent.value ≤ 100) (balance : Wei) :
    ShareFits percent balance := by
  obtain ⟨hnonneg, hnumerator⟩ := counted_spec hpos hle
  have hdenominator := denominator_le percent
  have hd := denominator_pos percent
  have hbalance := balance.isLt
  -- the two parts add up to the share itself, which is within the balance
  have hsum : balance.toNat / denominator percent * (counted percent).mantissa.toNat +
      balance.toNat % denominator percent * (counted percent).mantissa.toNat /
        denominator percent ≤ balance.toNat := by
    rw [div_mul_add_mod_mul_div hd, ← share_eq balance hnonneg]
    exact share_le hnonneg hnumerator
  -- the remainder is below the denominator, so its part fits before the division
  have hpart : balance.toNat % denominator percent * (counted percent).mantissa.toNat <
      2 ^ 128 := by
    have hmod : balance.toNat % denominator percent ≤ 10 ^ 18 :=
      Nat.le_trans (Nat.mod_lt _ hd).le hdenominator
    calc balance.toNat % denominator percent * (counted percent).mantissa.toNat
        ≤ 10 ^ 18 * 10 ^ 18 := Nat.mul_le_mul hmod (Nat.le_trans hnumerator hdenominator)
      _ < 2 ^ 128 := by decide
  have hfits := Nat.lt_of_le_of_lt hsum hbalance
  exact ⟨by omega, hnonneg, Nat.lt_of_le_of_lt (Nat.le_add_right _ _) hfits, hpart, hfits⟩

/-- **The quotient of a share that fits is the exact share.** -/
theorem mulDivFloor_counted (h : ShareFits percent balance) :
    mulDivFloor balance.toNat (counted percent).mantissa.toNat (denominator percent) =
      some (share balance percent.value) := by
  rw [share_eq balance h.numerator_nonneg]
  refine mulDivFloor_eq (denominator_pos percent) h.part_lt ?_
  rw [← div_mul_add_mod_mul_div (denominator_pos percent)]
  exact h.sum_lt

/-! ## What is spent -/

/-- A percentage outside the range is refused. -/
theorem percentOf_of_outOfRange (balance : Wei) (h : percent.value ≤ 0 ∨ 100 < percent.value) :
    percentOf percent balance = .error (.percentOutOfRange (toString percent)) := by
  rw [percentOf, if_pos]
  rwa [Bool.or_eq_true, Decimal.le_iff_value, Decimal.lt_iff_value, Decimal.value_zero,
    Decimal.value_oneHundred]

/-- A percentage in range has a share, which is the exact one. -/
theorem percentOf_eq (hpos : 0 < percent.value) (hle : percent.value ≤ 100) (balance : Wei) :
    ∃ w : Wei, w.toNat = share balance percent.value ∧ percentOf percent balance = .ok w := by
  have hfits := shareFits hpos hle balance
  obtain ⟨hnonneg, hnumerator⟩ := counted_spec hpos hle
  have hlt : share balance percent.value < 2 ^ 128 :=
    Nat.lt_of_le_of_lt (share_le hnonneg hnumerator) balance.isLt
  have hrange : ¬(percent.le .zero || Decimal.lt .oneHundred percent) = true := by
    rw [Bool.or_eq_true, Decimal.le_iff_value, Decimal.lt_iff_value, Decimal.value_zero,
      Decimal.value_oneHundred, not_or, not_le, not_lt]
    exact ⟨hpos, hle⟩
  refine ⟨⟨share balance percent.value, hlt⟩, rfl, ?_⟩
  have hconverted : ¬((counted percent).mantissa < 0 ∨ 2 ^ 128 ≤ denominator percent) := by
    have := hfits.denominator_lt
    omega
  have hwei : (mulDivFloor balance.toNat (counted percent).mantissa.toNat
      (denominator percent)).bind Wei.ofNat? = some ⟨share balance percent.value, hlt⟩ := by
    rw [mulDivFloor_counted hfits, Option.bind_some, Wei.ofNat?_eq_some_iff]
  unfold percentOf
  rw [if_neg hrange]
  simp only [← counted.eq_1, ← denominator.eq_1, hconverted, if_false, hwei]

/-- An amount is spent unless it is zero. -/
theorem resolve_map_of_unchecked {spend : Spend} {w : Wei} (h : unchecked balance spend = .ok w) :
    (resolve spend balance).map Wei.toNat =
      if w.toNat = 0 then .error (.insufficientBalance w balance) else .ok w.toNat := by
  rw [resolve, h]
  show Except.map Wei.toNat (if w.toNat = 0 then _ else _) = _
  split <;> rfl

/-- A fixed amount resolves to itself exactly if it is positive and covered. -/
theorem resolve_absolute (amount balance : Wei) :
    (resolve (.absolute amount) balance).map Wei.toNat = exact balance (.absolute amount) := by
  by_cases hlt : balance.toNat < amount.toNat
  · have herror : unchecked balance (.absolute amount) =
        .error (.insufficientBalance amount balance) := if_pos hlt
    have hcovered : ¬(0 < amount.toNat ∧ amount.toNat ≤ balance.toNat) := by omega
    rw [resolve, herror, exact, if_neg hcovered]
    rfl
  · have hunchecked : unchecked balance (.absolute amount) = .ok amount := if_neg hlt
    rw [resolve_map_of_unchecked hunchecked, exact]
    by_cases hzero : amount.toNat = 0
    · rw [if_pos hzero, if_neg (by omega)]
    · rw [if_neg hzero, if_pos (by omega)]

/-- A percentage resolves to its exact share, rounded down, unless that is nothing. -/
theorem resolve_percent (percent : Decimal) (balance : Wei) :
    (resolve (.percent percent) balance).map Wei.toNat = exact balance (.percent percent) := by
  by_cases hout : percent.value ≤ 0 ∨ 100 < percent.value
  · have herror : unchecked balance (.percent percent) =
        .error (.invalidAmount (.percentOutOfRange (toString percent))) := by
      rw [unchecked, percentOf_of_outOfRange balance hout]
      rfl
    rw [resolve, herror, exact, if_pos hout]
    rfl
  · rw [exact, if_neg hout]
    rw [not_or, not_le, not_lt] at hout
    obtain ⟨w, hw, hshare⟩ := percentOf_eq hout.1 hout.2 balance
    have hunchecked : unchecked balance (.percent percent) = .ok w := by
      rw [unchecked, hshare]
      rfl
    rw [resolve_map_of_unchecked hunchecked, ← hw]
    split
    · rename_i hzero
      obtain rfl : w = .zero := Wei.ext hzero
      rfl
    · rfl

/-- **What is spent is what the fractions say**, for every balance: an amount of its own if the
balance covers it, and the floor of the share for a percentage above zero and up to a hundred. No
intermediate result of a share overflows, and what is spent is more than nothing and at most the
balance. -/
theorem resolve_exact (balance : Wei) :
    (∀ spend, (resolve spend balance).map Wei.toNat = exact balance spend) ∧
      (∀ percent : Decimal, 0 < percent.value → percent.value ≤ 100 →
        ShareFits percent balance) ∧
      ∀ spend amount, resolve spend balance = .ok amount →
        0 < amount.toNat ∧ amount.toNat ≤ balance.toNat := by
  refine ⟨fun spend => ?_, fun percent hpos hle => shareFits hpos hle balance,
    fun spend amount => resolve_le⟩
  cases spend with
  | absolute amount => exact resolve_absolute amount balance
  | percent percent => exact resolve_percent percent balance

/-- The seventeenth and eighteenth digits behind the point do not count: of 10^20 the last 99 are
not spent. -/
theorem sample_resolve_exact :
    let percent : Decimal := ⟨33333333333333333399, 18, by decide, by decide⟩
    let balance : Wei := ⟨100000000000000000000, by decide⟩
    ShareFits percent balance ∧
      exact balance (.percent percent) = .ok 33333333333333333300 ∧
      (resolve (.percent percent) balance).map Wei.toNat = .ok 33333333333333333300 := by
  intro percent balance
  have hspent : (resolve (.percent percent) balance).map Wei.toNat =
      .ok 33333333333333333300 := by decide
  obtain ⟨hexact, hfits, -⟩ := resolve_exact balance
  refine ⟨hfits percent ?_ ?_, (hexact _).symm.trans hspent, hspent⟩ <;>
    norm_num [percent, Decimal.value]

end WalletTasks.Amount
