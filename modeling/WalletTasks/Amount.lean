import WalletTasks.Decimal.Text
import WalletTasks.Task.Payload

/-!
# Amounts to spend

What a task spends is an amount of its own or a share of the wallet's balance, worked out in whole
numbers: the share of a balance is rounded down, and digits of a percentage behind the sixteenth do
not count. A dry run spends nine tenths of it.

* `mulDivFloor_eq_some_iff`: the floor of a quotient is exact, and when there is one.
* `estimate_eq`: the dry run spends the floor of nine tenths.
* `resolve_le`: what is spent is more than nothing and at most the balance.
-/

namespace WalletTasks.Amount

/-- The percentage of the real amount that a dry run spends. -/
def estimatePercent : Nat := 90

/-- How many digits of a percentage behind the point count. -/
def percentPlaces : Nat := 16

/-- The sum, unless it takes more than 128 bits. -/
def checkedAdd (a b : Nat) : Option Nat := if a + b < 2 ^ 128 then some (a + b) else none

/-- The product, unless it takes more than 128 bits. -/
def checkedMul (a b : Nat) : Option Nat := if a * b < 2 ^ 128 then some (a * b) else none

/-- The floor of `value * numerator / denominator`. The value is divided first, so that the product
of the quotient fits wherever the result does. -/
def mulDivFloor (value numerator denominator : Nat) : Option Nat := do
  let whole ← checkedMul (value / denominator) numerator
  let part ← checkedMul (value % denominator) numerator
  checkedAdd whole (part / denominator)

/-- The share of a balance, rounded down. -/
def percentOf (percent : Decimal) (balance : Wei) : Except AmountFault Wei :=
  if percent.le .zero || Decimal.lt .oneHundred percent then
    .error (.percentOutOfRange (toString percent))
  else
    let p := (percent.truncate percentPlaces).normalize
    if p.mantissa < 0 ∨ 2 ^ 128 ≤ 10 ^ p.scale * 100 then
      .error (.percentNotConverted (toString p))
    else
      match (mulDivFloor balance.toNat p.mantissa.toNat (10 ^ p.scale * 100)).bind Wei.ofNat? with
      | some w => .ok w
      | none => .error (.percentOverflow (toString p) balance.text)

/-- The amount before it is checked to be positive. -/
def unchecked (balance : Wei) : Spend → Except TaskError Wei
  | .absolute amount =>
    if balance.toNat < amount.toNat then .error (.insufficientBalance amount balance)
    else .ok amount
  | .percent share => (percentOf share balance).mapError .invalidAmount

/-- The amount that a task spends from a balance; it is never zero. -/
def resolve (spend : Spend) (balance : Wei) : Except TaskError Wei := do
  let amount ← unchecked balance spend
  if amount.toNat = 0 then .error (.insufficientBalance amount balance)
  else .ok amount

/-- The amount that a dry run spends. -/
def estimate (amount : Wei) : Wei :=
  ((mulDivFloor amount.toNat estimatePercent 100).bind Wei.ofNat?).getD .zero

theorem checkedMul_eq_some_iff {a b r : Nat} :
    checkedMul a b = some r ↔ a * b < 2 ^ 128 ∧ a * b = r := by
  simp [checkedMul]

theorem checkedAdd_eq_some_iff {a b r : Nat} :
    checkedAdd a b = some r ↔ a + b < 2 ^ 128 ∧ a + b = r := by
  simp [checkedAdd]

/-- The two parts of the product make up the floor of the whole quotient. -/
theorem div_mul_add_mod_mul_div {v n d : Nat} (hd : 0 < d) :
    v / d * n + v % d * n / d = v * n / d := by
  conv => rhs; rw [← Nat.div_add_mod v d, Nat.add_mul, Nat.mul_assoc]
  rw [Nat.mul_add_div hd]

/-- **When the floor of a quotient is worked out**: exactly if it has 128 bits, and so has the
product of the remainder. The product of the whole part is never greater than the floor. -/
theorem mulDivFloor_eq_some_iff {v n d r : Nat} (hd : 0 < d) :
    mulDivFloor v n d = some r ↔
      (v % d * n < 2 ^ 128 ∧ v * n / d < 2 ^ 128) ∧ v * n / d = r := by
  simp only [mulDivFloor, Option.bind_eq_bind, Option.bind_eq_some_iff, checkedMul_eq_some_iff,
    checkedAdd_eq_some_iff]
  constructor
  · rintro ⟨_, ⟨-, rfl⟩, _, ⟨hpart, rfl⟩, hsum, rfl⟩
    rw [div_mul_add_mod_mul_div hd] at hsum ⊢
    exact ⟨⟨hpart, hsum⟩, rfl⟩
  · rintro ⟨⟨hpart, hfloor⟩, rfl⟩
    rw [← div_mul_add_mod_mul_div hd] at hfloor ⊢
    have hwhole : v / d * n < 2 ^ 128 := Nat.lt_of_le_of_lt (Nat.le_add_right _ _) hfloor
    exact ⟨_, ⟨hwhole, rfl⟩, _, ⟨hpart, rfl⟩, hfloor, rfl⟩

theorem mulDivFloor_eq {v n d : Nat} (hd : 0 < d) (hpart : v % d * n < 2 ^ 128)
    (h : v * n / d < 2 ^ 128) : mulDivFloor v n d = some (v * n / d) :=
  (mulDivFloor_eq_some_iff hd).2 ⟨⟨hpart, h⟩, rfl⟩

/-- A numerator that is not greater than the denominator takes no part of the product out of 128
bits, while the denominator is at most `2 ^ 64`. -/
theorem mulDivFloor_of_le {v n d : Nat} (hd : 0 < d) (hv : v < 2 ^ 128) (hn : n ≤ d)
    (hle : d ≤ 2 ^ 64) : mulDivFloor v n d = some (v * n / d) := by
  have hpart : v % d * n < 2 ^ 128 :=
    calc v % d * n ≤ v % d * d := Nat.mul_le_mul_left _ hn
      _ < d * d := Nat.mul_lt_mul_of_pos_right (Nat.mod_lt _ hd) hd
      _ ≤ 2 ^ 64 * 2 ^ 64 := Nat.mul_le_mul hle hle
      _ = 2 ^ 128 := by decide
  have hfloor : v * n / d ≤ v := Nat.div_le_of_le_mul (by
    rw [Nat.mul_comm]
    exact Nat.mul_le_mul_right _ hn)
  exact mulDivFloor_eq hd hpart (Nat.lt_of_le_of_lt hfloor hv)

/-- Nine tenths of an amount are always worked out, and zero never takes their place. -/
theorem mulDivFloor_estimate (w : Wei) :
    (mulDivFloor w.toNat estimatePercent 100).bind Wei.ofNat? = some (estimate w) := by
  have hw := w.isLt
  have hfloor := mulDivFloor_of_le (n := estimatePercent) (d := 100) (by decide) hw (by decide)
    (by decide)
  have hlt : w.toNat * estimatePercent / 100 < 2 ^ 128 := by
    simp only [estimatePercent]
    omega
  simp [estimate, hfloor, Wei.ofNat?, hlt]

theorem estimate_eq (w : Wei) : (estimate w).toNat = 9 * w.toNat / 10 := by
  obtain ⟨floor, hfloor, hwei⟩ := Option.bind_eq_some_iff.1 (mulDivFloor_estimate w)
  rw [Wei.ofNat?_eq_some_iff.1 hwei, ← ((mulDivFloor_eq_some_iff (by decide)).1 hfloor).2]
  simp only [estimatePercent]
  omega

/-- A share of a balance is at most the balance. -/
theorem percentOf_le {percent : Decimal} {balance amount : Wei}
    (h : percentOf percent balance = .ok amount) : amount.toNat ≤ balance.toNat := by
  unfold percentOf at h
  split at h
  · cases h
  rename_i hrange
  -- what counts of the percentage is at most a hundred
  rw [Bool.or_eq_true, not_or, Decimal.le_iff, Decimal.lt_iff] at hrange
  simp only [Decimal.zero, Decimal.oneHundred, Int.pow_zero, Int.mul_one, Int.zero_mul, Int.not_le,
    Int.not_lt] at hrange
  obtain ⟨hpos, hle⟩ := hrange
  have hcount := Decimal.mantissa_normalize_le
    (Decimal.mantissa_truncate_le percentPlaces (Int.le_of_lt hpos) hle)
  simp only at h
  generalize (percent.truncate percentPlaces).normalize = p at h hcount
  split at h
  · cases h
  split at h
  · rename_i w hw
    cases h
    obtain ⟨n, hn, hwei⟩ := Option.bind_eq_some_iff.1 hw
    have hscale : 0 < 10 ^ p.scale * 100 := Nat.mul_pos (Nat.pow_pos (by decide)) (by decide)
    rw [Wei.ofNat?_eq_some_iff.1 hwei, ← ((mulDivFloor_eq_some_iff hscale).1 hn).2]
    refine Nat.div_le_of_le_mul ?_
    rw [Nat.mul_comm]
    refine Nat.mul_le_mul_right _ ?_
    rw [Int.toNat_le]
    push_cast
    rw [Int.mul_comm]
    exact hcount
  · cases h

/-- **What a task spends** is more than nothing and at most the balance. -/
theorem resolve_le {spend : Spend} {balance amount : Wei} (h : resolve spend balance = .ok amount) :
    0 < amount.toNat ∧ amount.toNat ≤ balance.toNat := by
  unfold resolve at h
  cases hu : unchecked balance spend with
  | error e =>
    rw [hu] at h
    cases h
  | ok w =>
    rw [hu] at h
    simp only [bind, Except.bind] at h
    split at h
    · cases h
    rename_i hne
    cases h
    refine ⟨by omega, ?_⟩
    cases spend with
    | absolute own =>
      simp only [unchecked] at hu
      split at hu <;> cases hu
      omega
    | percent share =>
      simp only [unchecked] at hu
      cases hp : percentOf share balance with
      | error fault =>
        rw [hp] at hu
        cases hu
      | ok w =>
        rw [hp] at hu
        cases hu
        exact percentOf_le hp

end WalletTasks.Amount
