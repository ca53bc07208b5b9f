import WalletTasks.Text.Numeral

/-!
# Amounts in wei

The smallest unit of a token, counted in 128 bits. Arithmetic is done on the underlying natural
numbers; a result comes back either checked (`ofNat?`) or cut off at the largest amount
(`saturate`).

* `toNat_saturate`: cutting off is the minimum with the largest amount.
* `ofNat?_eq_some_iff`: a number that fits is an amount.
-/

namespace WalletTasks

/-- An amount of less than 2^128. -/
structure Wei where
  toNat : Nat
  isLt : toNat < 2 ^ 128 := by decide
deriving DecidableEq, Repr

namespace Wei

def zero : Wei := ⟨0, by decide⟩

/-- The largest amount. -/
def largest : Wei := ⟨2 ^ 128 - 1, by decide⟩

instance : Inhabited Wei := ⟨zero⟩

/-- The amount, unless it does not fit. -/
def ofNat? (n : Nat) : Option Wei := if h : n < 2 ^ 128 then some ⟨n, h⟩ else none

/-- The amount, or the largest one if it does not fit. -/
def saturate (n : Nat) : Wei := if h : n < 2 ^ 128 then ⟨n, h⟩ else largest

/-- The larger of two amounts. -/
def larger (a b : Wei) : Wei := if a.toNat ≤ b.toNat then b else a

/-- Decimal digits without sign or leading zeros. -/
def text (w : Wei) : String := Text.decimal w.toNat

instance : ToString Wei := ⟨text⟩

@[ext] theorem ext {a b : Wei} (h : a.toNat = b.toNat) : a = b := by
  cases a
  cases b
  cases h
  rfl

theorem toNat_saturate (n : Nat) : (saturate n).toNat = min n (2 ^ 128 - 1) := by
  unfold saturate
  split
  · simp only
    omega
  · simp only [largest]
    omega

theorem toNat_larger (a b : Wei) : (larger a b).toNat = max a.toNat b.toNat := by
  unfold larger
  split <;> omega

theorem ofNat?_eq_some_iff {n : Nat} {w : Wei} : ofNat? n = some w ↔ w.toNat = n := by
  unfold ofNat?
  split
  · constructor
    · intro h
      cases h
      rfl
    · intro h
      exact congrArg some (ext h.symm)
  · constructor
    · intro h
      cases h
    · intro h
      have := w.isLt
      omega

end Wei

end WalletTasks
