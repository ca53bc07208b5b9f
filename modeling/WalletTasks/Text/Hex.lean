import WalletTasks.Text.Numeral

/-!
# Hexadecimal digits

The value of a hexadecimal digit in either case, the small-letter digit of a value, and numbers of
a fixed number of digits.

* `readHex_writeHex`: a number is read back from its digits.
-/

namespace WalletTasks.Text

/-- The value of a hexadecimal digit in either case. -/
def hexValue? (c : Char) : Option Nat :=
  if '0' ≤ c ∧ c ≤ '9' then some (c.toNat - 48)
  else if 'a' ≤ c ∧ c ≤ 'f' then some (c.toNat - 87)
  else if 'A' ≤ c ∧ c ≤ 'F' then some (c.toNat - 55)
  else none

/-- The digit of a value below 16, with small letters. -/
def hexChar (d : Nat) : Char := if d < 10 then Char.ofNat (48 + d) else Char.ofNat (87 + d)

/-- The last `width` hexadecimal digits of a number. -/
def writeHex : Nat → Nat → List Char
  | 0, _ => []
  | width + 1, n => writeHex width (n / 16) ++ [hexChar (n % 16)]

/-- The number that hexadecimal digits denote. -/
def readHex (s : List Char) : Option Nat :=
  s.foldlM (fun n c => (hexValue? c).map (n * 16 + ·)) 0

theorem hexValue?_hexChar {d : Nat} (h : d < 16) : hexValue? (hexChar d) = some d := by
  have : ∀ d, d < 16 → hexValue? (hexChar d) = some d := by decide
  exact this d h

theorem length_writeHex (width n : Nat) : (writeHex width n).length = width := by
  induction width generalizing n with
  | zero => rfl
  | succ w ih => simp [writeHex, ih]

theorem readHex_writeHex {width n : Nat} (h : n < 16 ^ width) :
    readHex (writeHex width n) = some n := by
  induction width generalizing n with
  | zero =>
    have : n = 0 := by simpa using h
    subst this
    rfl
  | succ w ih =>
    have hq : n / 16 < 16 ^ w := by
      rw [Nat.pow_succ] at h
      exact Nat.div_lt_of_lt_mul (by omega)
    have hi := ih hq
    simp only [readHex] at hi
    simp only [readHex, writeHex, List.foldlM_append, hi, List.foldlM_cons, List.foldlM_nil,
      hexValue?_hexChar (Nat.mod_lt n (by decide : 0 < 16)), Option.bind_eq_bind,
      Option.map_some, Option.bind_some, Option.pure_def]
    congr 1
    omega

end WalletTasks.Text
