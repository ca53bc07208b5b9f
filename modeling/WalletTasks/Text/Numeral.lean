import WalletTasks.Text.Blank

/-!
# Decimal numerals

Numbers written with the ten ASCII digits: the digits of a number, and the reader for a number
that has to stay below a bound.

* `ofDigits_digits`: the digits of a number denote it.
* `head?_digits`: only zero starts with a zero.
* `read_digits`: reading the digits of a number below the bound gives the number back.
* `readNumeral_eq_ok_iff`: which texts are read, and as what.
-/

-- Powers are read as those of the core library, whatever else is imported.
attribute [instance (20000), default_instance (20000)] instPowNat

namespace WalletTasks.Text

/-- The character of a digit below ten. -/
def digitChar (d : Nat) : Char := Char.ofNat (48 + d)

/-- The value of an ASCII digit. -/
def digitValue (c : Char) : Nat := c.toNat - 48

/-- Whether a character is one of the ten ASCII digits. -/
def isDigit (c : Char) : Bool := 48 ≤ c.toNat && c.toNat ≤ 57

/-- The decimal digits of a number, the leading one first and without leading zeros. -/
def digits (n : Nat) : List Char :=
  if n < 10 then [digitChar n] else digits (n / 10) ++ [digitChar (n % 10)]

/-- A number in decimal digits. -/
def decimal (n : Nat) : String := String.ofList (digits n)

/-- The number that a list of digits denotes. -/
def ofDigits (s : List Char) : Nat := s.foldl (fun n c => n * 10 + digitValue c) 0

/-- The digits of a number, with zeros in front up to a width. -/
def padded (width n : Nat) : List Char :=
  let ds := digits n
  List.replicate (width - ds.length) '0' ++ ds

/-- Why a text is no number below the bound. -/
inductive NumeralError
  | empty
  | invalidDigit
  | tooLarge
deriving DecidableEq, Repr

/-- The wording of each cause. -/
def NumeralError.message : NumeralError → String
  | .empty => "cannot parse integer from empty string"
  | .invalidDigit => "invalid digit found in string"
  | .tooLarge => "number too large to fit in target type"

/-- Digits are taken one by one, and the first fault decides: a character that is no digit, or a
prefix that already reaches the bound. -/
def readDigits (bound : Nat) : Nat → List Char → Except NumeralError Nat
  | n, [] => .ok n
  | n, c :: s =>
    if isDigit c then
      let m := n * 10 + digitValue c
      if m < bound then readDigits bound m s else .error .tooLarge
    else .error .invalidDigit

/-- Reads an optional plus sign and one or more digits that denote a number below the bound. -/
def readNumeral (bound : Nat) (s : List Char) : Except NumeralError Nat :=
  match s with
  | [] => .error .empty
  | '+' :: [] => .error .invalidDigit
  | '+' :: c :: t => readDigits bound 0 (c :: t)
  | c :: t => readDigits bound 0 (c :: t)

theorem digitValue_digitChar {d : Nat} (h : d < 10) : digitValue (digitChar d) = d := by
  have : ∀ d, d < 10 → digitValue (digitChar d) = d := by decide
  exact this d h

theorem isDigit_digitChar {d : Nat} (h : d < 10) : isDigit (digitChar d) = true := by
  have : ∀ d, d < 10 → isDigit (digitChar d) = true := by decide
  exact this d h

theorem ofDigits_append_singleton (s : List Char) (c : Char) :
    ofDigits (s ++ [c]) = ofDigits s * 10 + digitValue c := by
  simp [ofDigits]

theorem ofDigits_append (s t : List Char) :
    ofDigits (s ++ t) = t.foldl (fun n c => n * 10 + digitValue c) (ofDigits s) := by
  simp [ofDigits]

/-- Digits only make a number larger. -/
theorem le_foldl_digits (s : List Char) (n : Nat) :
    n ≤ s.foldl (fun n c => n * 10 + digitValue c) n := by
  induction s generalizing n with
  | nil => exact Nat.le_refl n
  | cons c s ih => exact Nat.le_trans (by omega) (ih (n * 10 + digitValue c))

theorem ofDigits_digits (n : Nat) : ofDigits (digits n) = n := by
  induction n using Nat.strongRecOn with
  | ind n ih =>
    rw [digits]
    split
    · next h => simp [ofDigits, digitValue_digitChar h]
    · next h =>
      rw [ofDigits_append_singleton, ih (n / 10) (by omega),
        digitValue_digitChar (Nat.mod_lt n (by decide))]
      omega

theorem isDigit_of_mem_digits (n : Nat) : ∀ c ∈ digits n, isDigit c = true := by
  induction n using Nat.strongRecOn with
  | ind n ih =>
    rw [digits]
    split
    · next h => simp [isDigit_digitChar h]
    · next h =>
      intro c hc
      rcases List.mem_append.1 hc with hc | hc
      · exact ih (n / 10) (by omega) c hc
      · rw [List.mem_singleton.1 hc]
        exact isDigit_digitChar (Nat.mod_lt n (by decide))

theorem digits_ne_nil (n : Nat) : digits n ≠ [] := by
  rw [digits]
  split <;> simp

theorem ofDigits_padded (width n : Nat) : ofDigits (padded width n) = n := by
  have hzeros : ∀ k, ofDigits (List.replicate k '0') = 0 := by
    intro k
    induction k with
    | zero => rfl
    | succ k ih => rw [List.replicate_succ', ofDigits_append_singleton, ih]; rfl
  rw [padded, ofDigits_append, hzeros]
  exact ofDigits_digits n

theorem isDigit_of_mem_padded {width n : Nat} {c : Char} (h : c ∈ padded width n) :
    isDigit c = true := by
  rcases List.mem_append.1 h with h | h
  · rw [List.eq_of_mem_replicate h]
    rfl
  · exact isDigit_of_mem_digits n c h

theorem le_length_padded (width n : Nat) : width ≤ (padded width n).length := by
  simp only [padded, List.length_append, List.length_replicate]
  omega

theorem length_digits_le {n : Nat} : ∀ {width : Nat}, 0 < width → n < 10 ^ width →
    (digits n).length ≤ width := by
  induction n using Nat.strongRecOn with
  | ind n ih =>
    intro width hwidth h
    rw [digits]
    split
    · exact hwidth
    · next hn =>
      obtain ⟨width, rfl⟩ := Nat.exists_eq_succ_of_ne_zero (Nat.ne_of_gt hwidth)
      have hq : n / 10 < 10 ^ width := by
        rw [Nat.pow_succ] at h
        exact Nat.div_lt_of_lt_mul (by omega)
      have hpos : 0 < width := by
        rcases width with _ | width
        · simp at hq
          omega
        · exact Nat.succ_pos _
      rw [List.length_append, List.length_singleton]
      exact Nat.succ_le_succ (ih (n / 10) (by omega) hpos hq)

theorem length_padded {width n : Nat} (hwidth : 0 < width) (h : n < 10 ^ width) :
    (padded width n).length = width := by
  have := length_digits_le hwidth h
  simp only [padded, List.length_append, List.length_replicate]
  omega

/-- Only zero starts with a zero. -/
theorem head?_digits {n : Nat} (h : 0 < n) : (digits n).head? ≠ some '0' := by
  induction n using Nat.strongRecOn with
  | ind n ih =>
    rw [digits]
    split
    · next hn =>
      have : ∀ m, m < 10 → 0 < m → [digitChar m].head? ≠ some '0' := by decide
      exact this n hn h
    · next hn =>
      have := ih (n / 10) (by omega) (by omega)
      cases hd : digits (n / 10) with
      | nil => exact absurd hd (digits_ne_nil _)
      | cons c s => simpa [hd] using this

/-- A digit is not blank. -/
theorem isBlank_of_isDigit {c : Char} (h : isDigit c = true) : isBlank c = false := by
  simp only [isDigit, Bool.and_eq_true, decide_eq_true_eq] at h
  unfold isBlank
  generalize c.toNat = n at h
  have : ∀ n, n < 58 → 48 ≤ n → blankCodes.contains n = false := by decide
  exact this n (by omega) h.1

/-- Digits that denote a number below the bound are read to the end. -/
theorem readDigits_eq {bound : Nat} :
    ∀ (s : List Char) (n : Nat), (∀ c ∈ s, isDigit c = true) →
      s.foldl (fun n c => n * 10 + digitValue c) n < bound →
      readDigits bound n s = .ok (s.foldl (fun n c => n * 10 + digitValue c) n) := by
  intro s
  induction s with
  | nil => intro n _ _; rfl
  | cons c s ih =>
    intro n hd hb
    have hc : isDigit c = true := hd c (by simp)
    have hm : n * 10 + digitValue c < bound := Nat.lt_of_le_of_lt (le_foldl_digits s _) hb
    simp only [readDigits, hc, if_true, hm]
    exact ih _ (fun d hd' => hd d (by simp [hd'])) hb

/-- Behind an optional plus sign, a numeral is read digit by digit. -/
theorem readNumeral_of_digits {bound : Nat} {s ds : List Char} (hs : s = ds ∨ s = '+' :: ds)
    (hne : ds ≠ []) (hd : ∀ c ∈ ds, isDigit c = true) :
    readNumeral bound s = readDigits bound 0 ds := by
  obtain ⟨c, t, rfl⟩ := List.exists_cons_of_ne_nil hne
  rcases hs with rfl | rfl
  · have hc : c ≠ '+' := by
      rintro rfl
      exact absurd (hd '+' (by simp)) (by decide)
    unfold readNumeral
    split
    · next h => cases h
    · next h => cases h; exact absurd rfl hc
    · next h => cases h; exact absurd rfl hc
    · next h => cases h; rfl
  · rfl

theorem read_digits {bound n : Nat} (h : n < bound) : readNumeral bound (digits n) = .ok n := by
  have hd := isDigit_of_mem_digits n
  have hv : (digits n).foldl (fun n c => n * 10 + digitValue c) 0 = n := ofDigits_digits n
  rw [readNumeral_of_digits (.inl rfl) (digits_ne_nil n) hd, readDigits_eq _ 0 hd (by rwa [hv]), hv]

/-- A text is an optional plus sign and one or more digits that denote a number. -/
def IsNumeral (s : List Char) (n : Nat) : Prop :=
  ∃ ds, (s = ds ∨ s = '+' :: ds) ∧ ds ≠ [] ∧ (∀ c ∈ ds, isDigit c = true) ∧ ofDigits ds = n

/-- What is read are digits, and the number that they denote is below the bound. -/
theorem of_readDigits_eq_ok {bound m : Nat} {s : List Char} {n : Nat}
    (h : readDigits bound n s = .ok m) :
    (∀ c ∈ s, isDigit c = true) ∧ s.foldl (fun n c => n * 10 + digitValue c) n = m ∧
      (s ≠ [] → m < bound) := by
  induction s generalizing n with
  | nil =>
    cases h
    exact ⟨by simp, rfl, fun h => absurd rfl h⟩
  | cons c s ih =>
    simp only [readDigits] at h
    split at h
    · rename_i hc
      split at h
      · rename_i hlt
        obtain ⟨hdigits, hvalue, hbound⟩ := ih h
        refine ⟨?_, hvalue, fun _ => ?_⟩
        · simpa [hc] using hdigits
        · cases s with
          | nil => exact hvalue ▸ hlt
          | cons d t => exact hbound (List.cons_ne_nil d t)
      · cases h
    · cases h

/-- Digits are refused as too large only if they denote no number below the bound. -/
theorem readDigits_eq_tooLarge {bound : Nat} {s : List Char} {n : Nat} (hn : n < bound)
    (hd : ∀ c ∈ s, isDigit c = true)
    (hb : bound ≤ s.foldl (fun n c => n * 10 + digitValue c) n) :
    readDigits bound n s = .error .tooLarge := by
  induction s generalizing n with
  | nil => exact absurd hb (Nat.not_le.2 hn)
  | cons c s ih =>
    have hc : isDigit c = true := hd c (by simp)
    simp only [readDigits, hc, if_true]
    split
    · rename_i hlt
      exact ih hlt (fun d hd' => hd d (by simp [hd'])) hb
    · rfl

/-- **Which texts are read.** -/
theorem readNumeral_eq_ok_iff {bound n : Nat} {s : List Char} :
    readNumeral bound s = .ok n ↔ IsNumeral s n ∧ n < bound := by
  constructor
  · intro h
    have hread : ∃ ds, (s = ds ∨ s = '+' :: ds) ∧ ds ≠ [] ∧ readDigits bound 0 ds = .ok n := by
      unfold readNumeral at h
      split at h
      · cases h
      · cases h
      · exact ⟨_, .inr rfl, List.cons_ne_nil _ _, h⟩
      · exact ⟨_, .inl rfl, List.cons_ne_nil _ _, h⟩
    obtain ⟨ds, hs, hne, hds⟩ := hread
    obtain ⟨hdigits, hvalue, hbound⟩ := of_readDigits_eq_ok hds
    exact ⟨⟨ds, hs, hne, hdigits, hvalue⟩, hbound hne⟩
  · rintro ⟨⟨ds, hs, hne, hdigits, hvalue⟩, hbound⟩
    subst hvalue
    rw [readNumeral_of_digits hs hne hdigits]
    exact readDigits_eq ds 0 hdigits hbound

theorem readNumeral_eq_tooLarge {bound n : Nat} {s : List Char} (hpos : 0 < bound)
    (h : IsNumeral s n) (hn : bound ≤ n) : readNumeral bound s = .error .tooLarge := by
  obtain ⟨ds, hs, hne, hdigits, rfl⟩ := h
  rw [readNumeral_of_digits hs hne hdigits]
  exact readDigits_eq_tooLarge hpos hdigits hn

end WalletTasks.Text
