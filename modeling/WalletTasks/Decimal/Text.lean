import WalletTasks.Text.Numeral
import WalletTasks.Decimal.Basic

/-!
# The text of a decimal

A decimal is written with all the digits of its scale: `1.10` has scale 2. The reader takes an
optional sign, digits with at most one point, and underscores between digits; digits that no longer
fit are given up, the first of them rounding the last digit kept. A second form has a decimal
exponent.

* `read?_toString`: a decimal is read back from its text, with its scale.
-/

namespace WalletTasks.Decimal

open WalletTasks.Text

/-- The digits of an absolute mantissa with a point in front of the last `scale` of them. -/
def writeAbs (n scale : Nat) : List Char :=
  if scale = 0 then digits n
  else
    let ds := padded (scale + 1) n
    ds.take (ds.length - scale) ++ '.' :: ds.drop (ds.length - scale)

/-- A minus sign if the decimal is negative, then its digits. -/
def write (d : Decimal) : List Char :=
  (if d.mantissa < 0 then ['-'] else []) ++ writeAbs d.mantissa.natAbs d.scale

instance : ToString Decimal where
  toString d := String.ofList d.write

/-- The state of the reader: digits so far, their number after the point, whether the point has
been seen, and whether any digit has. -/
structure Reading where
  digits : Nat
  scale : Nat
  pointSeen : Bool
  digitSeen : Bool

/-- The decimal with this sign, absolute mantissa and scale. -/
def signed? (negative : Bool) (n scale : Nat) : Option Decimal :=
  ofParts? (if negative then -(n : Int) else n) scale

/-- Ends the reading at the first digit that is not kept: five and above round up, and the digits
behind it are not looked at. -/
def roundAt (negative : Bool) (n scale : Nat) (c : Char) : Option Decimal :=
  if isDigit c then
    if 5 ≤ digitValue c then
      -- Rounding up the largest mantissa leaves 96 bits; then it gives up its last digit, to make
      -- room, if that digit stands behind the point.
      if n + 1 < 2 ^ 96 then signed? negative (n + 1) scale
      else if scale = 0 then none
      else signed? negative ((n + 5) / 10) (scale - 1)
    else signed? negative n scale
  else if c = '_' ∨ c = '.' then signed? negative n scale
  else none

/-- Reads digits, the point and underscores to the end. -/
def readFrom (negative : Bool) (r : Reading) : List Char → Option Decimal
  | [] => if r.digitSeen then signed? negative r.digits r.scale else none
  | c :: s =>
    if r.pointSeen ∧ 28 ≤ r.scale then roundAt negative r.digits r.scale c
    else if isDigit c then
      let n := r.digits * 10 + digitValue c
      if n < 2 ^ 96 then
        readFrom negative ⟨n, if r.pointSeen then r.scale + 1 else r.scale, r.pointSeen, true⟩ s
      else if r.pointSeen then roundAt negative r.digits r.scale c
      else none
    else if c = '.' ∧ !r.pointSeen then readFrom negative { r with pointSeen := true } s
    else if c = '_' ∧ r.digitSeen then readFrom negative r s
    else none

/-- Reads a decimal without an exponent. -/
def readPlain (s : List Char) : Option Decimal :=
  let start : Reading := ⟨0, 0, false, false⟩
  match s with
  | '-' :: t => readFrom true start t
  | '+' :: t => readFrom false start t
  | t => readFrom false start t

/-- The product of two decimals as far as a power of ten is concerned: the mantissa grows by a
factor and gives up digits after the point if it has to. -/
def timesPowerOfTen? (d : Decimal) (e : Nat) : Option Decimal := scaledBy? (10 ^ e) d

/-- A power of ten of more than nine digits is applied in steps of nine. -/
def shiftLeft? : Nat → Decimal → Nat → Option Decimal
  | 0, d, _ => some d
  | steps + 1, d, e =>
    if e ≤ 9 then timesPowerOfTen? d e
    else (timesPowerOfTen? d 9).bind fun d' => shiftLeft? steps d' (e - 9)

/-- Reads a decimal with an exponent: it moves the point, and only where there are no digits left
to move over does the mantissa grow. -/
def readScientific (s : List Char) : Option Decimal :=
  let isMark : Char → Bool := fun c => c == 'e' || c == 'E'
  let base := s.takeWhile (fun c => !isMark c)
  match s.dropWhile (fun c => !isMark c) with
  | [] => none
  | _ :: '-' :: e => do
    let d ← readPlain base
    let n ← (readNumeral (2 ^ 32) e).toOption
    ofParts? d.mantissa (d.scale + n)
  | _ :: e => do
    let d ← readPlain base
    let n ← (readNumeral (2 ^ 32) e).toOption
    if n ≤ d.scale then ofParts? d.mantissa (d.scale - n)
    else if 28 < n then none
    else (shiftLeft? 4 d n).map normalize

/-- Reads a decimal in either form. -/
def read? (s : String) : Option Decimal :=
  (readPlain s.toList).orElse fun _ => readScientific s.toList

/-- Digits are read as long as they fit, in front of the point and behind it. -/
theorem readFrom_digits (negative : Bool) (s t : List Char) (hs : ∀ c ∈ s, isDigit c = true)
    (r : Reading) (hscale : r.pointSeen = true → r.scale + s.length ≤ 28)
    (hfits : s.foldl (fun n c => n * 10 + digitValue c) r.digits < 2 ^ 96) :
    readFrom negative r (s ++ t) =
      readFrom negative ⟨s.foldl (fun n c => n * 10 + digitValue c) r.digits,
        if r.pointSeen then r.scale + s.length else r.scale, r.pointSeen,
        r.digitSeen || !s.isEmpty⟩ t := by
  induction s generalizing r with
  | nil => simp
  | cons c s ih =>
    have hc : isDigit c = true := hs c List.mem_cons_self
    have hcut : ¬(r.pointSeen = true ∧ 28 ≤ r.scale) := by
      rintro ⟨hpoint, hfull⟩
      have := hscale hpoint
      simp only [List.length_cons] at this
      omega
    have hnext : r.digits * 10 + digitValue c < 2 ^ 96 :=
      Nat.lt_of_le_of_lt (le_foldl_digits s _) hfits
    rw [List.cons_append, readFrom, if_neg hcut, if_pos hc]
    simp only [hnext, if_true]
    rw [ih (fun d hd => hs d (List.mem_cons_of_mem c hd))]
    · cases hpoint : r.pointSeen <;> simp [Nat.add_assoc, Nat.add_comm 1]
    · intro hpoint
      have := hscale hpoint
      simp only [List.length_cons] at this
      simp only [show r.pointSeen = true from hpoint, if_true]
      omega
    · exact hfits

theorem readFrom_writeAbs (negative : Bool) {n scale : Nat} (hn : n < 2 ^ 96)
    (hscale : scale ≤ 28) :
    readFrom negative ⟨0, 0, false, false⟩ (writeAbs n scale) = signed? negative n scale := by
  unfold writeAbs
  split
  · next h =>
    subst h
    have hvalue : (digits n).foldl (fun n c => n * 10 + digitValue c) 0 = n := ofDigits_digits n
    have hread := readFrom_digits negative (digits n) [] (isDigit_of_mem_digits n)
      ⟨0, 0, false, false⟩ nofun (by rw [hvalue]; exact hn)
    rw [List.append_nil] at hread
    rw [hread]
    simp [readFrom, hvalue, digits_ne_nil]
  · next h =>
    have hlength := le_length_padded (scale + 1) n
    have hdigits : ∀ c ∈ padded (scale + 1) n, isDigit c = true := fun c => isDigit_of_mem_padded
    have hvalue := ofDigits_padded (scale + 1) n
    generalize padded (scale + 1) n = ds at hlength hdigits hvalue
    obtain ⟨a, b, rfl, hb⟩ : ∃ a b, ds = a ++ b ∧ b.length = scale :=
      ⟨ds.take (ds.length - scale), ds.drop (ds.length - scale), by simp,
        by rw [List.length_drop]; omega⟩
    have htake : (a ++ b).length - scale = a.length := by
      rw [List.length_append, hb]; omega
    have ha : a ≠ [] := by
      rintro rfl
      rw [List.nil_append, hb] at hlength
      omega
    simp only [htake, List.take_left, List.drop_left]
    rw [ofDigits_append] at hvalue
    have hwhole := readFrom_digits negative a ('.' :: b)
      (fun c hc => hdigits c (List.mem_append_left _ hc)) ⟨0, 0, false, false⟩ nofun
      (Nat.lt_of_le_of_lt (le_foldl_digits b _) (by rw [← hvalue] at hn; exact hn))
    have hfraction := readFrom_digits negative b []
      (fun c hc => hdigits c (List.mem_append_right _ hc)) ⟨ofDigits a, 0, true, true⟩
      (fun _ => by simp [hb, hscale]) (by rw [hvalue]; exact hn)
    rw [List.append_nil] at hfraction
    have hseen : (!a.isEmpty) = true := by simpa using ha
    have hpoint : readFrom negative ⟨ofDigits a, 0, false, true⟩ ('.' :: b) =
        readFrom negative ⟨ofDigits a, 0, true, true⟩ b := rfl
    simp only [Bool.false_eq_true, if_false, Bool.false_or, hseen] at hwhole
    rw [hwhole]
    refine hpoint.trans (hfraction.trans ?_)
    simp [readFrom, hvalue, hb]

/-- The absolute value of a decimal starts with a digit. -/
theorem writeAbs_eq_cons (n scale : Nat) :
    ∃ c s, writeAbs n scale = c :: s ∧ isDigit c = true := by
  unfold writeAbs
  split
  · cases hd : digits n with
    | nil => exact absurd hd (digits_ne_nil n)
    | cons c s =>
      exact ⟨c, s, rfl, isDigit_of_mem_digits n c (by rw [hd]; exact List.mem_cons_self)⟩
  · have hlength := le_length_padded (scale + 1) n
    have hdigits : ∀ c ∈ padded (scale + 1) n, isDigit c = true := fun c => isDigit_of_mem_padded
    generalize padded (scale + 1) n = ds at hlength hdigits
    obtain ⟨k, hk⟩ : ∃ k, ds.length - scale = k + 1 := ⟨ds.length - scale - 1, by omega⟩
    cases ds with
    | nil => simp at hlength
    | cons c s =>
      simp only [hk, List.take_succ_cons, List.cons_append]
      exact ⟨c, _, rfl, hdigits c List.mem_cons_self⟩

/-- A decimal is read back from its text. -/
theorem read?_toString (d : Decimal) : read? (toString d) = some d := by
  have hsigned : signed? (decide (d.mantissa < 0)) d.mantissa.natAbs d.scale = some d := by
    have hmantissa : (if decide (d.mantissa < 0) = true then -(d.mantissa.natAbs : Int)
        else d.mantissa.natAbs) = d.mantissa := by
      split
      · next h => simp only [decide_eq_true_eq] at h; omega
      · next h => simp only [decide_eq_true_eq] at h; omega
    rw [signed?, hmantissa, ofParts?, dif_pos ⟨d.mantissa_lt, d.scale_le⟩]
  have hplain : readPlain d.write = some d := by
    rw [← hsigned, ← readFrom_writeAbs _ d.mantissa_lt d.scale_le]
    unfold write
    by_cases hneg : d.mantissa < 0
    · simp only [hneg, if_true, decide_true]
      rfl
    · simp only [hneg, if_false, decide_false, List.nil_append]
      obtain ⟨c, s, heq, hc⟩ := writeAbs_eq_cons d.mantissa.natAbs d.scale
      rw [heq]
      unfold readPlain
      split
      · next h => cases h; cases hc
      · next h => cases h; cases hc
      · rfl
  show (readPlain (String.ofList d.write).toList).orElse _ = _
  rw [String.toList_ofList, hplain]
  rfl

end WalletTasks.Decimal
