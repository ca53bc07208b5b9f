import WalletTasks.Time.Instant

/-!
# Dates and instants are read back

A day has one date, which the calendar has, and the date leads back to the day. The arithmetic
counts years from March in eras of 400 years, so that it all comes down to the days of one era.

An instant is written as a date and a time of the day, and is read back from them. The only
instants without a text of their own are inside a leap second that does not end a minute: they are
written as the second behind it.

* `Date.toDays_ofDays`, `Date.isValid_ofDays`: a day is found again from its date.
* `Instant.read?_text`: an instant is read back from its text.
* `Instant.legible_iff`: which instants are.
-/

namespace WalletTasks

namespace Date

/-- The year of an era of 400 years on a day of the era, counted from March. -/
def yearOfEra (dayOfEra : Int) : Int :=
  (dayOfEra - dayOfEra / 1460 + dayOfEra / 36524 - dayOfEra / 146096) / 365

/-- The day of the year on a day of the era, counted from March. -/
def dayOfYear (dayOfEra : Int) : Int :=
  dayOfEra - (365 * yearOfEra dayOfEra + yearOfEra dayOfEra / 4 - yearOfEra dayOfEra / 100)

section

variable {d : Int} (h₀ : 0 ≤ d) (h₁ : d < 146097)

include h₀ h₁

theorem centuries : d / 36524 = 0 ∨ d / 36524 = 1 ∨ d / 36524 = 2 ∨ d / 36524 = 3 ∨
    d / 36524 = 4 := by omega

/-- An era has four hundred years. -/
theorem yearOfEra_bounds : 0 ≤ yearOfEra d ∧ yearOfEra d < 400 := by
  unfold yearOfEra
  omega

theorem dayOfYear_bounds : 0 ≤ dayOfYear d ∧ dayOfYear d ≤ 365 := by
  have hcenturies := centuries h₀ h₁
  have hlast : d / 146096 = 0 ∨ d / 146096 = 1 := by omega
  have hleap : yearOfEra d / 4 ≤ d / 1460 := by unfold yearOfEra; omega
  have hcentury : d / 36524 - d / 146096 ≤ yearOfEra d / 100 := by unfold yearOfEra; omega
  unfold dayOfYear
  generalize hy : yearOfEra d = y at hleap hcentury
  unfold yearOfEra at hy
  omega

/-- Only a leap year has a last day of February more. -/
theorem isLeap_of_dayOfYear (h : dayOfYear d = 365) : isLeap (yearOfEra d + 1) = true := by
  have hcenturies := centuries h₀ h₁
  have hlast : d / 146096 = 0 ∨ d / 146096 = 1 := by omega
  have hbounds := yearOfEra_bounds h₀ h₁
  have hcentury : yearOfEra d / 100 = d / 36524 - d / 146096 := by unfold yearOfEra; omega
  unfold dayOfYear at h
  generalize hy : yearOfEra d = y at hbounds hcentury h
  unfold yearOfEra at hy
  have hleap : y / 4 + 1 ≤ d / 1460 := by omega
  have hfourth : 3 ≤ y - 4 * (y / 4) := by omega
  have h4 : (y + 1) % 4 = 0 := by omega
  have h100 : (y + 1) % 100 = 0 → (y + 1) % 400 = 0 := by omega
  unfold isLeap
  simp only [h4, decide_true, Bool.true_and, Bool.or_eq_true, decide_eq_true_eq]
  omega

end

/-- The month on a day of a year, counted from March: from there on five months in a row always
have 153 days. -/
def monthOfYear (dayOfYear : Int) : Int := (5 * dayOfYear + 2) / 153

/-- The days in front of a month, counted from March. -/
def daysBefore (monthFromMarch : Int) : Int := (153 * monthFromMarch + 2) / 5

/-- Months are counted from March, so that the day that a leap year adds is the last one. -/
theorem monthOfYear_cases {n : Int} (h₀ : 0 ≤ n) (h₁ : n ≤ 365) :
    ∃ m : Nat, monthOfYear n = m ∧ m < 12 ∧ daysBefore m ≤ n := by
  refine ⟨(monthOfYear n).toNat, ?_, ?_, ?_⟩ <;> unfold monthOfYear <;> try unfold daysBefore
  all_goals omega

/-- A date is made of an era, a year of the era, and a day of the year, counted from March. -/
theorem ofDays_eq (days : Int) :
    ∃ (era y n : Int) (m : Nat), days = era * 146097 + (365 * y + y / 4 - y / 100 + n) - 719468 ∧
      0 ≤ y ∧ y < 400 ∧ n ≤ 365 ∧ (n = 365 → isLeap (y + 1) = true) ∧ monthOfYear n = m ∧
      m < 12 ∧ daysBefore m ≤ n ∧
      ofDays days = ⟨if 10 ≤ m then y + era * 400 + 1 else y + era * 400,
        if m < 10 then m + 3 else m - 9, (n - daysBefore m + 1).toNat⟩ := by
  have h₀ : 0 ≤ (days + 719468) % 146097 := by omega
  have h₁ : (days + 719468) % 146097 < 146097 := by omega
  obtain ⟨hy₀, hy₁⟩ := yearOfEra_bounds h₀ h₁
  obtain ⟨hn₀, hn₁⟩ := dayOfYear_bounds h₀ h₁
  obtain ⟨m, hm, hm₁, hm₀⟩ := monthOfYear_cases hn₀ hn₁
  refine ⟨(days + 719468) / 146097, yearOfEra ((days + 719468) % 146097),
    dayOfYear ((days + 719468) % 146097), m, ?_, hy₀, hy₁, hn₁, isLeap_of_dayOfYear h₀ h₁,
    hm, hm₁, hm₀, ?_⟩
  · unfold dayOfYear
    omega
  · generalize hy : yearOfEra ((days + 719468) % 146097) = y
    generalize hn : dayOfYear ((days + 719468) % 146097) = n at hm
    have hdate : ofDays days =
        ⟨if (if monthOfYear n < 10 then monthOfYear n + 3 else monthOfYear n - 9) ≤ 2 then
          y + (days + 719468) / 146097 * 400 + 1 else y + (days + 719468) / 146097 * 400,
          (if monthOfYear n < 10 then monthOfYear n + 3 else monthOfYear n - 9).toNat,
          (n - daysBefore (monthOfYear n) + 1).toNat⟩ := by
      subst hn hy
      rfl
    rw [hdate, hm]
    -- January and February belong to the next civil year
    by_cases h : m < 10
    · have h' : (m : Int) < 10 := by omega
      have h'' : ¬((m : Int) + 3 ≤ 2) := by omega
      simp only [h, h', if_true, h'', if_false, Nat.not_le.2 h]
      congr 1
    · have h' : ¬((m : Int) < 10) := by omega
      have h'' : (m : Int) - 9 ≤ 2 := by omega
      simp only [h, h', if_false, h'', if_true, Nat.not_lt.1 h]
      congr 1
      omega

theorem toDays_ofDays (days : Int) : toDays (ofDays days) = days := by
  obtain ⟨era, y, n, m, hdays, hy₀, hy₁, hn, -, hmonth, hm, hbefore, hdate⟩ := ofDays_eq days
  rw [hdate]
  unfold toDays
  unfold daysBefore at *
  by_cases h : m < 10
  · have h10 : ¬10 ≤ m := by omega
    have h2 : ¬(m + 3 ≤ 2) := by omega
    have h3 : 2 < m + 3 := by omega
    simp only [h, h10, h2, h3, if_true, if_false]
    omega
  · have h10 : 10 ≤ m := by omega
    have h2 : m - 9 ≤ 2 := by omega
    have h3 : ¬2 < m - 9 := by omega
    simp only [h, h10, h2, h3, if_true, if_false]
    omega

theorem daysInMonth_le (year : Int) (month : Nat) : daysInMonth year month ≤ 31 := by
  unfold daysInMonth
  split
  · split <;> omega
  all_goals omega

/-- Leap years repeat after four hundred years. -/
theorem isLeap_add_era (year era : Int) : isLeap (year + era * 400) = isLeap year := by
  unfold isLeap
  have h4 : (year + era * 400) % 4 = year % 4 := by omega
  have h100 : (year + era * 400) % 100 = year % 100 := by omega
  have h400 : (year + era * 400) % 400 = year % 400 := by omega
  rw [h4, h100, h400]

theorem isValid_ofDays (days : Int) : (ofDays days).isValid = true := by
  obtain ⟨era, y, n, m, hdays, hy₀, hy₁, hn, hleap, hmonth, hm, hbefore, hdate⟩ := ofDays_eq days
  rw [hdate]
  unfold monthOfYear at hmonth
  unfold daysBefore at *
  have hcases : m = 0 ∨ m = 1 ∨ m = 2 ∨ m = 3 ∨ m = 4 ∨ m = 5 ∨ m = 6 ∨ m = 7 ∨ m = 8 ∨ m = 9 ∨
      m = 10 ∨ m = 11 := by omega
  -- only the length of February depends on the year
  have hlast : m = 11 → (n - (153 * (m : Int) + 2) / 5 + 1).toNat ≤
      daysInMonth (y + era * 400 + 1) 2 := by
    rintro rfl
    have hyear : y + era * 400 + 1 = y + 1 + era * 400 := by omega
    rw [daysInMonth, hyear, isLeap_add_era]
    by_cases h : n = 365
    · rw [hleap h, if_pos rfl]
      omega
    · split <;> omega
  rcases hcases with rfl | rfl | rfl | rfl | rfl | rfl | rfl | rfl | rfl | rfl | rfl | rfl
  all_goals simp [isValid, daysInMonth] at hlast ⊢
  all_goals omega

end Date

namespace Instant

open Text

/-- A padded number is read if it is not too long, and nothing behind it goes on with it. -/
theorem readNumber_padded {width : Nat} (n : Nat) {k : Nat} {r : List Char} (hk : 0 < k)
    (hlength : (padded k n).length ≤ width)
    (hr : (padded k n).length = width ∨ ∀ c ∈ r.head?, isDigit c = false) :
    readNumber width (padded k n ++ r) = some (n, r) := by
  have hdigits : ∀ c ∈ padded k n, isDigit c = true := fun c => isDigit_of_mem_padded
  have hvalue := ofDigits_padded k n
  have hpos : k ≤ (padded k n).length := le_length_padded k n
  generalize padded k n = ds at hdigits hvalue hpos hlength hr
  have hne : ds ≠ [] := List.ne_nil_of_length_pos (Nat.lt_of_lt_of_le hk hpos)
  -- the reader takes the digits and stops, at its width or at what follows
  have htake : ((ds ++ r).take width).takeWhile isDigit = ds := by
    rw [List.take_append, List.take_of_length_le hlength, List.takeWhile_append_of_pos hdigits]
    obtain rfl | hr := hr
    · simp
    · cases r with
      | nil => simp
      | cons c r =>
        have hc := hr c rfl
        cases width - ds.length <;> simp [hc]
  unfold readNumber
  rw [htake]
  simp [hne, hvalue]

theorem padded_eq_cons {k : Nat} (hk : 0 < k) (n : Nat) :
    ∃ c s, padded k n = c :: s ∧ isDigit c = true := by
  have hpos : k ≤ (padded k n).length := le_length_padded k n
  have hdigits : ∀ c ∈ padded k n, isDigit c = true := fun c => isDigit_of_mem_padded
  cases hd : padded k n with
  | nil =>
    rw [hd] at hpos
    exact absurd hpos (Nat.not_le.2 hk)
  | cons c s => exact ⟨c, s, rfl, hdigits c (by rw [hd]; exact List.mem_cons_self)⟩

theorem trimLeft_padded {k : Nat} (hk : 0 < k) (n : Nat) (r : List Char) :
    trimLeft (padded k n ++ r) = padded k n ++ r := by
  obtain ⟨c, s, heq, hc⟩ := padded_eq_cons hk n
  rw [heq]
  exact trimLeft_of_head (isBlank_of_isDigit hc)

/-- A number of two digits is read. -/
theorem readPart_twoDigits {n : Nat} (h : n < 100) (r : List Char) :
    readPart (twoDigits n ++ r) = some (n, r) := by
  have hlength : (padded 2 n).length = 2 := length_padded (by decide) h
  unfold readPart twoDigits
  rw [trimLeft_padded (by decide)]
  exact readNumber_padded n (by decide) (Nat.le_of_eq hlength) (.inl hlength)

/-- A year is read up to the sign behind it. -/
theorem readYear_writeYear (y : Int) (r : List Char) :
    readYear (writeYear y ++ '-' :: r) = some (y, '-' :: r) := by
  have hstop : ∀ c ∈ ('-' :: r).head?, isDigit c = false := by rintro _ ⟨⟩; rfl
  unfold writeYear
  split
  · next hy =>
    have hlength : (padded 4 y.toNat).length = 4 := length_padded (by decide) (by omega)
    have hread : readNumber 4 _ = _ :=
      readNumber_padded y.toNat (by decide) (Nat.le_of_eq hlength) (.inr hstop)
    unfold readYear
    rw [trimLeft_padded (by decide)]
    -- a digit is none of the two signs
    obtain ⟨c, s, hcons, hc⟩ := padded_eq_cons (k := 4) (by decide) y.toNat
    rw [hcons] at hread ⊢
    split
    · next h => cases h; cases hc
    · next h => cases h; cases hc
    · rw [hread]
      show some ((y.toNat : Int), '-' :: r) = _
      rw [Int.toNat_of_nonneg hy.1]
  · next hy =>
    have hlength : (padded 4 y.natAbs).length ≤ (padded 4 y.natAbs ++ '-' :: r).length := by simp
    have hread := readNumber_padded y.natAbs (by decide) hlength (.inr hstop)
    rw [List.cons_append]
    generalize padded 4 y.natAbs ++ '-' :: r = s at hread
    by_cases hneg : y < 0
    · rw [if_pos hneg]
      show (readNumber s.length s).map _ = _
      rw [hread]
      show some (-(y.natAbs : Int), '-' :: r) = _
      rw [show -(y.natAbs : Int) = y by omega]
    · rw [if_neg hneg]
      show (readNumber s.length s).map _ = _
      rw [hread]
      show some ((y.natAbs : Int), '-' :: r) = _
      rw [show (y.natAbs : Int) = y by omega]

/-- A fraction is read back from any number of digits that it is written with. -/
theorem readFraction_padded {k n : Nat} (hk : 0 < k) (hnine : k ≤ 9) (hn : n < 10 ^ k) :
    readFraction ('.' :: padded k n ++ ['Z']) = some (n * 10 ^ (9 - k), ['Z']) := by
  have hlength := length_padded hk hn
  have hdigits : ∀ c ∈ padded k n, isDigit c = true := fun c => isDigit_of_mem_padded
  have htake : (padded k n ++ ['Z']).takeWhile isDigit = padded k n := by
    rw [List.takeWhile_append_of_pos hdigits]
    simp [isDigit]
  have hne : (padded k n).isEmpty = false := by
    obtain ⟨c, s, heq, -⟩ := padded_eq_cons hk n
    rw [heq]
    rfl
  have hkept : (padded k n).take 9 = padded k n := List.take_of_length_le (by omega)
  have hdrop : (padded k n ++ ['Z']).drop k = ['Z'] := List.drop_left' hlength
  simp only [List.cons_append, readFraction, htake, hne, Bool.false_eq_true, if_false, hkept,
    ofDigits_padded, hlength, hdrop]

/-- Fractions are written with three, six or nine digits, or not at all, and read back. -/
theorem readFraction_writeFraction {nano : Nat} (h : nano < 1000000000) :
    readFraction (writeFraction nano ++ ['Z']) = some (nano, ['Z']) := by
  unfold writeFraction
  -- nothing, milliseconds, microseconds, nanoseconds
  split
  · next h => subst h; rfl
  split
  · next h =>
    rw [readFraction_padded (by decide) (by decide) (by omega)]
    congr 2
    omega
  split
  · next h =>
    rw [readFraction_padded (by decide) (by decide) (by omega)]
    congr 2
    omega
  · rw [readFraction_padded (by decide) (by decide) (by omega)]
    congr 2
    omega

/-- A part that is read hands its value on to what reads the rest. -/
theorem bind_of_eq_some {α β : Type} {x : Option α} {a : α} {f : α → Option β} (h : x = some a) :
    (x >>= f) = f a := by
  rw [h]
  rfl

/-- The text of an instant is read part by part. -/
theorem read_parts {date : Date} {hour minute second nano : Nat} (hdate : date.isValid = true)
    (htime : hour < 24 ∧ minute < 60 ∧ second ≤ 60) (hnano : nano < 1000000000) :
    read (writeYear date.year ++ '-' :: twoDigits date.month ++ '-' :: twoDigits date.day ++
      'T' :: twoDigits hour ++ ':' :: twoDigits minute ++ ':' :: twoDigits second ++
      writeFraction nano ++ ['Z']) = (do
        let local' ← ofParts? date.toDays (hour * 3600 + minute * 60 + min second 59)
          (if second = 60 then nano + 1000000000 else nano)
        ofSeconds? local'.toSeconds local'.nano) := by
  have hrange : date.month < 100 ∧ date.day < 100 := by
    have hmonth := Date.daysInMonth_le date.year date.month
    simp only [Date.isValid, Bool.and_eq_true, decide_eq_true_eq] at hdate
    omega
  have hmark : ∀ (c : Char) (s : List Char), isBlank c = false → readMark c (c :: s) = some s := by
    intro c s hc
    unfold readMark
    rw [trimLeft_of_head hc]
    simp
  have hdash : ∀ s, readMark '-' ('-' :: s) = some s := fun s => hmark _ s rfl
  have hcolon : ∀ s, readMark ':' (':' :: s) = some s := fun s => hmark _ s rfl
  simp only [List.append_assoc, List.cons_append]
  unfold read
  refine (bind_of_eq_some (readYear_writeYear _ _)).trans ?_
  refine (bind_of_eq_some (hdash _)).trans ?_
  refine (bind_of_eq_some (readPart_twoDigits hrange.1 _)).trans ?_
  refine (bind_of_eq_some (hdash _)).trans ?_
  refine (bind_of_eq_some (readPart_twoDigits hrange.2 _)).trans ?_
  refine (bind_of_eq_some rfl).trans ?_
  refine (bind_of_eq_some rfl).trans ?_
  refine (bind_of_eq_some (readPart_twoDigits (by omega) _)).trans ?_
  refine (bind_of_eq_some (hcolon _)).trans ?_
  refine (bind_of_eq_some (readPart_twoDigits (by omega) _)).trans ?_
  refine (bind_of_eq_some (hcolon _)).trans ?_
  refine (bind_of_eq_some (readPart_twoDigits (by omega) _)).trans ?_
  refine (bind_of_eq_some (readFraction_writeFraction hnano)).trans ?_
  -- the sign behind the fraction stands for the offset zero
  refine (bind_of_eq_some (show readOffset ['Z'] = some (0, []) from rfl)).trans ?_
  refine (bind_of_eq_some rfl).trans ?_
  refine (bind_of_eq_some (if_pos htime)).trans ?_
  refine (bind_of_eq_some (if_pos (by decide))).trans ?_
  refine (bind_of_eq_some (if_pos hdate)).trans ?_
  simp only [Int.sub_zero]

theorem ofParts?_eq (t : Instant) : ofParts? t.day t.second t.nano = some t :=
  dif_pos ⟨t.firstDay_le, t.le_lastDay, t.second_lt, t.nano_lt⟩

theorem ofSeconds?_toSeconds (t : Instant) : ofSeconds? t.toSeconds t.nano = some t := by
  have hsecond := t.second_lt
  have hday : t.toSeconds / 86400 = t.day := by unfold toSeconds; omega
  have hrest : (t.toSeconds % 86400).toNat = t.second := by unfold toSeconds; omega
  rw [ofSeconds?, hday, hrest, ofParts?_eq]

/-- An instant is read back from its text, unless it is inside a leap second that does not end a
minute. -/
theorem read?_text {t : Instant} (h : t.nano < 1000000000 ∨ t.second % 60 = 59) :
    read? t.text = some t := by
  have hvalid := Date.isValid_ofDays t.day
  have hsecond := t.second_lt
  have hnano := t.nano_lt
  -- what is read is the date of the day, and a time that comes to the second of the day
  have hread : ∀ second nano, second ≤ 60 → nano < 1000000000 →
      t.second / 3600 * 3600 + t.second / 60 % 60 * 60 + min second 59 = t.second →
      (if second = 60 then nano + 1000000000 else nano) = t.nano →
      read (writeYear (Date.ofDays t.day).year ++ '-' :: twoDigits (Date.ofDays t.day).month ++
        '-' :: twoDigits (Date.ofDays t.day).day ++ 'T' :: twoDigits (t.second / 3600) ++
        ':' :: twoDigits (t.second / 60 % 60) ++ ':' :: twoDigits second ++
        writeFraction nano ++ ['Z']) = some t := by
    intro second nano hsixty hfraction htime hwhole
    rw [read_parts hvalid ⟨by omega, by omega, hsixty⟩ hfraction, htime, hwhole,
      Date.toDays_ofDays, ofParts?_eq]
    exact t.ofSeconds?_toSeconds
  rw [read?, text, String.toList_ofList]
  unfold write
  by_cases hleap : 1000000000 ≤ t.nano
  · simp only [hleap, if_true]
    have hlast : t.second % 60 + 1 = 60 := by omega
    exact hread _ _ (by omega) (by omega) (by omega) (by rw [if_pos hlast]; omega)
  · simp only [hleap, if_false]
    exact hread _ _ (by omega) (by omega) (by omega) (by rw [if_neg (by omega)])

/-- An instant is read back from its text. -/
def Legible (t : Instant) : Prop := read? t.text = some t

/-- A leap second that does not end a minute is written as the second behind it. -/
theorem legible_iff {t : Instant} : t.Legible ↔ t.nano < 1000000000 ∨ t.second % 60 = 59 := by
  refine ⟨fun h => ?_, read?_text⟩
  refine Decidable.byContradiction fun hodd => ?_
  have hsecond := t.second_lt
  have hnano := t.nano_lt
  -- the leap second is written like the first moment of the second after it
  let u : Instant := ⟨t.day, t.second + 1, t.nano - 1000000000, t.firstDay_le, t.le_lastDay,
    by omega, by omega⟩
  have htext : u.text = t.text := by
    have hhour : (t.second + 1) / 3600 = t.second / 3600 := by omega
    have hminute : (t.second + 1) / 60 % 60 = t.second / 60 % 60 := by omega
    have hlast : (t.second + 1) % 60 + 0 = t.second % 60 + 1 := by omega
    have hleap : 1000000000 ≤ t.nano := by omega
    have hplain : ¬1000000000 ≤ t.nano - 1000000000 := by omega
    simp only [u, text, write, hhour, hminute, hleap, hplain, if_true, if_false, hlast]
  have hread : read? u.text = some u := read?_text (.inl (show t.nano - 1000000000 < _ by omega))
  rw [htext, show read? t.text = some t from h] at hread
  have hsame : t.second = t.second + 1 := congrArg Instant.second (Option.some.inj hread)
  omega

end Instant

end WalletTasks
