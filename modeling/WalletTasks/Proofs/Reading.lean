import WalletTasks.Json.Source

/-!
# Reading what was written

The compact text of a value is read back as the value: a reader meets no flaw in it, and leaves what
stands behind it. A number is read as it was written if it has at most 64 bits; a longer one would
be read as a fraction.

* `readString_writeString`, `readNumber_digits`: strings and numbers are read to their ends.
* `Json.Fits`: all numbers of a value have at most 64 bits.
* `Source.read_write`: the text of a value is read as its tree.
-/

namespace WalletTasks.Json

/-! ## Strings -/

/-- Four hexadecimal digits are read back. -/
theorem readHex4_writeHex {n : Nat} (h : n < 16 ^ 4) (r : List Char) :
    readHex4 (Text.writeHex 4 n ++ r) = .ok (n, r) := by
  have hread := Text.readHex_writeHex h
  have hlength := Text.length_writeHex 4 n
  match hd : Text.writeHex 4 n, hlength with
  | [a, b, c, d], _ =>
    rw [hd] at hread
    simp only [List.cons_append, List.nil_append, readHex4, hread]

/-- A character is read from what stands for it in a string. -/
theorem readPiece_escape (c : Char) (r : List Char) :
    readPiece (escape c ++ r) = .ok (.char c, r) := by
  unfold escape
  split
  · next h => subst h; rfl
  split
  · next h => subst h; rfl
  split
  · next h => subst h; rfl
  split
  · next h => subst h; rfl
  split
  · next h => subst h; rfl
  split
  · next h => subst h; rfl
  split
  · next h => subst h; rfl
  split
  -- a control character is written with its number
  · next h =>
    have hread := readHex4_writeHex (n := c.toNat) (by omega) r
    have hhigh : ¬(0xD800 ≤ c.toNat ∧ c.toNat ≤ 0xDBFF) := by omega
    have hlow : ¬(0xDC00 ≤ c.toNat ∧ c.toNat ≤ 0xDFFF) := by omega
    simp only [List.cons_append, readPiece, hread, if_neg hhigh, if_neg hlow, Char.ofNat_toNat]
  · next hquote hslash _ _ _ _ _ hcontrol =>
    simp only [List.cons_append, List.nil_append]
    unfold readPiece
    split <;> simp_all

theorem length_escape_pos (c : Char) : 0 < (escape c).length := by
  unfold escape
  repeat' split
  all_goals simp

/-- The characters of a string are read back up to the closing mark. -/
theorem readChars_escape (s : List Char) {fuel : Nat} (h : s.length < fuel) (acc r : List Char) :
    readChars fuel (s.flatMap escape ++ '"' :: r) acc true =
      (.text (String.ofList (acc.reverse ++ s)), .ok r) := by
  induction s generalizing fuel acc with
  | nil =>
    obtain ⟨fuel, rfl⟩ := Nat.exists_eq_succ_of_ne_zero (Nat.ne_zero_of_lt h)
    simp [readChars, readPiece]
  | cons c s ih =>
    obtain ⟨fuel, rfl⟩ := Nat.exists_eq_succ_of_ne_zero (Nat.ne_zero_of_lt h)
    have hs : s.length < fuel := by simpa using h
    simp only [List.flatMap_cons, List.append_assoc, readChars, readPiece_escape, ih hs,
      List.reverse_cons, List.singleton_append]

theorem length_le_flatMap_escape (s : List Char) : s.length ≤ (s.flatMap escape).length := by
  induction s with
  | nil => exact Nat.le_refl _
  | cons c s ih =>
    have := length_escape_pos c
    simp only [List.length_cons, List.flatMap_cons, List.length_append]
    omega

/-- A string is read up to its closing quote. -/
theorem readString_writeString (s : String) (r : List Char) :
    readString (s.toList.flatMap escape ++ '"' :: r) = (.text s, .ok r) := by
  have hlength := length_le_flatMap_escape s.toList
  have hfuel : s.toList.length < (s.toList.flatMap escape ++ '"' :: r).length + 1 := by
    simp only [List.length_append]
    omega
  rw [readString, readChars_escape _ hfuel]
  simp

/-! ## Numbers -/

/-- What may stand behind a number: nothing that the number could go on with. -/
def Stops (r : List Char) : Prop :=
  ∀ c ∈ r.head?, Text.isDigit c = false ∧ c ≠ '.' ∧ c ≠ 'e' ∧ c ≠ 'E'

variable {r : List Char}

theorem readTail_of_stops (h : Stops r) (negative : Bool) (n : Nat) (e : Int) :
    readTail negative n e r = (wholeSource negative n e, .ok r) := by
  cases r with
  | nil => rfl
  | cons c r =>
    obtain ⟨-, hpoint, hsmall, hcapital⟩ := h c rfl
    unfold readTail
    split <;> simp_all

theorem takeWhile_digits (h : Stops r) (n : Nat) :
    (Text.digits n ++ r).takeWhile Text.isDigit = Text.digits n := by
  rw [List.takeWhile_append_of_pos (Text.isDigit_of_mem_digits n)]
  cases r with
  | nil => simp
  | cons c r => simp [(h c rfl).1]

/-- Digits are taken as long as the number fits into 64 bits. -/
theorem takeWhole_eq (s : List Char) :
    ∀ n, s.foldl (fun n c => n * 10 + Text.digitValue c) n < 2 ^ 64 →
      takeWhole n 0 s = (s.foldl (fun n c => n * 10 + Text.digitValue c) n, 0) := by
  induction s with
  | nil => exact fun n _ => rfl
  | cons c s ih =>
    intro n h
    have hfits : n * 10 + Text.digitValue c < 2 ^ 64 :=
      Nat.lt_of_le_of_lt (Text.le_foldl_digits s _) h
    simp only [takeWhole, List.foldl_cons, hfits, and_self, if_true]
    exact ih _ h

/-- A number of at most 64 bits is read to its end. -/
theorem readNumber_digits (h : Stops r) {n : Nat} (hn : n < 2 ^ 64) (negative : Bool) :
    readNumber negative (Text.digits n ++ r) = (wholeSource negative n 0, .ok r) := by
  -- a leading zero stands alone
  by_cases hzero : n = 0
  · subst hzero
    have hdigits : Text.digits 0 = ['0'] := by rw [Text.digits]; rfl
    rw [hdigits]
    cases r with
    | nil => rfl
    | cons c r =>
      have hdigit : Text.isDigit c = false := (h c rfl).1
      simp only [List.cons_append, List.nil_append, readNumber, hdigit, Bool.false_eq_true,
        if_false]
      exact readTail_of_stops h negative 0 0
  · have hhead := Text.head?_digits (Nat.pos_of_ne_zero hzero)
    have hne := Text.digits_ne_nil n
    have hwhole : takeWhole 0 0 (Text.digits n) = (n, 0) := by
      have hvalue := Text.ofDigits_digits n
      unfold Text.ofDigits at hvalue
      rw [takeWhole_eq _ _ (by rw [hvalue]; exact hn), hvalue]
    have htake := takeWhile_digits h n
    have hdrop : (Text.digits n ++ r).drop (Text.digits n).length = r := List.drop_left
    have hempty : (Text.digits n).isEmpty = false := by simpa using hne
    unfold readNumber
    split
    · next c s heq =>
      cases hd : Text.digits n with
      | nil => exact absurd hd hne
      | cons d ds => simp_all
    · next heq =>
      cases hd : Text.digits n with
      | nil => exact absurd hd hne
      | cons d ds => simp_all
    · simp only [htake, hempty, Bool.false_eq_true, if_false, hwhole, hdrop]
      exact readTail_of_stops h negative n 0

/-! ## Values -/

mutual

/-- All numbers of a value have at most 64 bits. -/
def Fits : Json → Prop
  | number n => -2 ^ 63 ≤ n ∧ n < 2 ^ 64
  | array items => FitsItems items
  | object fields => FitsFields fields
  | null | bool _ | string _ => True

def FitsItems : List Json → Prop
  | [] => True
  | j :: js => Fits j ∧ FitsItems js

def FitsFields : List (String × Json) → Prop
  | [] => True
  | (_, j) :: fs => Fits j ∧ FitsFields fs

end

/-- The text of a number starts with its sign or with a digit. -/
theorem writeInt_eq_cons (n : Int) :
    ∃ c s, writeInt n = c :: s ∧ (c = '-' ∨ Text.isDigit c = true) := by
  unfold writeInt
  split
  · exact ⟨_, _, rfl, .inl rfl⟩
  · cases hd : Text.digits n.natAbs with
    | nil => exact absurd hd (Text.digits_ne_nil _)
    | cons c s =>
      exact ⟨c, s, rfl, .inr (Text.isDigit_of_mem_digits n.natAbs c (by simp [hd]))⟩

theorem isGap_of_isDigit {c : Char} (h : Text.isDigit c = true) : isGap c = false := by
  unfold isGap
  simp only [Bool.or_eq_false_iff, beq_eq_false_iff_ne]
  refine ⟨⟨⟨?_, ?_⟩, ?_⟩, ?_⟩ <;> rintro rfl <;> cases h

/-- No value starts with a blank or with the end of an array. -/
theorem write_eq_cons (j : Json) : ∃ c s, j.write = c :: s ∧ isGap c = false ∧ c ≠ ']' := by
  cases j with
  | number n =>
    obtain ⟨c, s, heq, rfl | hdigit⟩ := writeInt_eq_cons n
    · exact ⟨_, s, by rw [write, heq], rfl, by decide⟩
    · refine ⟨c, s, by rw [write, heq], isGap_of_isDigit hdigit, ?_⟩
      rintro rfl
      cases hdigit
  | bool b => cases b <;> exact ⟨_, _, by rw [write], rfl, by decide⟩
  | _ => exact ⟨_, _, by rw [write] <;> rfl, rfl, by decide⟩

theorem length_write_pos (j : Json) : 0 < j.write.length := by
  obtain ⟨c, s, heq, -⟩ := j.write_eq_cons
  simp [heq]

theorem skipGap_cons {c : Char} (h : isGap c = false) (s : List Char) :
    skipGap (c :: s) = c :: s := by
  simp [skipGap, h]

/-- A digit starts a number. -/
theorem readValue_of_isDigit {c : Char} (h : Text.isDigit c = true) (fuel : Nat) (s : List Char) :
    readValue (fuel + 1) (c :: s) = readNumber false (c :: s) := by
  rw [readValue, skipGap_cons (isGap_of_isDigit h)]
  split
  · next heq => cases heq
  · next heq => cases heq; cases h
  · next heq => cases heq; cases h
  · next heq => cases heq; cases h
  · next heq => cases heq; cases h
  · next heq => cases heq; cases h
  · next heq => cases heq; cases h
  · next heq => cases heq; cases h
  · next heq => cases heq; rw [if_pos h]

/-- A number is read back with its sign. -/
theorem readValue_writeInt {n : Int} (hn : -2 ^ 63 ≤ n ∧ n < 2 ^ 64) (h : Stops r) (fuel : Nat) :
    readValue (fuel + 1) (writeInt n ++ r) = (.whole n, .ok r) := by
  unfold writeInt
  split
  -- below zero the sign comes first, and there is one number more
  · next hneg =>
    have hsource : wholeSource true n.natAbs 0 = .whole n := by
      have hrange : 0 < n.natAbs ∧ n.natAbs ≤ 2 ^ 63 := by omega
      simp only [wholeSource, Bool.not_true, Bool.false_eq_true, and_false, if_false, hrange,
        and_self, if_true]
      congr 1
      omega
    show readNumber true (Text.digits n.natAbs ++ r) = _
    rw [readNumber_digits h (by omega), hsource]
  · next hnat =>
    have hsource : wholeSource false n.natAbs 0 = .whole n := by
      simp only [wholeSource, Bool.not_false, and_self, if_true]
      congr 1
      omega
    rw [← hsource, ← readNumber_digits h (by omega)]
    cases hd : Text.digits n.natAbs with
    | nil => exact absurd hd (Text.digits_ne_nil _)
    | cons c s =>
      exact readValue_of_isDigit (Text.isDigit_of_mem_digits n.natAbs c (by simp [hd])) fuel _

theorem stops_cons {c : Char} (s : List Char)
    (h : Text.isDigit c = false ∧ c ≠ '.' ∧ c ≠ 'e' ∧ c ≠ 'E') : Stops (c :: s) := by
  rintro _ ⟨⟩
  exact h

/-- The last item is followed by the end of the list. -/
theorem readItems_last {s rest r : List Char} {v : Source} {fuel : Nat} {comma : Bool}
    (hstart : ∃ c t, s = c :: t ∧ isGap c = false ∧ c ≠ ']')
    (hread : readValue fuel s = (v, .ok rest)) (hrest : skipGap rest = ']' :: r) :
    readItems (fuel + 1) s comma = ([v], none, .ok r) := by
  obtain ⟨c, t, rfl, hgap, hend⟩ := hstart
  rw [readItems, skipGap_cons hgap]
  split
  · next heq => cases heq
  · next heq => cases heq; exact absurd rfl hend
  · rw [hread]
    simp only [hrest]

/-- Any other item is followed by a comma and more items. -/
theorem readItems_more {s r : List Char} {v : Source} {vs : List Source} {fuel : Nat}
    {comma : Bool} {cut : Option Cut} {rest : Rest}
    (hstart : ∃ c t, s = c :: t ∧ isGap c = false ∧ c ≠ ']')
    (hread : readValue fuel s = (v, .ok (',' :: r)))
    (hmore : readItems fuel r true = (vs, cut, rest)) :
    readItems (fuel + 1) s comma = (v :: vs, cut, rest) := by
  obtain ⟨c, t, rfl, hgap, hend⟩ := hstart
  rw [readItems, skipGap_cons hgap]
  split
  · next heq => cases heq
  · next heq => cases heq; exact absurd rfl hend
  · rw [hread]
    show ((_, _, _) : List Source × Option Cut × Rest) = _
    rw [hmore]

theorem readFields_last {k : String} {s rest r : List Char} {v : Source} {fuel : Nat}
    {comma : Bool} (hread : readValue fuel s = (v, .ok rest)) (hrest : skipGap rest = '}' :: r) :
    readFields (fuel + 1) (writeString k ++ ':' :: s) comma = ([(some k, v)], none, .ok r) := by
  have hkey := readString_writeString k (':' :: s)
  have hgap : skipGap (writeString k ++ ':' :: s) =
      '"' :: (k.toList.flatMap escape ++ '"' :: ':' :: s) := by
    simp [writeString, skipGap, isGap]
  rw [readFields, hgap]
  simp only [hkey, skipGap_cons (show isGap ':' = false from rfl), hread, hrest, Literal.key?]

theorem readFields_more {k : String} {s r : List Char} {v : Source} {fuel : Nat} {comma : Bool}
    {vs : List (Option String × Source)} {cut : Option Cut} {rest : Rest}
    (hread : readValue fuel s = (v, .ok (',' :: r)))
    (hmore : readFields fuel r true = (vs, cut, rest)) :
    readFields (fuel + 1) (writeString k ++ ':' :: s) comma =
      ((some k, v) :: vs, cut, rest) := by
  have hkey := readString_writeString k (':' :: s)
  have hgap : skipGap (writeString k ++ ':' :: s) =
      '"' :: (k.toList.flatMap escape ++ '"' :: ':' :: s) := by
    simp [writeString, skipGap, isGap]
  rw [readFields, hgap]
  simp only [hkey, skipGap_cons (show isGap ':' = false from rfl), hread,
    skipGap_cons (show isGap ',' = false from rfl), Literal.key?, hmore]

theorem readValue_array {s : List Char} {vs : List Source} {fuel : Nat} {cut : Option Cut}
    {rest : Rest} (hstart : ∃ c t, s = c :: t ∧ isGap c = false ∧ c ≠ ']')
    (hitems : readItems fuel s false = (vs, cut, rest)) :
    readValue (fuel + 1) ('[' :: s) = (.array vs cut, rest) := by
  obtain ⟨c, t, rfl, hgap, hend⟩ := hstart
  simp only [readValue, skipGap_cons hgap, skipGap_cons (show isGap '[' = false from rfl)]
  split
  · next heq => cases heq; exact absurd rfl hend
  · rw [hitems]

theorem readValue_object {k : String} {s : List Char} {vs : List (Option String × Source)}
    {fuel : Nat} {cut : Option Cut} {rest : Rest}
    (hfields : readFields fuel (writeString k ++ s) false = (vs, cut, rest)) :
    readValue (fuel + 1) ('{' :: (writeString k ++ s)) = (.object vs cut, rest) := by
  have hgap : skipGap (writeString k ++ s) = writeString k ++ s :=
    skipGap_cons (show isGap '"' = false from rfl) _
  simp only [readValue, hgap, skipGap_cons (show isGap '{' = false from rfl)]
  split
  · next heq => cases heq
  · rw [hfields]

theorem stops_comma (r : List Char) : Stops (',' :: r) := stops_cons r (by decide)

theorem stops_bracket (r : List Char) : Stops (']' :: r) := stops_cons r (by decide)

theorem stops_brace (r : List Char) : Stops ('}' :: r) := stops_cons r (by decide)

mutual

/-- A value is read from its text, and what stands behind it is left. Every step into the value
takes a character. -/
theorem readValue_write (j : Json) (hj : j.Fits) {r : List Char} (hr : Stops r) (fuel : Nat)
    (hfuel : 2 * j.write.length ≤ fuel) : readValue fuel (j.write ++ r) = (j.source, .ok r) := by
  obtain ⟨fuel, rfl⟩ : ∃ f, fuel = f + 1 :=
    ⟨fuel - 1, by have := j.length_write_pos; omega⟩
  -- by the grammar; the first character says which of the values it is
  match j with
  | .null => rfl
  | .bool true => rfl
  | .bool false => rfl
  | .number n =>
    rw [write, source]
    exact readValue_writeInt hj hr fuel
  | .string s =>
    show ((readString (s.toList.flatMap escape ++ ['"'] ++ r)).1.source,
      (readString (s.toList.flatMap escape ++ ['"'] ++ r)).2) = _
    rw [List.append_assoc, List.singleton_append, readString_writeString]
    rfl
  | .array [] => rfl
  | .array (j :: js) =>
    rw [write, List.length_append, List.length_cons, List.length_singleton] at hfuel
    have hitems := readItems_write (j :: js) (by simp) hj r fuel (by omega) false
    rw [write, List.cons_append, List.cons_append, List.append_assoc, List.singleton_append]
    refine readValue_array ?_ hitems
    obtain ⟨c, t, heq, hstart⟩ := j.write_eq_cons
    cases js with
    | nil => exact ⟨c, _, by rw [writeItems, heq]; rfl, hstart⟩
    | cons j' js => exact ⟨c, _, by rw [writeItems, heq] <;> first | rfl | simp, hstart⟩
  | .object [] => rfl
  | .object ((k, j) :: fs) =>
    rw [write, List.length_append, List.length_cons, List.length_singleton] at hfuel
    have hfields := readFields_write ((k, j) :: fs) (by simp) hj r fuel (by omega) false
    rw [write, List.cons_append, List.cons_append, List.append_assoc, List.singleton_append]
    cases fs with
    | nil =>
      rw [writeFields, List.append_assoc] at hfields ⊢
      exact readValue_object hfields
    | cons f fs =>
      rw [writeFields, List.append_assoc, List.append_assoc] at hfields ⊢ <;> try simp
      exact readValue_object hfields

/-- The items of a list are read back. -/
theorem readItems_write (js : List Json) (hne : js ≠ []) (hj : FitsItems js) (r : List Char)
    (fuel : Nat) (hfuel : 2 * (writeItems js).length < fuel) (comma : Bool) :
    readItems fuel (writeItems js ++ ']' :: r) comma = (sourceItems js, none, .ok r) := by
  obtain ⟨fuel, rfl⟩ := Nat.exists_eq_succ_of_ne_zero (Nat.ne_zero_of_lt hfuel)
  -- the last item, or one that is followed by another
  match js with
  | [] => exact absurd rfl hne
  | [j] =>
    rw [writeItems] at hfuel ⊢
    have hread := readValue_write j hj.1 (stops_bracket r) fuel (by omega)
    obtain ⟨c, t, heq, hstart⟩ := j.write_eq_cons
    exact readItems_last ⟨c, t ++ ']' :: r, by rw [heq]; rfl, hstart⟩ hread (skipGap_cons rfl r)
  | j :: j' :: js =>
    have htext : writeItems (j :: j' :: js) = j.write ++ ',' :: writeItems (j' :: js) := by
      rw [writeItems]
      simp
    rw [htext, List.length_append, List.length_cons] at hfuel
    rw [htext, List.append_assoc, List.cons_append]
    have hread := readValue_write j hj.1 (stops_comma (writeItems (j' :: js) ++ ']' :: r)) fuel
      (by omega)
    have hmore := readItems_write (j' :: js) (by simp) hj.2 r fuel (by omega) true
    obtain ⟨c, t, heq, hstart⟩ := j.write_eq_cons
    exact readItems_more ⟨c, _, by rw [heq]; rfl, hstart⟩ hread hmore

/-- The fields of an object are read back. -/
theorem readFields_write (fs : List (String × Json)) (hne : fs ≠ []) (hj : FitsFields fs)
    (r : List Char) (fuel : Nat) (hfuel : 2 * (writeFields fs).length < fuel) (comma : Bool) :
    readFields fuel (writeFields fs ++ '}' :: r) comma = (sourceFields fs, none, .ok r) := by
  obtain ⟨fuel, rfl⟩ := Nat.exists_eq_succ_of_ne_zero (Nat.ne_zero_of_lt hfuel)
  match fs with
  | [] => exact absurd rfl hne
  | [(k, j)] =>
    rw [writeFields, List.length_append, List.length_cons] at hfuel
    rw [writeFields, List.append_assoc, List.cons_append]
    exact readFields_last (readValue_write j hj.1 (stops_brace r) fuel (by omega))
      (skipGap_cons rfl r)
  | (k, j) :: f :: fs =>
    have htext : writeFields ((k, j) :: f :: fs) =
        writeString k ++ ':' :: (j.write ++ ',' :: writeFields (f :: fs)) := by
      rw [writeFields] <;> simp
    rw [htext] at hfuel ⊢
    simp only [List.length_append, List.length_cons] at hfuel
    rw [List.append_assoc, List.cons_append, List.append_assoc, List.cons_append]
    have hread := readValue_write j hj.1 (stops_comma (writeFields (f :: fs) ++ '}' :: r)) fuel
      (by omega)
    exact readFields_more hread (readFields_write (f :: fs) (by simp) hj.2 r fuel (by omega) true)

end

/-- **The compact text of a value is read as its tree**, without a flaw. -/
theorem Source.read_write {j : Json} (hj : j.Fits) : Source.read j.write = ⟨j.source, none⟩ := by
  have hstops : Stops [] := by rintro _ ⟨⟩
  have hread := readValue_write j hj hstops (2 * j.write.length + 2) (by omega)
  rw [List.append_nil] at hread
  unfold Source.read
  rw [hread]
  rfl

end WalletTasks.Json
