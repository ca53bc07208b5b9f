import WalletTasks.Proofs.Roundtrip

/-!
# Which strings denote amounts

Amounts in wei are read from strings, where they have to be there and where they may be null. Blanks
around an amount do not count; what stands between them is a numeral below 2^128: an optional plus
sign, and then digits only, of which any number may be leading zeros. An amount is written as its
digits alone.

* `Wire.readWei_eq_ok_iff`: which strings are read, and as which amounts.
* `Wire.text_plain`: how an amount is written.
* `Wire.weiDecoders_agree`: both decoders, on every string and behind the writer.
-/

namespace WalletTasks.Wire

open Json

/-- A string is a numeral of an amount between blanks. -/
def Denotes (raw : String) (n : Nat) : Prop :=
  ∃ numeral, Text.Pads numeral raw.toList ∧ Text.IsNumeral numeral n

/-- Neither a sign nor a digit is blank. -/
theorem isBlank_eq_false_of_mem {numeral : List Char} {n : Nat} (h : Text.IsNumeral numeral n) :
    ∀ c ∈ numeral, Text.isBlank c = false := by
  obtain ⟨ds, hsign, -, hdigits, -⟩ := h
  have hds : ∀ c ∈ ds, Text.isBlank c = false := fun c hc => Text.isBlank_of_isDigit (hdigits c hc)
  rcases hsign with rfl | rfl
  · exact hds
  · rintro c (_ | ⟨_, hc⟩)
    · rfl
    · exact hds c hc

theorem denotes_iff {raw : String} {n : Nat} :
    Denotes raw n ↔ Text.IsNumeral (Text.trim raw.toList) n := by
  refine ⟨?_, fun h => ⟨_, Text.pads_trim _, h⟩⟩
  rintro ⟨numeral, hpads, h⟩
  rwa [Text.trim_eq_of_pads hpads (isBlank_eq_false_of_mem h)]

/-- **Which strings are read as an amount.** -/
theorem readWei_eq_ok_iff {raw : String} {w : Wei} :
    readWei raw = .ok w ↔ Denotes raw w.toNat := by
  rw [denotes_iff]
  constructor
  · intro h
    unfold readWei at h
    split at h
    · cases h
    · rename_i n hn
      split at h
      · cases h
        exact (Text.readNumeral_eq_ok_iff.1 hn).1
      · cases h
  · intro h
    simp [readWei, Text.readNumeral_eq_ok_iff.2 ⟨h, w.isLt⟩, w.isLt]

/-- A numeral that does not fit into 128 bits is reported as too large. -/
theorem readWei_eq_tooLarge {raw : String} {n : Nat} (h : Denotes raw n) (hn : 2 ^ 128 ≤ n) :
    readWei raw = .error .tooLarge := by
  rw [readWei, Text.readNumeral_eq_tooLarge (by decide) (denotes_iff.1 h) hn]

/-- An amount is written as its digits, of which the first is no zero unless it is the only one. -/
theorem text_plain (w : Wei) :
    (∀ c ∈ w.text.toList, Text.isDigit c = true) ∧ Text.ofDigits w.text.toList = w.toNat ∧
      (w.text.toList.head? = some '0' → w.text.toList = ['0']) := by
  rw [Wei.text, Text.decimal, String.toList_ofList]
  refine ⟨Text.isDigit_of_mem_digits _, Text.ofDigits_digits _, fun hzero => ?_⟩
  have hw : w.toNat = 0 := Nat.eq_zero_of_not_pos fun hpos => Text.head?_digits hpos hzero
  rw [hw, Text.digits]
  rfl

theorem weiDecoder_string (o : Origin) (raw : String) :
    weiDecoder o (.string raw) = (readWei raw).mapError (weiFault raw) := rfl

/-- A string where an amount may be null is decoded as one where it may not. -/
theorem optionalWeiDecoder_string (o : Origin) (raw : String) :
    optionalWeiDecoder o (.string raw) = (weiDecoder o (.string raw)).map some := rfl

/-- **Both decoders read the same strings as the same amounts.** A string is accepted exactly if it
is the numeral of a number below 2^128 between blanks, and is then that number. Any other string is
refused with the string as it was found and the cause, which for a numeral is that it is too large.
Where an amount may be null, a string is read in the same way and refused for the same cause. An
amount is written as its digits, without sign or leading zeros, and both decoders read it back. -/
theorem weiDecoders_agree (o : Origin) :
    (∀ raw n, (∃ w : Wei, w.toNat = n ∧ weiDecoder o (.string raw) = .ok w) ↔
        Denotes raw n ∧ n < 2 ^ 128) ∧
      (∀ raw, (∀ n, Denotes raw n → 2 ^ 128 ≤ n) → ∃ cause : Text.NumeralError,
        weiDecoder o (.string raw) =
          .error (.rejected ("invalid wei amount '" ++ raw ++ "': " ++ cause.message))) ∧
      (∀ raw n, Denotes raw n → 2 ^ 128 ≤ n →
        weiDecoder o (.string raw) = .error (weiFault raw .tooLarge)) ∧
      (∀ raw, optionalWeiDecoder o (.string raw) = (weiDecoder o (.string raw)).map some) ∧
      ∀ w, weiDecoder o (wei w).source = .ok w ∧
        optionalWeiDecoder o (Json.option wei (some w)).source = .ok (some w) ∧
        ∃ text : String, wei w = .string text ∧ (∀ c ∈ text.toList, Text.isDigit c = true) ∧
          Text.ofDigits text.toList = w.toNat ∧
          (text.toList.head? = some '0' → text.toList = ['0']) := by
  have hok (raw : String) (w : Wei) :
      weiDecoder o (.string raw) = .ok w ↔ Denotes raw w.toNat := by
    rw [weiDecoder_string, ← readWei_eq_ok_iff]
    cases readWei raw <;> simp [Except.mapError]
  -- accepted, not a numeral, too large, optional, and read back
  refine ⟨fun raw n => ?_, fun raw hnone => ?_, fun raw n h hn => ?_,
    optionalWeiDecoder_string o, fun w => ?_⟩
  · constructor
    · rintro ⟨w, rfl, hw⟩
      exact ⟨(hok raw w).1 hw, w.isLt⟩
    · rintro ⟨h, hn⟩
      exact ⟨⟨n, hn⟩, rfl, (hok raw ⟨n, hn⟩).2 h⟩
  · cases hread : readWei raw with
    | ok w => exact absurd (hnone _ (readWei_eq_ok_iff.1 hread)) (Nat.not_le.2 w.isLt)
    | error cause => exact ⟨cause, by rw [weiDecoder_string, hread]; rfl⟩
  · rw [weiDecoder_string, readWei_eq_tooLarge h hn]
    rfl
  · have hread : weiDecoder o (.string w.text) = .ok w := by
      rw [weiDecoder_string, readWei_text]
      rfl
    exact ⟨hread, (optionalWeiDecoder_string o w.text).trans (by rw [hread]; rfl), w.text, rfl,
      text_plain w⟩

/-- Seven between blanks, with a sign and leading zeros; the first number that is no amount; and a
sign that no amount has. -/
theorem sample_weiDecoders_agree :
    (∃ w : Wei, w.toNat = 7 ∧ weiDecoder .value (.string "\u2003+007\n") = .ok w) ∧
      weiDecoder .value (.string "340282366920938463463374607431768211456") =
        .error (weiFault "340282366920938463463374607431768211456" .tooLarge) ∧
      ∃ cause : Text.NumeralError, weiDecoder .value (.string "-7") =
        .error (.rejected ("invalid wei amount '" ++ "-7" ++ "': " ++ cause.message)) := by
  obtain ⟨haccepted, hrefused, hlarge, -⟩ := weiDecoders_agree .value
  have hseven : Denotes "\u2003+007\n" 7 :=
    denotes_iff.2 ⟨['0', '0', '7'], .inr (by decide +kernel), by decide,
      List.all_eq_true.1 (by decide), by decide⟩
  have hbound : Denotes "340282366920938463463374607431768211456" (2 ^ 128) :=
    denotes_iff.2 ⟨_, .inl rfl, by decide +kernel, List.all_eq_true.1 (by decide +kernel),
      by decide +kernel⟩
  refine ⟨(haccepted _ 7).2 ⟨hseven, by decide⟩, hlarge _ _ hbound (Nat.le_refl _),
    hrefused _ fun n hn => ?_⟩
  obtain ⟨ds, hsign, -, hdigits, -⟩ := denotes_iff.1 hn
  have htrim : Text.trim "-7".toList = ['-', '7'] := by decide +kernel
  rw [htrim] at hsign
  rcases hsign with rfl | hsign
  · exact absurd (hdigits '-' (by simp)) (by decide)
  · cases hsign

end WalletTasks.Wire
