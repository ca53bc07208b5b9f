import WalletTasks.Gas
import WalletTasks.Proofs.Fractions
import Mathlib.Tactic.NormNum

/-!
# What a gas plan provides for

The limit of a plan is that of the estimate times a multiplier of at least one, rounded up. The
product is kept in a decimal, so it is rounded before it is rounded up where it takes more than 96
bits; that passes no whole number, so the limit never falls below the estimate. The worst-case fee
is cut off at the largest amount, which hides nothing below a cap that is less than it.

* `scaled?_eq_some`: the limit lies between the floor and the ceiling of the exact product.
* `plan_provides`: what a plan provides for, and when the cap refuses it.
* `plan_overflow_iff`: when the limit is refused as too great, and when the product crashes instead.
-/

namespace WalletTasks

/-- The settings without a cap on the fee. -/
def NetworkSettings.uncapped (settings : NetworkSettings) : NetworkSettings :=
  { settings with maxFee := none }

/-- The worst-case fee of a plan, not cut off. -/
def GasPlan.exactFee (p : GasPlan) : ℕ := p.gasLimit.toNat * p.gasPrice.toNat

theorem GasPlan.toNat_maxFee (p : GasPlan) : p.maxFee.toNat = min p.exactFee (2 ^ 128 - 1) :=
  Wei.toNat_saturate _

namespace Gas

variable {e : Estimate} {cost : Cost} {settings : NetworkSettings} {destination : Network}
  {p : GasPlan} {m : Decimal} {g limit : UInt64}

/-! ## The limit -/

/-- The gas limit times the multiplier, rounded up, if there is such a product. -/
def scaled? (g : UInt64) (m : Decimal) : Option ℤ := (Decimal.scaledBy? g.toNat m).map Decimal.ceil

/-- The scaled limit lies between the floor and the ceiling of the exact product, and is the
ceiling if the product takes at most 96 bits. -/
theorem scaled?_eq_some {z : ℤ} (hm : 0 ≤ m.value) (h : scaled? g m = some z) :
    (⌊g.toNat * m.value⌋₊ : ℤ) ≤ z ∧ z ≤ ⌈g.toNat * m.value⌉₊ ∧
      (g.toNat * m.mantissa.toNat < 2 ^ 96 → z = ⌈g.toNat * m.value⌉₊) := by
  obtain ⟨product, hproduct, rfl⟩ := Option.map_eq_some_iff.1 h
  have hmantissa := Decimal.value_nonneg_iff.1 hm
  have hnonneg : 0 ≤ g.toNat * m.value := by positivity
  have hfloor := Decimal.natCast_le_value_of_scaledBy? hmantissa hproduct (Nat.floor_le hnonneg)
  have hceil := Decimal.value_le_natCast_of_scaledBy? hmantissa hproduct (Nat.le_ceil _)
  rw [Decimal.ceil_eq_ceil_value]
  refine ⟨?_, Int.ceil_le.2 (by exact_mod_cast hceil), fun hfits => ?_⟩
  · have hle := hfloor.trans (Int.le_ceil product.value)
    exact_mod_cast hle
  · rw [Decimal.value_of_scaledBy? hmantissa hfits hproduct, Int.natCast_ceil_eq_ceil hnonneg]

/-- There is a product up to half below 2^96. -/
theorem scaled?_eq_none_iff (hm : 0 ≤ m.value) :
    scaled? g m = none ↔ 2 ^ 96 - 1 / 2 ≤ g.toNat * m.value := by
  rw [scaled?, Option.map_eq_none_iff,
    Decimal.scaledBy?_eq_none_iff (Decimal.value_nonneg_iff.1 hm)]

/-- How a limit is scaled: it crashes without a product, and is refused from 2^64 on. -/
theorem scaledLimit_cases (hm : 0 ≤ m.value) (g : UInt64) :
    (scaled? g m = none ∧ scaledLimit g m = .error (.crash overflowText)) ∨
      (∃ z, scaled? g m = some z ∧ 2 ^ 64 ≤ z ∧ scaledLimit g m =
        .error (.error (.invalidAmount (.gasLimitOverflow g.toNat (toString m))))) ∨
      ∃ limit : UInt64, scaled? g m = some (limit.toNat : ℤ) ∧ scaledLimit g m = .ok limit := by
  cases hproduct : Decimal.scaledBy? g.toNat m with
  | none =>
    refine .inl ⟨by rw [scaled?, hproduct]; rfl, ?_⟩
    rw [scaledLimit, hproduct]
  | some product =>
    have hscaled : scaled? g m = some product.ceil := by
      rw [scaled?, hproduct]
      rfl
    have hnonneg : 0 ≤ product.ceil :=
      (Int.natCast_nonneg _).trans (scaled?_eq_some hm hscaled).1
    have hsize : UInt64.size = 2 ^ 64 := rfl
    refine .inr ?_
    rw [hscaled, scaledLimit, hproduct]
    simp only
    -- the product is a decimal, but it may still be too large for a limit of gas
    by_cases hfits : 0 ≤ product.ceil ∧ product.ceil.toNat < UInt64.size
    · rw [dif_pos hfits]
      refine .inr ⟨_, ?_, rfl⟩
      rw [UInt64.toNat_ofNatLT, Int.toNat_of_nonneg hnonneg]
    · rw [dif_neg hfits]
      exact .inl ⟨_, rfl, by omega, rfl⟩

/-! ## Plans -/

/-- A multiplier below one is refused. -/
theorem lt_one_eq_false_iff : m.lt .one = false ↔ 1 ≤ m.value := by
  rw [← Bool.not_eq_true, Decimal.lt_iff_value, Decimal.value_one, not_lt]

/-- How a plan is made on a supported way with a multiplier of at least one. -/
theorem plan_cases (e : Estimate) (hlinked : isLinked settings.network destination = true)
    (hm : 1 ≤ (multiplier settings).value) :
    (scaled? e.gasLimit (multiplier settings) = none ∧
        plan e settings destination = .error (.crash overflowText)) ∨
      (∃ z, scaled? e.gasLimit (multiplier settings) = some z ∧ 2 ^ 64 ≤ z ∧
        plan e settings destination = .error (.error (.invalidAmount
          (.gasLimitOverflow e.gasLimit.toNat (toString (multiplier settings)))))) ∨
      ∃ limit : UInt64, scaled? e.gasLimit (multiplier settings) = some (limit.toNat : ℤ) ∧
        plan e settings destination =
          withinCap settings ⟨limit, price e.gasPrice settings.network destination⟩ := by
  have hplan : plan e settings destination =
      scaledLimit e.gasLimit (multiplier settings) >>= fun limit =>
        withinCap settings ⟨limit, price e.gasPrice settings.network destination⟩ := by
    rw [plan, hlinked]
    simp only [Bool.not_true, Bool.false_eq_true, if_false, lt_one_eq_false_iff.2 hm]
  rcases scaledLimit_cases (zero_le_one.trans hm) e.gasLimit with
    ⟨hscaled, hlimit⟩ | ⟨z, hscaled, hz, hlimit⟩ | ⟨limit, hscaled, hlimit⟩
  · exact .inl ⟨hscaled, by rw [hplan, hlimit]; rfl⟩
  · exact .inr (.inl ⟨z, hscaled, hz, by rw [hplan, hlimit]; rfl⟩)
  · exact .inr (.inr ⟨limit, hscaled, by rw [hplan, hlimit]; rfl⟩)

/-- Any other plan is refused, and not for its limit. -/
theorem plan_of_unsupported (e : Estimate)
    (h : ¬(isLinked settings.network destination = true ∧ 1 ≤ (multiplier settings).value)) :
    plan e settings destination =
        .error (.error (.unsupportedNetwork settings.network destination)) ∨
      plan e settings destination = .error (.error
        (.invalidAmount (.multiplierBelowOne (toString (multiplier settings))))) := by
  unfold plan
  cases hlinked : isLinked settings.network destination with
  | false => exact .inl rfl
  | true =>
    have hm : (multiplier settings).lt .one = true := by
      rw [← Bool.not_eq_false, lt_one_eq_false_iff]
      exact fun hone => h ⟨hlinked, hone⟩
    refine .inr ?_
    simp only [Bool.not_true, Bool.false_eq_true, if_false, hm, if_true]

/-- The cap is held against a plan that is made without one. -/
theorem plan_eq_bind_uncapped (e : Estimate) (settings : NetworkSettings) (destination : Network) :
    plan e settings destination = plan e settings.uncapped destination >>= withinCap settings := by
  have hnetwork : settings.uncapped.network = settings.network := rfl
  have hmultiplier : multiplier settings.uncapped = multiplier settings := rfl
  unfold plan
  rw [hnetwork, hmultiplier]
  split
  · rfl
  · simp only
    split
    · rfl
    · cases scaledLimit e.gasLimit (multiplier settings) <;> rfl

/-- What a plan that is within its cap holds. -/
structure Planned (e : Estimate) (settings : NetworkSettings) (destination : Network)
    (p : GasPlan) : Prop where
  linked : isLinked settings.network destination = true
  one_le : 1 ≤ (multiplier settings).value
  limit : scaled? e.gasLimit (multiplier settings) = some (p.gasLimit.toNat : ℤ)
  price_eq : p.gasPrice = price e.gasPrice settings.network destination
  within : withinCap settings p = .ok p

/-- The cap lets a plan pass as it is, or refuses it. -/
theorem withinCap_cases (settings : NetworkSettings) (p : GasPlan) :
    withinCap settings p = .ok p ∨
      ∃ cap, withinCap settings p = .error (.error (.gasLimitExceeded p.maxFee cap)) := by
  unfold withinCap
  split
  · exact .inl rfl
  · split
    · exact .inr ⟨_, rfl⟩
    · exact .inl rfl

/-- Comparing with the cap never crashes. -/
theorem withinCap_ne_crash (settings : NetworkSettings) (p : GasPlan) (text : String) :
    withinCap settings p ≠ .error (.crash text) := by
  rcases withinCap_cases settings p with h | ⟨cap, h⟩ <;> simp [h]

theorem withinCap_ne_invalidAmount (settings : NetworkSettings) (p : GasPlan)
    (fault : AmountFault) : withinCap settings p ≠ .error (.error (.invalidAmount fault)) := by
  rcases withinCap_cases settings p with h | ⟨cap, h⟩ <;> simp [h]

theorem eq_of_withinCap {q : GasPlan} (h : withinCap settings p = .ok q) : p = q := by
  rcases withinCap_cases settings p with hpass | ⟨cap, hrefused⟩
  · exact Except.ok.inj (hpass.symm.trans h)
  · rw [h] at hrefused
    cases hrefused

/-- A plan is made for networks that are linked, with a multiplier of one at least, and fits into
the cap. -/
theorem planned (h : plan e settings destination = .ok p) : Planned e settings destination p := by
  by_cases hsupported : isLinked settings.network destination = true ∧
    1 ≤ (multiplier settings).value
  · obtain ⟨hlinked, hm⟩ := hsupported
    rcases plan_cases e hlinked hm with ⟨-, hplan⟩ | ⟨z, -, -, hplan⟩ | ⟨limit, hscaled, hplan⟩
    · rw [h] at hplan
      cases hplan
    · rw [h] at hplan
      cases hplan
    · rw [h] at hplan
      obtain rfl := eq_of_withinCap hplan.symm
      exact ⟨hlinked, hm, hscaled, rfl, hplan.symm⟩
  · rcases plan_of_unsupported e hsupported with hplan | hplan
    · rw [h] at hplan
      cases hplan
    · rw [h] at hplan
      cases hplan

/-! ## Prices and caps -/

/-- A tenth more across networks, cut off at the largest amount. -/
theorem toNat_price (base : Wei) (source destination : Network) :
    (price base source destination).toNat =
      if source = destination then base.toNat else min (2 ^ 128 - 1) (11 * base.toNat / 10) := by
  unfold price
  split
  · rfl
  · have htenth : base.toNat + base.toNat / 10 = 11 * base.toNat / 10 := by omega
    rw [Wei.toNat_saturate, htenth, Nat.min_comm]

/-- Below the largest amount, cutting off hides no fee above the cap. -/
theorem lt_maxFee_iff {cap : Wei} (hcap : cap.toNat < 2 ^ 128 - 1) :
    cap.toNat < p.maxFee.toNat ↔ cap.toNat < p.exactFee := by
  rw [GasPlan.toNat_maxFee]
  omega

/-- What the cap makes of a plan. -/
theorem withinCap_eq {cap : Wei} (hsome : settings.maxFee = some cap)
    (hcap : cap.toNat < 2 ^ 128 - 1) (p : GasPlan) :
    withinCap settings p = if cap.toNat < p.exactFee then
      .error (.error (.gasLimitExceeded p.maxFee cap)) else .ok p := by
  rw [withinCap, hsome]
  simp only [lt_maxFee_iff hcap]

/-! ## What a plan provides for -/

/-- **What a plan provides for**: a limit that is not below the estimate and is the scaled one up to
the rounding of products of more than 96 bits, the price of the way, and a worst-case fee within the
cap. -/
structure Provides (cost : Cost) (settings : NetworkSettings) (destination : Network)
    (p : GasPlan) : Prop where
  limit_ge : cost.gasLimit.toNat ≤ p.gasLimit.toNat
  floor_le : ⌊cost.gasLimit.toNat * (multiplier settings).value⌋₊ ≤ p.gasLimit.toNat
  le_ceil : p.gasLimit.toNat ≤ ⌈cost.gasLimit.toNat * (multiplier settings).value⌉₊
  eq_ceil : cost.gasLimit.toNat * (multiplier settings).mantissa.toNat < 2 ^ 96 →
    p.gasLimit.toNat = ⌈cost.gasLimit.toNat * (multiplier settings).value⌉₊
  price_eq : p.gasPrice.toNat =
    let base := max cost.gasPrice.toNat (minimumPrice settings.network).toNat
    if settings.network = destination then base else min (2 ^ 128 - 1) (11 * base / 10)
  fee_le : ∀ cap, settings.maxFee = some cap → cap.toNat < 2 ^ 128 - 1 →
    p.gasLimit.toNat * p.gasPrice.toNat ≤ cap.toNat

/-- What has been planned provides for the cost. -/
theorem provides (h : Planned (estimate cost settings.network) settings destination p) :
    Provides cost settings destination p := by
  obtain ⟨hfloor, hceil, hexact⟩ := scaled?_eq_some (zero_le_one.trans h.one_le) h.limit
  have hlimit : ((estimate cost settings.network).gasLimit : UInt64) = cost.gasLimit := rfl
  rw [hlimit] at hfloor hceil hexact
  have hge : cost.gasLimit.toNat ≤ ⌊cost.gasLimit.toNat * (multiplier settings).value⌋₊ := by
    refine Nat.le_floor ?_
    exact le_mul_of_one_le_right (Nat.cast_nonneg _) h.one_le
  refine ⟨by omega, by omega, by omega, fun hfits => ?_, ?_, fun cap hsome hcap => ?_⟩
  · have := hexact hfits
    omega
  · rw [h.price_eq, toNat_price, toNat_estimate_gasPrice]
  · have hwithin := h.within
    rw [withinCap_eq hsome hcap] at hwithin
    split at hwithin
    · cases hwithin
    · rename_i hle
      exact Nat.le_of_not_lt hle

/-- **A gas plan never provides for too little and keeps the cap.** For every cost that a dry run
reports, all settings and every destination, a plan that is made provides for the scaled limit at
the price of the way within the cap. And where a plan is made without a cap, the cap refuses it
exactly if its worst-case fee is greater. -/
theorem plan_provides (cost : Cost) (settings : NetworkSettings) (destination : Network) :
    let e := estimate cost settings.network
    (∀ p, plan e settings destination = .ok p → Provides cost settings destination p) ∧
      ∀ p cap, plan e settings.uncapped destination = .ok p → settings.maxFee = some cap →
        cap.toNat < 2 ^ 128 - 1 →
        plan e settings destination =
          if cap.toNat < p.gasLimit.toNat * p.gasPrice.toNat then
            .error (.error (.gasLimitExceeded p.maxFee cap))
          else .ok p := by
  intro e
  refine ⟨fun p h => provides (planned h), fun p cap huncapped hsome hcap => ?_⟩
  rw [plan_eq_bind_uncapped, huncapped]
  exact withinCap_eq hsome hcap p

/-- The settings of a user on Ethereum with this multiplier and cap. -/
def userSettings (m : Decimal) (cap : Option Wei) : NetworkSettings :=
  ⟨.ethereum, .user, "http://rpc", some m, cap⟩

/-- The exact product is 2^64 - 1 and some 3 of its tenth digit behind the point, for which there is
no room in 96 bits: the limit is the floor. A cap of one less than the fee refuses the plan. -/
theorem sample_plan_provides :
    let m : Decimal := ⟨61489146912365172050000000001, 28, by decide, by decide⟩
    let cost : Cost := ⟨3000000000000000000, ⟨10, by decide⟩⟩
    let fee : Wei := ⟨184467440737095516150, by decide⟩
    let below : Wei := ⟨184467440737095516149, by decide⟩
    let p : GasPlan := ⟨18446744073709551615, ⟨10, by decide⟩⟩
    Provides cost (userSettings m (some fee)) .ethereum p ∧
      plan (estimate cost .ethereum) (userSettings m (some below)) .ethereum =
        .error (.error (.gasLimitExceeded fee below)) := by
  intro m cost fee below p
  have hplan : plan (estimate cost .ethereum) (userSettings m (some fee)) .ethereum = .ok p := by
    decide +kernel
  have huncapped : plan (estimate cost .ethereum) (userSettings m (some below)).uncapped .ethereum =
      .ok p := by
    decide +kernel
  refine ⟨(plan_provides cost (userSettings m (some fee)) .ethereum).1 p hplan, ?_⟩
  have hfee : p.maxFee = fee := by decide +kernel
  refine ((plan_provides cost (userSettings m (some below)) .ethereum).2 p below huncapped rfl
    (by decide)).trans ?_
  rw [if_pos (by decide), hfee]

/-! ## Limits that are too great -/

/-- **When a limit is too great.** On a supported way with a multiplier of at least one there is no
product from half below 2^96 on, and planning crashes; it never crashes otherwise. Below that a plan
is refused as too great exactly if the scaled limit is 2^64 or more. -/
theorem plan_overflow_iff (e : Estimate) (settings : NetworkSettings) (destination : Network) :
    let product : ℚ := e.gasLimit.toNat * (multiplier settings).value
    ((∃ text, plan e settings destination = .error (.crash text)) ↔
      isLinked settings.network destination = true ∧ 1 ≤ (multiplier settings).value ∧
        2 ^ 96 - 1 / 2 ≤ product) ∧
      (isLinked settings.network destination = true → 1 ≤ (multiplier settings).value →
        product < 2 ^ 96 - 1 / 2 →
        ∃ z, scaled? e.gasLimit (multiplier settings) = some z ∧ ⌊product⌋₊ ≤ z ∧ z ≤ ⌈product⌉₊ ∧
          (e.gasLimit.toNat * (multiplier settings).mantissa.toNat < 2 ^ 96 → z = ⌈product⌉₊) ∧
          ((∃ fault, plan e settings destination = .error (.error (.invalidAmount fault))) ↔
            2 ^ 64 ≤ z)) := by
  intro product
  by_cases hsupported : isLinked settings.network destination = true ∧
    1 ≤ (multiplier settings).value
  · obtain ⟨hlinked, hm⟩ := hsupported
    have hnonneg := zero_le_one.trans hm
    have hnone : scaled? e.gasLimit (multiplier settings) = none ↔ 2 ^ 96 - 1 / 2 ≤ product :=
      scaled?_eq_none_iff hnonneg
    have hsome : product < 2 ^ 96 - 1 / 2 ↔ scaled? e.gasLimit (multiplier settings) ≠ none := by
      rw [ne_eq, hnone, not_le]
    simp only [hlinked, hm, true_and, true_implies, ← hnone, hsome]
    -- crashed, refused as too large, or scaled and compared with the cap
    rcases plan_cases e hlinked hm with ⟨hscaled, hplan⟩ | ⟨z, hscaled, hz, hplan⟩ |
      ⟨limit, hscaled, hplan⟩
    · simp [hscaled, hplan]
    · obtain ⟨hfloor, hceil, hexact⟩ := scaled?_eq_some hnonneg hscaled
      refine ⟨by simp [hscaled, hplan], fun _ => ⟨z, hscaled, hfloor, hceil, hexact, ?_⟩⟩
      simpa [hplan] using hz
    · obtain ⟨hfloor, hceil, hexact⟩ := scaled?_eq_some hnonneg hscaled
      have hfits : ¬2 ^ 64 ≤ (limit.toNat : ℤ) := by
        have := limit.toNat_lt
        omega
      refine ⟨by simp [hscaled, hplan, withinCap_ne_crash], fun _ =>
        ⟨_, hscaled, hfloor, hceil, hexact, ?_⟩⟩
      simpa [hplan, withinCap_ne_invalidAmount] using hfits
  · refine ⟨⟨fun ⟨text, hcrash⟩ => ?_, fun h => absurd ⟨h.1, h.2.1⟩ hsupported⟩,
      fun hlinked hm => absurd ⟨hlinked, hm⟩ hsupported⟩
    rcases plan_of_unsupported e hsupported with hplan | hplan
    · rw [hcrash] at hplan
      cases hplan
    · rw [hcrash] at hplan
      cases hplan

/-- With the greatest multiplier a limit of one is refused, and one of two crashes. -/
theorem sample_plan_overflow_iff :
    let settings := userSettings .largest none
    (∃ fault, plan ⟨1, .zero, .zero⟩ settings .ethereum =
        .error (.error (.invalidAmount fault))) ∧
      ∃ text, plan ⟨2, .zero, .zero⟩ settings .ethereum = .error (.crash text) := by
  intro settings
  have hvalue : (multiplier settings).value = 2 ^ 96 - 1 := by
    norm_num [settings, userSettings, multiplier, Decimal.value, Decimal.largest]
  have hone : 1 ≤ (multiplier settings).value := by
    rw [hvalue]
    norm_num
  obtain ⟨-, hrefused⟩ := plan_overflow_iff ⟨1, .zero, .zero⟩ settings .ethereum
  obtain ⟨hcrash, -⟩ := plan_overflow_iff ⟨2, .zero, .zero⟩ settings .ethereum
  rw [hvalue] at hrefused hcrash
  obtain ⟨z, hz, -, -, -, hiff⟩ := hrefused rfl (by norm_num)
    (by rw [show (1 : UInt64).toNat = 1 from rfl]; norm_num)
  have hscaled : scaled? 1 (multiplier settings) = some (2 ^ 96 - 1) := by decide +kernel
  obtain rfl := Option.some.inj (hscaled.symm.trans hz)
  refine ⟨hiff.2 (by decide), hcrash.2 ⟨rfl, by norm_num, ?_⟩⟩
  rw [show (2 : UInt64).toNat = 2 from rfl]
  norm_num

/-- Three times the greatest multiplier does not fit in a limit, but the plan is not refused: it
crashes. -/
theorem sample_plan_crashes :
    let settings := userSettings .largest none
    isLinked settings.network .ethereum = true ∧ (multiplier settings).lt .one = false ∧
      plan ⟨3, ⟨10, by decide⟩, .zero⟩ settings .ethereum = .error (.crash overflowText) := by
  decide +kernel

end Gas

end WalletTasks
