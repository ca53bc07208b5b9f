import WalletTasks.Decimal.Text
import WalletTasks.Task.Payload

/-!
# Gas plans

The fee figures of a dry run become the fee parameters of the real submission: the price is raised
to what the network accepts, and by a tenth across networks; the limit gets headroom from a
multiplier; and a plan whose worst-case fee exceeds the user's cap is refused.

* `toNat_estimate_gasPrice`: an estimate prices at least at the minimum of the network.
* `maxFee_le`: a plan keeps its worst-case fee within the cap.
-/

namespace WalletTasks

/-- The normalized fee figures of a dry run. -/
structure Estimate where
  gasLimit : UInt64
  gasPrice : Wei
  totalFee : Wei
deriving DecidableEq, Repr, Inhabited

namespace Gas

/-- The lowest gas price that a network accepts. -/
def minimumPrice : Network → Wei
  | .zksyncEra => ⟨250000000, by decide⟩
  | .arbitrum => ⟨100000000, by decide⟩
  | _ => .zero

/-- The estimate of a dry run's cost on a network. -/
def estimate (cost : Cost) (network : Network) : Estimate :=
  let price := Wei.larger cost.gasPrice (minimumPrice network)
  ⟨cost.gasLimit, price, Wei.saturate (cost.gasLimit.toNat * price.toNat)⟩

/-- The headroom of gas limits where the user has set none. -/
def defaultMultiplier : Network → Decimal
  | .zksyncEra | .starkNet => .tenths 15
  | .arbitrum => .tenths 13
  | _ => .tenths 12

/-- The multiplier in force: the user's own counts only under the user's own settings. -/
def multiplier (settings : NetworkSettings) : Decimal :=
  match settings.source with
  | .default => defaultMultiplier settings.network
  | .user => settings.gasMultiplier.getD (defaultMultiplier settings.network)

/-- Whether a submission may go from one network to the other: StarkNet is linked only to itself
and to Ethereum. -/
def isLinked : Network → Network → Bool
  | .starkNet, destination => destination = .starkNet || destination = .ethereum
  | source, .starkNet => source = .ethereum
  | _, _ => true

/-- The text of the crash when a product leaves 96 bits. -/
def overflowText : String := "Multiplication overflowed"

/-- The gas limit with headroom, rounded up. -/
def scaledLimit (gasLimit : UInt64) (m : Decimal) : Except Fault UInt64 :=
  match Decimal.scaledBy? gasLimit.toNat m with
  | none => .error (.crash overflowText)
  | some product =>
    let limit := product.ceil
    if h : 0 ≤ limit ∧ limit.toNat < UInt64.size then .ok (UInt64.ofNatLT limit.toNat h.2)
    else .error (.error (.invalidAmount (.gasLimitOverflow gasLimit.toNat (toString m))))

/-- The gas price of a submission: a tenth more across networks, because it is priced on the source
network when it is submitted. -/
def price (base : Wei) (source destination : Network) : Wei :=
  if source = destination then base else Wei.saturate (base.toNat + base.toNat / 10)

/-- The plan, unless its worst-case fee exceeds the cap. -/
def withinCap (settings : NetworkSettings) (plan : GasPlan) : Except Fault GasPlan :=
  match settings.maxFee with
  | none => .ok plan
  | some limit =>
    if limit.toNat < plan.maxFee.toNat then .error (.error (.gasLimitExceeded plan.maxFee limit))
    else .ok plan

/-- The gas plan of the real submission. -/
def plan (e : Estimate) (settings : NetworkSettings) (destination : Network) :
    Except Fault GasPlan :=
  if !isLinked settings.network destination then
    .error (.error (.unsupportedNetwork settings.network destination))
  else
    let m := multiplier settings
    if m.lt .one then .error (.error (.invalidAmount (.multiplierBelowOne (toString m))))
    else do
      let limit ← scaledLimit e.gasLimit m
      withinCap settings ⟨limit, price e.gasPrice settings.network destination⟩

theorem toNat_estimate_gasPrice (cost : Cost) (network : Network) :
    (estimate cost network).gasPrice.toNat =
      max cost.gasPrice.toNat (minimumPrice network).toNat :=
  Wei.toNat_larger _ _

/-- A plan keeps its worst-case fee within the cap of the user. -/
theorem maxFee_le {e : Estimate} {settings : NetworkSettings} {destination : Network}
    {p : GasPlan} {limit : Wei} (h : plan e settings destination = .ok p)
    (hcap : settings.maxFee = some limit) : p.maxFee.toNat ≤ limit.toNat := by
  have hwithin : ∀ q, withinCap settings q = .ok p → p.maxFee.toNat ≤ limit.toNat := by
    intro q hq
    simp only [withinCap, hcap] at hq
    split at hq <;> cases hq
    omega
  unfold plan at h
  split at h
  · cases h
  simp only at h
  split at h
  · cases h
  cases hlimit : scaledLimit e.gasLimit (multiplier settings) with
  | error fault =>
    rw [hlimit] at h
    cases h
  | ok gasLimit =>
    rw [hlimit] at h
    exact hwithin _ h

end Gas

end WalletTasks
