import WalletTasks.Decimal.Basic
import WalletTasks.Error

/-!
# Slippage tolerances

The tolerance in percent that a submission carries, for the kinds that carry one.
-/

namespace WalletTasks.Slippage

/-- Half a percent. -/
def half : Decimal := .tenths 5

/-- The tolerance of a kind under settings of this source. There is none for StarkNet kinds and the
test network bridge under the user's own settings. -/
def tolerance? (source : SettingsSource) (kind : Kind) : Option Decimal :=
  if !kind.usesSlippage then none
  else
    match source, kind.isStarkNet with
    | .default, false => some (if kind = .testNetBridgeSwap then .one else half)
    | .default, true => some .one
    | .user, false => if kind = .testNetBridgeSwap then none else some .one
    | .user, true => none

/-- The tolerance of a kind, or the cause of having none. -/
def tolerance (source : SettingsSource) (kind : Kind) : Except TaskError Decimal :=
  match tolerance? source kind with
  | some d => .ok d
  | none => .error (.unsupportedSlippage kind source)

end WalletTasks.Slippage
