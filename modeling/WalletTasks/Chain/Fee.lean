import WalletTasks.Chain.Wei

/-!
# Fees

What a dry run reports, and the parameters that bound the fee of a real submission.
-/

namespace WalletTasks

/-- The fee figures that a dry run reports. -/
structure Cost where
  gasLimit : UInt64
  gasPrice : Wei
deriving DecidableEq, Repr, Inhabited

/-- The fee parameters of a real submission. -/
structure GasPlan where
  gasLimit : UInt64
  gasPrice : Wei
deriving DecidableEq, Repr, Inhabited

/-- The most that a submission can spend on fees, cut off at the largest amount. -/
def GasPlan.maxFee (p : GasPlan) : Wei := Wei.saturate (p.gasLimit.toNat * p.gasPrice.toNat)

end WalletTasks
