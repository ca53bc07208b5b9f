import WalletTasks.Chain.Fee
import WalletTasks.Decimal.Basic
import WalletTasks.Task.Payload

/-!
# Chain clients

What is sent to a network through the client of a wallet, and what comes back.
-/

namespace WalletTasks

/-- A submission: a dry run, from which nothing is broadcast, or a real one, which is bounded by a
gas plan. The slippage is in percent. -/
structure SubmitRequest where
  operation : Operation
  fromToken : Token
  amount : Wei
  estimateOnly : Bool
  gas : Option GasPlan
  slippage : Option Decimal
deriving DecidableEq, Repr

/-- What a client answers to a submission. The identifier is empty for a dry run. -/
structure Submission where
  txId : String
  approveTxId : Option String
  cost : Cost
deriving DecidableEq, Repr, Inhabited

/-- How far a submitted transaction has come. -/
inductive TransactionState
  | pending
  | confirmed
  | failed (reason : String)
deriving DecidableEq, Repr, Inhabited

/-- How much of a token a wallet holds, in wei and in whole tokens. -/
structure Balance where
  wei : Wei
  human : Decimal
deriving DecidableEq, Repr, Inhabited

end WalletTasks
