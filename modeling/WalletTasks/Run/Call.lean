import WalletTasks.Chain.Client
import WalletTasks.Error

/-!
# Calls to the services around a run

A run reaches profiles, settings and chains through calls. Each call has its own type of answer and
its own type of failure; a service may also crash instead of answering.
-/

namespace WalletTasks

/-- A call to the profile service, to the connector, or to the client of a network. A client is
named by the network that it is bound to. -/
inductive Call
  | profile (id : Identifier)
  | networkSettings (userId : String) (network : Network)
  | connect (profile : Profile) (settings : NetworkSettings) (network : Network)
  | networkId (client : Network)
  | walletAddress (client : Network)
  | balance (client : Network) (address : String) (token : Token)
  | submit (client : Network) (request : SubmitRequest)
  | poll (client : Network) (txId : String)
deriving DecidableEq, Repr

namespace Call

/-- What a call is answered with. -/
abbrev Answer : Call → Type
  | profile _ => Profile
  | networkSettings .. => NetworkSettings
  | connect .. => Network
  | networkId _ => UInt64
  | walletAddress _ => String
  | balance .. => Balance
  | submit .. => Submission
  | poll .. => TransactionState

/-- How a call fails. -/
abbrev Failure : Call → Type
  | profile _ | networkSettings .. => ProfileError
  | connect .. | networkId _ | walletAddress _ | balance .. | submit .. | poll .. => ChainError

/-- The failure of a call as the cause of a task's failure. -/
def cause : (c : Call) → c.Failure → TaskError
  | profile _, e | networkSettings .., e => .profile e
  | connect .., e | networkId _, e | walletAddress _, e | balance .., e | submit .., e
  | poll .., e => .chain e

theorem isRetryable_cause (c : Call) (e : c.Failure) : (c.cause e).isRetryable = false := by
  cases c <;> rfl

end Call

/-- How a service reacts: with a value, with a failure, or by crashing. -/
inductive Reply (ε α : Type)
  | value (a : α)
  | error (e : ε)
  | crash (message : String)

/-- What a service makes of a call when the call starts: the answer, and after how many nanoseconds
it arrives. -/
structure Response (c : Call) where
  delay : Nat
  reply : Reply c.Failure c.Answer

end WalletTasks
