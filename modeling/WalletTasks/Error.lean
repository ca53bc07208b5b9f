import WalletTasks.Chain.Network
import WalletTasks.Chain.Wei
import WalletTasks.Identifier
import WalletTasks.Profile
import WalletTasks.Task.Kind
import WalletTasks.Time.Span

/-!
# Causes of failure

Each part of the library names the causes of its failures in a type of its own; the wording of a
cause is a function of it. A task fails for one of the causes in `TaskError`, two of which only ask
for another run later.

* `TaskError.isRetryable_iff`: only a pending transaction and a pending delay are worth another run.
-/

namespace WalletTasks

/-- Failures of a chain client or of its connector. -/
inductive ChainError
  | rpc (network : Network) (reason : String)
  | unsupported (network : Network) (operation : String)
deriving DecidableEq, Repr

def ChainError.message : ChainError → String
  | .rpc network reason => "RPC call on " ++ network.label ++ " failed: " ++ reason
  | .unsupported network operation => operation ++ " is not supported on " ++ network.label

/-- Failures of the store. -/
inductive StoreError
  | notFound (entity id : String)
deriving DecidableEq, Repr

def StoreError.message : StoreError → String
  | .notFound entity id => "Entity not found: " ++ entity ++ " with id " ++ id

/-- Failures of the funds service. -/
inductive FundsError
  | unavailable (reason : String)
deriving DecidableEq, Repr

def FundsError.message : FundsError → String
  | .unavailable reason => "Funds service unavailable: " ++ reason

/-- Failures of the profile service. -/
inductive ProfileError
  | notFound (id : Identifier)
  | settingsMissing (userId : String) (network : Network)
deriving DecidableEq, Repr

def ProfileError.message : ProfileError → String
  | .notFound id => "Profile " ++ id.text ++ " not found"
  | .settingsMissing userId network =>
    "No " ++ network.label ++ " settings for user " ++ userId

/-- Failures of the configuration. -/
inductive ConfigError
  | invalidValue (key message : String)
  | parseError (message : String)
deriving DecidableEq, Repr

def ConfigError.message : ConfigError → String
  | .invalidValue key message => "Invalid configuration value for " ++ key ++ ": " ++ message
  | .parseError message => "Failed to parse configuration: " ++ message

/-- Why an amount, a multiplier or a delay cannot be used. -/
inductive AmountFault
  | percentOutOfRange (percent : String)
  | percentNotConverted (percent : String)
  | percentOverflow (percent balance : String)
  | multiplierBelowOne (multiplier : String)
  | gasLimitOverflow (gasLimit : Nat) (multiplier : String)
  | emptyDelayRange (least most : Nat)
  | delayTooLong (seconds : Nat)
  | other (text : String)
deriving DecidableEq, Repr

def AmountFault.message : AmountFault → String
  | .percentOutOfRange percent => "percent must be in (0, 100], got " ++ percent
  | .percentNotConverted percent => "percent out of range: " ++ percent
  | .percentOverflow percent balance => percent ++ "% of " ++ balance ++ " overflows"
  | .multiplierBelowOne multiplier => "gas multiplier must be at least 1, got " ++ multiplier
  | .gasLimitOverflow gasLimit multiplier =>
    "gas limit " ++ Text.decimal gasLimit ++ " x " ++ multiplier ++ " overflows"
  | .emptyDelayRange least most =>
    "delay range " ++ Text.decimal least ++ "..=" ++ Text.decimal most ++ " is empty"
  | .delayTooLong seconds => "delay of " ++ Text.decimal seconds ++ "s is too long"
  | .other text => text

/-- Everything that can end or interrupt a run of a task. -/
inductive TaskError
  | noBalance
  | insufficientBalance (requested available : Wei)
  | invalidAmount (fault : AmountFault)
  | transactionNotReady
  | delayPending
  | unknownKind (name : String)
  | duplicateExecutor (kind : Kind)
  | payloadMismatch (kind : Kind) (expected found : Shape)
  | executionFault (message : String)
  | deadlineExceeded (timeout : Span)
  | cancelled
  | alreadyRunning (id : Identifier)
  | transactionFailed (txId reason : String)
  | unsupportedNetwork (source destination : Network)
  | unsupportedSlippage (kind : Kind) (source : SettingsSource)
  | gasLimitExceeded (fee limit : Wei)
  | chain (e : ChainError)
  | store (e : StoreError)
  | funds (e : FundsError)
  | profile (e : ProfileError)
deriving DecidableEq, Repr

namespace TaskError

def message : TaskError → String
  | noBalance => "user has no balance"
  | insufficientBalance requested available =>
    "insufficient balance: requested " ++ requested.text ++ " wei, available " ++
      available.text ++ " wei"
  | invalidAmount fault => "invalid amount: " ++ fault.message
  | transactionNotReady => "transaction is not ready"
  | delayPending => "delay is still pending"
  | unknownKind name => "unknown task kind: " ++ name
  | duplicateExecutor kind => "duplicate executor registered for " ++ kind.label
  | payloadMismatch kind expected found =>
    "payload mismatch for " ++ kind.label ++ ": expected " ++ expected.label ++
      " payload, found " ++ found.label
  | executionFault message => "task panic: " ++ message
  | deadlineExceeded timeout => "task deadline of " ++ timeout.text ++ " exceeded"
  | cancelled => "task cancelled"
  | alreadyRunning id => "task " ++ id.text ++ " is already running"
  | transactionFailed txId reason => "transaction " ++ txId ++ " failed: " ++ reason
  | unsupportedNetwork source destination =>
    "unsupported network pair " ++ source.label ++ " -> " ++ destination.label
  | unsupportedSlippage kind source =>
    "no slippage configured for " ++ kind.label ++ " with " ++ source.label ++ " settings"
  | gasLimitExceeded fee limit =>
    "gas plan fee " ++ fee.text ++ " wei exceeds limit " ++ limit.text ++ " wei"
  | chain e => "chain error: " ++ e.message
  | store e => "database error: " ++ e.message
  | funds e => "billing error: " ++ e.message
  | profile e => "profile error: " ++ e.message

/-- A code that does not change with the wording. -/
def code : TaskError → String
  | noBalance => "billing.no_balance"
  | insufficientBalance .. => "amount.insufficient_balance"
  | invalidAmount _ => "amount.invalid"
  | transactionNotReady => "tx.not_ready"
  | delayPending => "delay.pending"
  | unknownKind _ => "registry.unknown_kind"
  | duplicateExecutor _ => "registry.duplicate_executor"
  | payloadMismatch .. => "registry.payload_mismatch"
  | executionFault _ => "runtime.panic"
  | deadlineExceeded _ => "runtime.deadline_exceeded"
  | cancelled => "runtime.cancelled"
  | alreadyRunning _ => "runtime.already_running"
  | transactionFailed .. => "tx.failed"
  | unsupportedNetwork .. => "gas.unsupported_network"
  | unsupportedSlippage .. => "gas.unsupported_slippage"
  | gasLimitExceeded .. => "gas.limit_exceeded"
  | chain _ => "chain.error"
  | store _ => "db.error"
  | funds _ => "billing.error"
  | profile _ => "profile.error"

/-- Whether the task stays as last stored and only has to be run again later. -/
def isRetryable : TaskError → Bool
  | transactionNotReady | delayPending => true
  | _ => false

theorem isRetryable_iff {e : TaskError} :
    e.isRetryable = true ↔ e = .transactionNotReady ∨ e = .delayPending := by
  cases e <;> simp [isRetryable]

end TaskError

/-- Failures of the program as a whole. -/
inductive ProgramError
  | config (e : ConfigError)
  | task (e : TaskError)
deriving DecidableEq, Repr

def ProgramError.message : ProgramError → String
  | .config e => "Configuration error: " ++ e.message
  | .task e => "Task error: " ++ e.message

/-- How a computation that does not finish ends: with a cause, or by a crash that only the runner
contains. -/
inductive Fault
  | error (e : TaskError)
  | crash (message : String)
deriving DecidableEq, Repr

end WalletTasks
