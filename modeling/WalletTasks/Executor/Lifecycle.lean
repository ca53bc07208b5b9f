import WalletTasks.Amount
import WalletTasks.Gas
import WalletTasks.Run.Program
import WalletTasks.Slippage
import WalletTasks.Task.Update

/-!
# The executor of chain actions

All kinds that act on a chain share one life: a dry run gives the figures for a gas plan, the real
submission leaves a footprint, which is stored at once, and then the transaction is polled until it
is decided. A job that has a footprint is never submitted again: its runs only wait.

* `awaitDecision`: the wait for a decision, which an interruption leaves pending.
* `lifecycle`: the executor.
-/

namespace WalletTasks.Executor

open Routine

/-- An action on its network: the kind of the task, and the client with its network identifier. -/
structure Attempt where
  kind : Kind
  action : Action
  client : Network
  networkId : UInt64
deriving DecidableEq, Repr

namespace Attempt

/-- Reaches the network that an action is submitted on, with the settings of the job's user. -/
def reach (kind : Kind) (action : Action) : Routine (Attempt × NetworkSettings) := do
  let job ← held
  let profile ← call (.profile job.profileId)
  let settings ← call (.networkSettings job.userId action.source)
  let client ← call (.connect profile settings action.source)
  let networkId ← call (.networkId client)
  pure (⟨kind, action, client, networkId⟩, settings)

/-- A transaction of a job as it is kept for audit. -/
def entry (a : Attempt) (job : Job) (txId : String) (role : TransactionRole)
    (gas : Option GasPlan) (now : Instant) : AuditEntry where
  jobId := job.id
  processId := job.processId
  profileId := job.profileId
  network := a.client
  networkId := a.networkId
  txId := txId
  role := role
  gas := gas
  recordedAt := now

/-- Writes a transaction of the job to the audit list. -/
def audit (a : Attempt) (txId : String) (role : TransactionRole) (gas : Option GasPlan) :
    Routine Unit := do
  let job ← held
  let now ← ask .clock
  ask (.audit (a.entry job txId role gas now))

/-- The amount that the action spends from the wallet. -/
def amount (a : Attempt) (address : String) : Routine Wei :=
  match a.action.spend? with
  | some spend => do
    let balance ← call (.balance a.client address a.action.fromToken)
    ofExcept (Amount.resolve spend balance.wei)
  | none => pure .zero

/-- The slippage that the submission of the kind carries. -/
def slippage (a : Attempt) (settings : NetworkSettings) : Except TaskError (Option Decimal) :=
  if a.kind.usesSlippage then some <$> Slippage.tolerance settings.source a.kind else .ok none

/-- The dry run of a submission. -/
def dryRun (a : Attempt) (amount : Wei) (slippage : Option Decimal) : SubmitRequest where
  operation := a.action.operation a.kind
  fromToken := a.action.fromToken
  amount := Amount.estimate amount
  estimateOnly := true
  gas := none
  slippage := slippage

/-- The real submission. -/
def real (a : Attempt) (amount : Wei) (slippage : Option Decimal) (plan : GasPlan) :
    SubmitRequest :=
  { a.dryRun amount slippage with amount := amount, estimateOnly := false, gas := some plan }

/-- Submits the action for real, with the gas plan that its dry run gives the figures for. -/
def broadcast (a : Attempt) (settings : NetworkSettings) : Routine (GasPlan × Submission) := do
  let address ← call (.walletAddress a.client)
  let amount ← a.amount address
  let slippage ← ofExcept (a.slippage settings)
  let estimated ← call (.submit a.client (a.dryRun amount slippage))
  let estimate := Gas.estimate estimated.cost a.action.source
  let plan ← ofFault (Gas.plan estimate settings a.action.destination)
  let submission ← call (.submit a.client (a.real amount slippage plan))
  if submission.txId.isEmpty then
    fail (.chain (.rpc a.client "submission returned no transaction id"))
  else pure (plan, submission)

/-- Submits the action and stores its footprint. -/
def submit (a : Attempt) (settings : NetworkSettings) : Routine Unit := do
  let (plan, submission) ← a.broadcast settings
  let now ← ask .clock
  let footprint : Footprint :=
    ⟨submission.txId, submission.approveTxId, some plan, false, now⟩
  modify (Job.mapPayload (.withFootprint footprint) (Payload.shape_withFootprint footprint))
  persist
  match submission.approveTxId with
  | some approve => a.audit approve .approve (some plan)
  | none => pure ()

/-- What is left of an interrupted wait. -/
def waitInterrupted : TaskError → TaskError
  | .deadlineExceeded _ | .cancelled => .transactionNotReady
  | e => e

/-- Polls the transaction until it is decided, with a rest between two polls. A chain that fails to
answer is asked again. So many polls at most; more than the time that is left allows make no
difference. -/
def awaitDecision (a : Attempt) (txId : String) (interval : Nat) : Nat → Routine Unit
  | 0 => fail .transactionNotReady
  | polls + 1 => do
    let again : Routine Unit := do
      let slept ← ask (.sleep interval)
      ofExcept (slept.mapError waitInterrupted)
      a.awaitDecision txId interval polls
    match ← ask (.call (.poll a.client txId)) with
    | .ok .confirmed => pure ()
    | .ok (.failed reason) => fail (.transactionFailed txId reason)
    | .ok .pending | .error (.chain _) => again
    | .error e => fail (waitInterrupted e)

/-- Waits until the transaction of the job is confirmed, and stores that it is. -/
def wait (a : Attempt) (interval : Span) : Routine Unit := do
  let job ← held
  match job.task.payload.footprint? with
  | none => pure ()
  | some footprint =>
    if footprint.completed then pure ()
    else
      let remaining ← ask .remaining
      a.awaitDecision footprint.txId interval.nanos (remaining / interval.nanos + 1)
      modify (Job.mapPayload .complete Payload.shape_complete)
      persist
      a.audit footprint.txId .primary footprint.gas

end Attempt

/-- Sets a job whose transaction is confirmed to done. -/
def settle : Routine Unit := do
  let job ← held
  if job.task.payload.footprint?.any (·.completed) then
    setStatus .done
    persist

/-- The executor of a kind that acts on a chain. -/
def lifecycle (kind : Kind) : Executor where
  kind := kind
  run info := do
    let job ← held
    if job.status.isTerminal then pure ()
    else
      match ← ofExcept (job.task.payloadAs kind.shape) with
      | .chain action footprint =>
        setStatus .running
        persist
        let (attempt, settings) ← Attempt.reach kind action
        if footprint.isNone then attempt.submit settings
        attempt.wait info.pollInterval
        settle
      | _ => pure ()

end WalletTasks.Executor
