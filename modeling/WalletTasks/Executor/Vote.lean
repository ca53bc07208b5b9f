import WalletTasks.Run.Program
import WalletTasks.Task.Update

/-!
# The executor of votes

A vote is submitted once, without gas, and is done with the receipt that the client answers.
-/

namespace WalletTasks.Executor

open Routine

/-- The submission of a vote. -/
def voteRequest (v : Vote) : SubmitRequest where
  operation := .vote v.space v.proposal v.choice
  fromToken := v.network.nativeToken
  amount := .zero
  estimateOnly := false
  gas := none
  slippage := none

/-- Submits a vote and keeps its receipt. -/
def castVote (job : Job) (v : Vote) : Routine Unit := do
  let profile ← call (.profile job.profileId)
  let settings ← call (.networkSettings job.userId v.network)
  let client ← call (.connect profile settings v.network)
  let submission ← call (.submit client (voteRequest v))
  if submission.txId.isEmpty then
    fail (.chain (.rpc v.network "vote returned no receipt"))
  else
    modify (Job.mapPayload (.withReceipt submission.txId)
      (Payload.shape_withReceipt submission.txId))

/-- The executor of votes. -/
def vote : Executor where
  kind := .snapshotVote
  run _ := do
    let job ← held
    if job.status.isTerminal then pure ()
    else
      match ← ofExcept (job.task.payloadAs .vote) with
      | .vote v =>
        setStatus .running
        persist
        if v.receipt.isNone then castVote job v
        setStatus .done
        persist
      | _ => pure ()

end WalletTasks.Executor
