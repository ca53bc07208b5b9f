import WalletTasks.Run.Program

/-!
# The executor of mock tasks

A mock task is done as soon as it is run.
-/

namespace WalletTasks.Executor

open Routine

/-- The executor of a kind with a mock payload. -/
def mock (kind : Kind) : Executor where
  kind := kind
  run _ := do
    let job ← held
    if job.status.isTerminal then pure ()
    else
      let _ ← ofExcept (job.task.payloadAs .mock)
      setStatus .done
      persist

end WalletTasks.Executor
