import WalletTasks.Run.Program
import WalletTasks.Task.Update

/-!
# The executor of delays

The first run of a delay fixes the instant at which it ends, and every run waits for that instant.
A run that is interrupted before leaves the delay pending.
-/

namespace WalletTasks

namespace Delay

/-- The longest wait in seconds. -/
def longest : Nat := 9223372036854775

/-- The text of the crash when a wait ends behind the last instant. -/
def overflowText : String := "\x60DateTime + TimeDelta\x60 overflowed"

/-- The bounds of the wait if it is drawn, unless they leave no choice. -/
def bounds (d : Delay) : Except TaskError (Option DelayRange) :=
  match d.range with
  | some r =>
    if r.most < r.least then .error (.invalidAmount (.emptyDelayRange r.least.toNat r.most.toNat))
    else .ok (some r)
  | none => .ok none

/-- The instant at which a wait of so many seconds ends. -/
def endOf (seconds : UInt64) (now : Instant) : Except Fault Instant :=
  if longest < seconds.toNat then .error (.error (.invalidAmount (.delayTooLong seconds.toNat)))
  else
    match now.addSeconds? seconds.toNat with
    | some t => .ok t
    | none => .error (.crash overflowText)

end Delay

namespace Executor

open Routine

/-- The instant at which a delay ends; it is fixed if it is not fixed yet. -/
def waitUntil (d : Delay) : Routine Instant :=
  match d.waitUntil with
  | some t => pure t
  | none => do
    let seconds ← match ← ofExcept d.bounds with
      | some r => ask (.draw r.least r.most)
      | none => pure d.seconds
    let now ← ask .clock
    let t ← ofFault (Delay.endOf seconds now)
    modify (Job.mapPayload (.withWaitUntil t) (Payload.shape_withWaitUntil t))
    pure t

/-- What is left of an interrupted wait. -/
def delayInterrupted : TaskError → TaskError
  | .deadlineExceeded _ | .cancelled => .delayPending
  | e => e

/-- The executor of delays. -/
def delay : Executor where
  kind := .delay
  run _ := do
    let job ← held
    if job.status.isTerminal then pure ()
    else
      match ← ofExcept (job.task.payloadAs .delay) with
      | .delay d =>
        let t ← waitUntil d
        setStatus .running
        persist
        let now ← ask .clock
        let slept ← ask (.sleep (now.nanosUntil t))
        ofExcept (slept.mapError delayInterrupted)
        setStatus .done
        persist
      | _ => pure ()

end Executor

end WalletTasks
