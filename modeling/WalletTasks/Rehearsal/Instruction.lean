import WalletTasks.Registry

/-!
# Scripted executors

An executor that follows a list of instructions, the first of which that fails ends it.
-/

namespace WalletTasks.Rehearsal

open Routine

/-- An instruction to a scripted executor. Durations are in nanoseconds. -/
inductive Instruction
  | setStatus (status : Status)
  | setError (error : Option String)
  | persist
  | sleep (duration : Nat)
  | pause (duration : Nat)
  | noteCancelled
  | expectShape (shape : Shape)
  | fail (e : TaskError)
  | crash (message : String)

/-- What the executor notes about its run. -/
def noteText (cancelled : Bool) (info : RunInfo) : String :=
  "cancelled=" ++ (if cancelled then "true" else "false") ++ " timeout=" ++ info.timeout.text ++
    " user=" ++ info.user.login

/-- Follows an instruction. -/
def Instruction.follow (info : RunInfo) : Instruction → Routine Unit
  | setStatus status => Routine.setStatus status
  | setError error => modify fun job => { job with error }
  | persist => Routine.persist
  | sleep duration => ask (.sleep duration) >>= ofExcept
  | pause duration => ask (.pause duration)
  | noteCancelled => do
    let cancelled ← ask .isCancelled
    modify fun job => { job with error := some (noteText cancelled info) }
  | expectShape shape => do
    let job ← held
    let _ ← ofExcept (job.task.payloadAs shape)
  | fail e => Routine.fail e
  | crash message => Routine.crash message

/-- Follows instructions one after the other. -/
def followAll (info : RunInfo) : List Instruction → Routine Unit
  | [] => pure ()
  | i :: is => do
    i.follow info
    followAll info is

/-- The executor of a kind that follows instructions. -/
def scripted (kind : Kind) (instructions : List Instruction) : Executor where
  kind := kind
  run info := followAll info instructions

end WalletTasks.Rehearsal
