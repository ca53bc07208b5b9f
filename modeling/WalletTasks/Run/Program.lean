import WalletTasks.Job
import WalletTasks.Run.Call

/-!
# Programs of executors

What an executor does with a job is a program: a tree whose inner nodes ask something of the
surroundings and go on with the answer. At every node the program shows the job as it holds it in
memory, because that is what is left when the program crashes or is dropped at that node.

Calls and sleeps can be interrupted, and then answer with the cause of the interruption. All other
requests run to their end. A job is stored by four of them in a row (`Routine.persist`), each of
which may keep the program waiting.

* `Routine`: programs that take over a job and hand it on; they are written in `do` notation.
-/

namespace WalletTasks

/-- What a program may ask of its surroundings. Durations are in nanoseconds. The job in memory is
compared with its stored copy (`reread`), a change from the status `before` is written to the
history (`note`), the job is written over the stored copy (`store`), and the charge for the change
is sent if one is owed (`charge`). -/
inductive Request
  | call (c : Call)
  | sleep (duration : Nat)
  | pause (duration : Nat)
  | reread
  | note (before : Status)
  | store
  | charge (before : Status)
  | audit (entry : AuditEntry)
  | clock
  | draw (least most : UInt64)
  | remaining
  | isCancelled

namespace Request

/-- What a request is answered with. -/
abbrev Answer : Request → Type
  | call c => Except TaskError c.Answer
  | sleep _ => Except TaskError Unit
  | pause _ => Unit
  | reread => Except TaskError Job
  | note _ => Unit
  | store => Except TaskError Unit
  | charge _ => Except TaskError Unit
  | audit _ => Unit
  | clock => Instant
  | draw .. => UInt64
  | remaining => Nat
  | isCancelled => Bool

/-- The answer to a request that is interrupted; none for a request that cannot be. -/
def interrupted? : (r : Request) → TaskError → Option r.Answer
  | call _, e => some (.error e)
  | sleep _, e => some (.error e)
  | pause _, _ | reread, _ | note _, _ | store, _ | charge _, _ | audit _, _ | clock, _
  | draw .., _ | remaining, _ | isCancelled, _ => none

/-- Whether a request can be interrupted. -/
def isInterruptible : Request → Bool
  | call _ | sleep _ => true
  | _ => false

end Request

/-- A program that ends with a value or a cause of failure, crashes, waits for ever, or asks for
something and goes on with the job and the answer. -/
inductive Program (α : Type)
  | finish (held : Job) (result : Except TaskError α)
  | crash (held : Job) (message : String)
  | stall (held : Job)
  | ask (held : Job) (request : Request) (next : Job → request.Answer → Program α)

namespace Program

variable {α β : Type}

/-- Goes on with another program where this one ends with a value. -/
def andThen : Program α → (Job → α → Program β) → Program β
  | finish held (.ok a), f => f held a
  | finish held (.error e), _ => finish held (.error e)
  | crash held message, _ => crash held message
  | stall held, _ => stall held
  | ask held request next, f => ask held request fun job a => (next job a).andThen f

end Program

/-- A program that takes over a job. -/
def Routine (α : Type) : Type := Job → Program α

namespace Routine

variable {α β : Type}

instance : Monad Routine where
  pure a := fun job => .finish job (.ok a)
  bind m f := fun job => (m job).andThen fun job a => f a job

/-- The job as it is held. -/
def held : Routine Job := fun job => .finish job (.ok job)

/-- Changes the job in memory. -/
def modify (f : Job → Job) : Routine Unit := fun job => .finish (f job) (.ok ())

/-- Ends with a cause of failure. -/
def fail (e : TaskError) : Routine α := fun job => .finish job (.error e)

/-- Crashes. -/
def crash (message : String) : Routine α := fun job => .crash job message

/-- Ends with the cause of failure of a computation, or goes on with its value. -/
def ofExcept : Except TaskError α → Routine α
  | .ok a => pure a
  | .error e => fail e

/-- The same for a computation that may crash. -/
def ofFault : Except Fault α → Routine α
  | .ok a => pure a
  | .error (.error e) => fail e
  | .error (.crash message) => crash message

/-- Asks for something. -/
def ask (request : Request) : Routine request.Answer := fun job =>
  .ask job request fun job a => .finish job (.ok a)

/-- Calls a service, and ends with its failure. -/
def call (c : Call) : Routine c.Answer := ask (.call c) >>= ofExcept

/-- Stores the job and settles its history and its charge against the stored copy; ends with the
failure to do so. -/
def persist : Routine Unit := do
  let stored ← ask .reread >>= ofExcept
  ask (.note stored.status)
  ask .store >>= ofExcept
  ask (.charge stored.status) >>= ofExcept

/-- Sets the status of the job in memory. -/
def setStatus (status : Status) : Routine Unit := modify fun job => { job with status }

end Routine

/-- What an executor is told about the run that it works in. -/
structure RunInfo where
  user : Account
  timeout : Span
  pollInterval : Span
deriving DecidableEq, Repr

/-- The executor of a kind. -/
structure Executor where
  kind : Kind
  run : RunInfo → Routine Unit

end WalletTasks
