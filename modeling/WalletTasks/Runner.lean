import WalletTasks.Registry
import WalletTasks.Run.Drive

/-!
# The runner

A run takes a job through the executor of its kind: it takes the lease on the job, asks whether the
user can pay, drives the executor against a deadline, and stores what came of it. A job that has
ended comes back untouched. A run that only has to be repeated gives back the job as it is stored;
any other failure is stored with the job before it is given back.

* `beginRun`: everything in front of the executor.
* `endRun`: everything behind it.
* `run`: a run that is alone in the world.
-/

namespace WalletTasks

variable {σ : Type}

/-- Stores a job as failed, and gives back the cause. Not being able to store it is passed over. -/
def failRun (s : Services σ) (user : Account) (job : Job) (e : TaskError) (w : World σ) :
    World σ × Except Fault Job :=
  match w.reconcile s user.login { job with status := .error, error := some e.message } with
  | (w, _, .crash message) => (w, .error (.crash message))
  | (w, _, _) => (w, .error (.error e))

/-- Asks whether a user can pay for a kind. -/
def checkFunds (s : Services σ) (user : Account) (kind : Kind) (w : World σ) :
    World σ × Except Fault Unit :=
  if s.billing.isBillable kind then
    let (outside, reply) := s.funds user.login w.outside
    let w := { w with outside, log := .fundsAsked user.login reply :: w.log }
    match reply with
    | .value funds =>
      if Decimal.lt .zero funds then (w, .ok ()) else (w, .error (.error .noBalance))
    | .error e => (w, .error (.error (.funds e)))
    | .crash message => (w, .error (.crash message))
  else (w, .ok ())

/-- What a run does first: it is over, or its executor is to be driven. -/
inductive Opening
  | over (result : Except Fault Job)
  | underway (session : Session) (program : Program Unit)

/-- What an executor is told about a session. -/
def Session.info (r : Session) (limits : Limits) : RunInfo :=
  ⟨r.user, r.timeout, limits.pollInterval⟩

/-- Everything in front of the executor but the lease. -/
def openRun (s : Services σ) (registry : Registry) (user : Account) (job : Job) (w : World σ) :
    World σ × Opening :=
  match registry.executor job.task.kind with
  | .error e =>
    let (w, result) := failRun s user job e w
    (w, .over result)
  | .ok executor =>
    match checkFunds s user job.task.kind w with
    | (w, .error (.error e)) =>
      let (w, result) := failRun s user job e w
      (w, .over result)
    | (w, .error (.crash message)) => (w, .over (.error (.crash message)))
    | (w, .ok ()) =>
      let timeout := s.limits.timeoutFor job.task.kind
      let session : Session := ⟨user, job.id, timeout, w.now + timeout.nanos⟩
      (w, .underway session (executor.run (session.info s.limits) job))

/-- Everything behind the executor but the lease. -/
def closeRun (s : Services σ) (r : Session) (e : Ending σ Unit) : World σ × Except Fault Job :=
  match e.outcome with
  | .returned (.ok ()) =>
    match e.world.reconcile s r.user.login { e.held with error := none } with
    | (w, job, .value ()) => (w, .ok job)
    | (w, _, .error c) => (w, .error (.error c))
    | (w, _, .crash message) => (w, .error (.crash message))
  | .returned (.error c) =>
    if c.isRetryable then
      match e.world.getJob s e.held.id with
      | (w, .ok job) => (w, .ok job)
      | (w, .error c) => (w, .error (.error (.store c)))
    else failRun s r.user e.held c e.world
  | .crashed message => failRun s r.user e.held (.executionFault message) e.world
  | .dropped => failRun s r.user e.held (.deadlineExceeded r.timeout) e.world

/-- Gives the lease on an identifier back. -/
def World.release (w : World σ) (id : Identifier) : World σ :=
  { w with leases := w.leases.release id }

/-- Starts a run: takes the lease, and does everything in front of the executor. The lease is given
back if that is all. -/
def beginRun (s : Services σ) (registry : Registry) (user : Account) (job : Job) (w : World σ) :
    World σ × Opening :=
  if job.status.isTerminal then (w, .over (.ok job))
  else
    match w.leases.acquire? job.id with
    | none => (w, .over (.error (.error (.alreadyRunning job.id))))
    | some leases =>
      match openRun s registry user job { w with leases } with
      | (w, .over result) => (w.release job.id, .over result)
      | (w, .underway session program) => (w, .underway session program)

/-- Ends a run: does everything behind the executor, and gives the lease back. -/
def endRun (s : Services σ) (r : Session) (e : Ending σ Unit) : World σ × Except Fault Job :=
  let (w, result) := closeRun s r e
  (w.release r.lease, result)

/-- Runs a job for a user. -/
def run (s : Services σ) (registry : Registry) (user : Account) (job : Job) (w : World σ) :
    World σ × Except Fault Job :=
  match beginRun s registry user job w with
  | (w, .over result) => (w, result)
  | (w, .underway session program) => endRun s session (drive s session program w)

end WalletTasks
