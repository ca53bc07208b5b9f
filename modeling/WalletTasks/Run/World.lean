import WalletTasks.Billing
import WalletTasks.Limits
import WalletTasks.Run.Call
import WalletTasks.Run.Leases
import WalletTasks.Store
import WalletTasks.Wire.Task

/-!
# The world around a run

The services that runs use, the state that they share, and the one way in which a job is stored.
The services are any functions on a state of their own, so that what holds of all worlds holds
whatever they answer. The world keeps a log of what was asked of them and what they answered.

* `World.reconcile`: stores a job, and settles its history and its charges against the stored one.
-/

namespace WalletTasks

/-- The operations of the store that may fail. -/
inductive StoreCall
  | get
  | update
  | history
  | audit
deriving DecidableEq, Repr

/-- The services around a run, over a state `σ` of their own. Times are nanoseconds from the start.

* `wallClock` is the date and time at a moment.
* `respond` fixes what becomes of a call when it starts.
* `patience` says, when an interruptible request starts, after how long the run will be asked to
  stop, if at all.
* `lag` is how long an operation of the store or a charge keeps its run waiting once it is made.
* `fault?` makes an operation of the store fail. -/
structure Services (σ : Type) where
  limits : Limits
  billing : BillingPolicy
  wallClock : Nat → Instant
  respond : (c : Call) → σ → σ × Response c
  funds : String → σ → σ × Reply FundsError Decimal
  accept : Charge → σ → σ × Reply FundsError Unit
  draw : UInt64 → UInt64 → σ → σ × UInt64
  patience : σ → σ × Option Nat
  lag : σ → σ × Nat
  fault? : StoreCall → σ → σ × Option StoreError

/-- What happened between runs and services. A call is noted when it starts, with what the service
makes of it, and again when its run goes on, with what the run is told; an update of the store is
noted when it succeeds. -/
inductive Event
  | called (time : Nat) (c : Call) (response : Response c)
  | answered (c : Call) (answer : Except TaskError c.Answer)
  | fundsAsked (login : String) (reply : Reply FundsError Decimal)
  | updated (job : Job)
  | charged (charge : Charge)

/-- The state that runs share: the time, the store, the leases, the state of the services, and the
log with its newest event in front. -/
structure World (σ : Type) where
  now : Nat
  store : Store
  leases : Leases
  outside : σ
  log : List Event

namespace World

variable {σ : Type}

/-- Lets time pass up to a moment. -/
def waitUntil (w : World σ) (time : Nat) : World σ := { w with now := max w.now time }

/-- Asks whether an operation of the store fails. -/
def fault? (s : Services σ) (c : StoreCall) (w : World σ) : World σ × Option StoreError :=
  let (outside, e) := s.fault? c w.outside
  ({ w with outside }, e)

/-- Reads a job from the store. -/
def getJob (s : Services σ) (id : Identifier) (w : World σ) : World σ × Except StoreError Job :=
  match w.fault? s .get with
  | (w, some e) => (w, .error e)
  | (w, none) =>
    match w.store.get? id with
    | some job => (w, .ok job)
    | none => (w, .error (Store.missing id))

/-- Updates a job in the store. -/
def updateJob (s : Services σ) (job : Job) (w : World σ) : World σ × Except StoreError Unit :=
  match w.fault? s .update with
  | (w, some e) => (w, .error e)
  | (w, none) =>
    match w.store.update? job with
    | some store => ({ w with store, log := .updated job :: w.log }, .ok ())
    | none => (w, .error (Store.missing job.id))

/-- Writes a change of status to the history; a failure to do so is passed over. -/
def recordStatus (s : Services σ) (before : Status) (job : Job) (w : World σ) : World σ :=
  if before = job.status then w
  else
    match w.fault? s .history with
    | (w, some _) => w
    | (w, none) =>
      { w with store :=
          w.store.record ⟨job.id, before, job.status, job.error, s.wallClock w.now⟩ }

/-- Writes a transaction to the audit list; a failure to do so is passed over. -/
def recordTransaction (s : Services σ) (entry : AuditEntry) (w : World σ) : World σ :=
  match w.fault? s .audit with
  | (w, some _) => w
  | (w, none) => { w with store := w.store.audit entry }

/-- Sends the charge for a job if one is owed. -/
def settleCharge (s : Services σ) (login : String) (before : Status) (job : Job) (w : World σ) :
    World σ × Reply TaskError Unit :=
  if s.billing.chargeOwed before job.status job.task.kind then
    let charge := Charge.ofJob job login
    let (outside, reply) := s.accept charge w.outside
    let w := { w with outside, log := .charged charge :: w.log }
    match reply with
    | .value () => (w, .value ())
    | .error e => (w, .error (.funds e))
    | .crash message => (w, .crash message)
  else (w, .value ())

/-- The job as it is stored: with the description of its task, and the time of the write. -/
def stamp (s : Services σ) (job : Job) (w : World σ) : Job :=
  { job with description := Wire.describe job.task, updatedAt := s.wallClock w.now }

/-- Stores a job and settles its history and its charge against the stored copy: a change of status
is written to the history first, and the charge is sent once the job is stored. Gives back the job
as it is then held, which is stamped unless the stored copy could not be read. -/
def reconcile (s : Services σ) (login : String) (job : Job) (w : World σ) :
    World σ × Job × Reply TaskError Unit :=
  match w.getJob s job.id with
  | (w, .error e) => (w, job, .error (.store e))
  | (w, .ok stored) =>
    -- A history entry stays even if the update below fails.
    let w := w.recordStatus s stored.status job
    let job := w.stamp s job
    match w.updateJob s job with
    | (w, .error e) => (w, job, .error (.store e))
    | (w, .ok ()) =>
      let (w, reply) := w.settleCharge s login stored.status job
      (w, job, reply)

end World

end WalletTasks
