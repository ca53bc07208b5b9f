import WalletTasks.Run.Program
import WalletTasks.Run.World

/-!
# Driving a program through the world

A request of a program is started, and then either over at once or waited for. A request that can
be interrupted is answered with the cause of the interruption instead, if the run has been asked to
stop or its deadline has passed: the first of the three that comes wins, and of two that come at
one moment a stop wins over the deadline, and the deadline over the answer. What cannot be
interrupted is waited for up to the backstop, a little behind the deadline, where a program that is
still waiting is dropped.

* `World.start`: what becomes of a request when it starts.
* `World.perform`: what becomes of it in the end, when its run is alone in the world.
* `drive`: runs a program to its end.
* `drive_andThen`: a program made of two is driven through one after the other.
-/

namespace WalletTasks

/-- How long behind its deadline a program is dropped: one second. -/
def grace : Nat := 1000000000

/-- A run of a task: whom it is for, the lease that it holds, and when it has to end. -/
structure Session where
  user : Account
  lease : Identifier
  timeout : Span
  deadline : Nat
deriving DecidableEq, Repr

/-- When a program that is still waiting is dropped. -/
def Session.backstop (r : Session) : Nat := r.deadline + grace

/-- What a program is told at the end of a request: the answer, or the crash of a service. -/
inductive Verdict (α : Type)
  | answer (a : α)
  | crash (message : String)

/-- What becomes of a request when it starts: it is over, or it is over at a known moment unless it
is interrupted before. -/
inductive Started (α : Type)
  | over (v : Verdict α)
  | waiting (due : Nat) (v : Verdict α)

/-- A request that is over after a delay. -/
def Started.after {α : Type} (now delay : Nat) (v : Verdict α) : Started α :=
  if delay = 0 then .over v else .waiting (now + delay) v

/-- The verdict on a call. -/
def Verdict.ofReply (c : Call) : Reply c.Failure c.Answer → Verdict (Except TaskError c.Answer)
  | .value a => .answer (.ok a)
  | .error e => .answer (.error (c.cause e))
  | .crash message => .crash message

/-- The verdict on a charge. -/
def Verdict.ofCharge : Reply TaskError Unit → Verdict (Except TaskError Unit)
  | .value () => .answer (.ok ())
  | .error e => .answer (.error e)
  | .crash message => .crash message

namespace World

variable {σ : Type}

/-- Asks the run that holds an identifier to stop. -/
def stop (w : World σ) (id : Identifier) : World σ := { w with leases := w.leases.cancel id }

/-- Why an interruptible request of a run must not start or go on, if there is a reason. -/
def interruption? (w : World σ) (r : Session) : Option TaskError :=
  if w.leases.isCancelled r.lease then some .cancelled
  else if r.deadline ≤ w.now then some (.deadlineExceeded r.timeout)
  else none

/-- Starts a call. -/
def startCall (s : Services σ) (c : Call) (w : World σ) :
    World σ × Started (Except TaskError c.Answer) :=
  let (outside, response) := s.respond c w.outside
  ({ w with outside, log := .called w.now c response :: w.log },
    .after w.now response.delay (.ofReply c response.reply))

/-- How long an operation of the store or a charge keeps its run waiting. -/
def lag (s : Services σ) (w : World σ) : World σ × Nat :=
  let (outside, delay) := s.lag w.outside
  ({ w with outside }, delay)

/-- Starts a request that is not interrupted. -/
def startRequest (s : Services σ) (r : Session) (held : Job) (w : World σ) :
    (q : Request) → World σ × Job × Started q.Answer
  | .call c =>
    let (w, started) := w.startCall s c
    (w, held, started)
  | .sleep duration => (w, held, .after w.now duration (.answer (.ok ())))
  | .pause duration => (w, held, .after w.now duration (.answer ()))
  | .reread =>
    let (w, stored) := w.getJob s held.id
    let (w, delay) := w.lag s
    (w, held, .after w.now delay (.answer (stored.mapError .store)))
  | .note before =>
    if before = held.status then (w, held, .over (.answer ()))
    else
      let (w, delay) := (w.recordStatus s before held).lag s
      (w, held, .after w.now delay (.answer ()))
  | .store =>
    let held := w.stamp s held
    let (w, reply) := w.updateJob s held
    let (w, delay) := w.lag s
    (w, held, .after w.now delay (.answer (reply.mapError .store)))
  | .charge before =>
    if s.billing.chargeOwed before held.status held.task.kind then
      let (w, reply) := w.settleCharge s r.user.login before held
      let (w, delay) := w.lag s
      (w, held, .after w.now delay (.ofCharge reply))
    else (w, held, .over (.answer (.ok ())))
  | .audit entry =>
    let (w, delay) := (w.recordTransaction s entry).lag s
    (w, held, .after w.now delay (.answer ()))
  | .clock => (w, held, .over (.answer (s.wallClock w.now)))
  | .draw least most =>
    let (outside, n) := s.draw least most w.outside
    ({ w with outside }, held, .over (.answer n))
  | .remaining => (w, held, .over (.answer (r.deadline - w.now)))
  | .isCancelled => (w, held, .over (.answer (w.leases.isCancelled r.lease)))

/-- Starts a request, unless it can be interrupted and there is a reason to. -/
def start (s : Services σ) (r : Session) (held : Job) (w : World σ) (q : Request) :
    World σ × Job × Started q.Answer :=
  match (w.interruption? r).bind q.interrupted? with
  | some a => (w, held, .over (.answer a))
  | none => w.startRequest s r held q

/-- Waits for what is over at a moment: a request that can be interrupted ends there, at the
deadline, or when the run is asked to stop; any other ends there or is dropped at the backstop, for
which there is no verdict. -/
def await (r : Session) (stopAt : Option Nat) (q : Request) (due : Nat) (v : Verdict q.Answer)
    (w : World σ) : World σ × Option (Verdict q.Answer) :=
  match q.interrupted? .cancelled, q.interrupted? (.deadlineExceeded r.timeout) with
  | some cancelled, some exceeded =>
    let limit := min due r.deadline
    -- Of events at one moment, a stop wins over the deadline, and the deadline over the answer.
    match stopAt.filter (· ≤ limit) with
    | some time => ((w.waitUntil time).stop r.lease, some (.answer cancelled))
    | none =>
      (w.waitUntil limit, some (if r.deadline ≤ due then .answer exceeded else v))
  | _, _ =>
    if due ≤ r.backstop then (w.waitUntil due, some v) else (w.waitUntil r.backstop, none)

/-- Asks when the run will be asked to stop, and stops it if that is now. -/
def consult (s : Services σ) (r : Session) (q : Request) (w : World σ) :
    World σ × Option Nat :=
  if q.isInterruptible then
    let (outside, patience) := s.patience w.outside
    let w := { w with outside }
    (if patience = some 0 then w.stop r.lease else w, patience.map (w.now + ·))
  else (w, none)

/-- Performs a request of a run that is alone in the world. There is no verdict if the program is
dropped. -/
def perform (s : Services σ) (r : Session) (held : Job) (w : World σ) (q : Request) :
    World σ × Job × Option (Verdict q.Answer) :=
  let (w, stopAt) := w.consult s r q
  match w.start s r held q with
  | (w, held, .over v) => (w, held, some v)
  | (w, held, .waiting due v) =>
    let (w, v) := w.await r stopAt q due v
    (w, held, v)

/-- Notes what a run is told about a call. -/
def hear (w : World σ) : (q : Request) → q.Answer → World σ
  | .call c, a => { w with log := .answered c a :: w.log }
  | _, _ => w

end World

/-- How the program of an executor ends: with a result, by a crash, or because it was dropped. -/
inductive Outcome (α : Type)
  | returned (result : Except TaskError α)
  | crashed (message : String)
  | dropped
deriving Repr

/-- The world behind a program, the job as the program held it, and how it ended. -/
structure Ending (σ α : Type) where
  world : World σ
  held : Job
  outcome : Outcome α

variable {σ α β : Type}

/-- Runs a program to its end. -/
def drive (s : Services σ) (r : Session) : Program α → World σ → Ending σ α
  | .finish held result, w => ⟨w, held, .returned result⟩
  | .crash held message, w => ⟨w, held, .crashed message⟩
  | .stall held, w => ⟨w.waitUntil r.backstop, held, .dropped⟩
  | .ask held q next, w =>
    match w.perform s r held q with
    | (w, held, some (.answer a)) => drive s r (next held a) (w.hear q a)
    | (w, held, some (.crash message)) => ⟨w, held, .crashed message⟩
    | (w, held, none) => ⟨w, held, .dropped⟩

/-- What follows a program that has ended with a value. -/
def Ending.andThen (e : Ending σ α) (f : Job → α → World σ → Ending σ β) : Ending σ β :=
  match e.outcome with
  | .returned (.ok a) => f e.held a e.world
  | .returned (.error c) => ⟨e.world, e.held, .returned (.error c)⟩
  | .crashed message => ⟨e.world, e.held, .crashed message⟩
  | .dropped => ⟨e.world, e.held, .dropped⟩

theorem drive_andThen (s : Services σ) (r : Session) (p : Program α) (f : Job → α → Program β)
    (w : World σ) :
    drive s r (p.andThen f) w =
      (drive s r p w).andThen fun held a w => drive s r (f held a) w := by
  induction p generalizing w with
  | finish held result => cases result <;> rfl
  | crash held message => rfl
  | stall held => rfl
  | ask held q next ih =>
    simp only [Program.andThen, drive]
    split
    · exact ih _ _ _
    · rfl
    · rfl

end WalletTasks
