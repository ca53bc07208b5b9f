import WalletTasks.Proofs.Dropping
import WalletTasks.Proofs.Pending
import WalletTasks.Proofs.Unread

/-!
# How an executor comes to its first write

What an executor does with a ready job, in front of the first time that it stores the job, is
little: it may ask for the time and for a random number, and then it fails, or it sets the status
and stores the job. It does the same with a job set to be retried, but for the status, which is
overwritten.

* `drive_undergo`: a program waits for what cannot be interrupted.
* `Program.persist_andThen`: the requests by which a job is stored, and what follows them.
* `Program.Alike`: two programs that come to the first write alike.
* `Executor.standard_alike`: an executor makes such programs of a ready job and of one set to be
  retried.
-/

namespace WalletTasks

variable {σ α : Type}

/-- The job set to be retried. -/
def Job.retried (job : Job) : Job := { job with status := .retry }

/-! ## Waiting for what cannot be interrupted -/

section

variable {s : Services σ} {r : Session} {w : World σ} {held : Job}

namespace World

/-- Waits as long as an operation of the store takes: the world behind the wait, and whether it is
over before the backstop. -/
def undergo (s : Services σ) (r : Session) (w : World σ) : World σ × Bool :=
  let (w, delay) := w.lag s
  if delay = 0 ∨ w.now + delay ≤ r.backstop then (w.waitUntil (w.now + delay), true)
  else (w.waitUntil r.backstop, false)

theorem perform_undergo {q : Request} (hq : q.isInterruptible = false) {held held₁ : Job}
    {w₁ : World σ} {a : q.Answer}
    (hstart : w.startRequest s r held q =
      ((w₁.lag s).1, held₁, .after w₁.now (w₁.lag s).2 (.answer a))) :
    w.perform s r held q =
      ((w₁.undergo s r).1, held₁, if (w₁.undergo s r).2 then some (.answer a) else none) := by
  have hnow : (w₁.lag s).1.now = w₁.now := rfl
  simp only [perform_eq_of_uninterruptible hq, hstart, Started.after, undergo, hnow]
  by_cases hdelay : (w₁.lag s).2 = 0
  · have hwait : (w₁.lag s).1.waitUntil w₁.now = (w₁.lag s).1 := by
      rw [← hnow]
      simp [waitUntil]
    simp [hdelay, hwait]
  · simp only [hdelay, if_false, false_or]
    split <;> rfl

/-- The stored copy is read, and that takes the time that the store lags behind. -/
theorem startRequest_reread {held stored : Job} (h : (w.getJob s held.id).2 = .ok stored) :
    w.startRequest s r held .reread =
      (((w.getJob s held.id).1.lag s).1, held,
        .after (w.getJob s held.id).1.now ((w.getJob s held.id).1.lag s).2
          (.answer (.ok stored))) := by
  simp only [startRequest, h]
  rfl

/-- So does a change of status that is noted. -/
theorem startRequest_note {held : Job} {before : Status} (h : before ≠ held.status) :
    w.startRequest s r held (.note before) =
      (((w.recordStatus s before held).lag s).1, held,
        .after (w.recordStatus s before held).now ((w.recordStatus s before held).lag s).2
          (.answer ())) := by
  simp only [startRequest, if_neg h]
  rfl

/-- And so does the job that is written. -/
theorem startRequest_store {held : Job} (h : (w.updateJob s (w.stamp s held)).2 = .ok ()) :
    w.startRequest s r held .store =
      (((w.updateJob s (w.stamp s held)).1.lag s).1, w.stamp s held,
        .after (w.updateJob s (w.stamp s held)).1.now
          ((w.updateJob s (w.stamp s held)).1.lag s).2 (.answer (.ok ()))) := by
  simp only [startRequest, h]
  rfl

end World

/-- Waiting leaves the store and the log as they are. -/
theorem World.undergo_frame (s : Services σ) (r : Session) (w : World σ) :
    (w.undergo s r).1.store = w.store ∧ (w.undergo s r).1.log = w.log := by
  unfold undergo
  dsimp only [lag]
  split <;> exact ⟨rfl, rfl⟩

/-- A program waits for a request that cannot be interrupted, and goes on or is dropped. -/
theorem drive_undergo {q : Request} (hq : q.isInterruptible = false) {held₁ : Job}
    {w₁ : World σ} {a : q.Answer} (next : Job → q.Answer → Program α)
    (hstart : w.startRequest s r held q =
      ((w₁.lag s).1, held₁, .after w₁.now (w₁.lag s).2 (.answer a))) :
    drive s r (.ask held q next) w =
        (if (w₁.undergo s r).2 then drive s r (next held₁ a) (w₁.undergo s r).1
        else ⟨(w₁.undergo s r).1, held₁, .dropped⟩) ∧
      ∀ c, (Program.ask held q next).isDroppedAt c s r w =
        if (w₁.undergo s r).2 then (next held₁ a).isDroppedAt c s r (w₁.undergo s r).1
        else c q := by
  simp only [drive, Program.isDroppedAt, World.perform_undergo hq hstart]
  cases (w₁.undergo s r).2 with
  | false => exact ⟨rfl, fun _ => rfl⟩
  | true => simp only [if_true, World.hear_eq hq, and_self, implies_true]

/-- What holds where a program is dropped at a request that cannot be interrupted, and behind what
follows the request, holds behind the program; it is not dropped at a request of a class. -/
theorem drive_undergo_of {c : Request → Bool} {q : Request} (hq : q.isInterruptible = false)
    {held₁ : Job} {w₁ : World σ} {a : q.Answer} {next : Job → q.Answer → Program α}
    {Q : World σ → Prop}
    (hstart : w.startRequest s r held q =
      ((w₁.lag s).1, held₁, .after w₁.now (w₁.lag s).2 (.answer a)))
    (hcut : (Program.ask held q next).isDroppedAt c s r w = false)
    (hdropped : c q = false → Q (w₁.undergo s r).1)
    (hnext : (next held₁ a).isDroppedAt c s r (w₁.undergo s r).1 = false →
      Q (drive s r (next held₁ a) (w₁.undergo s r).1).world) :
    Q (drive s r (.ask held q next) w).world := by
  obtain ⟨hdrive, hclass⟩ := drive_undergo hq next hstart
  rw [hclass c] at hcut
  rw [hdrive]
  split
  · rename_i hback
    rw [if_pos hback] at hcut
    exact hnext hcut
  · rename_i hback
    rw [if_neg hback] at hcut
    exact hdropped hcut

end

/-! ## The first write -/

/-- What follows a program that stores a job. -/
theorem Program.persist_andThen (job : Job) (f : Job → Unit → Program α) :
    (Routine.persist job).andThen f = .ask job .reread fun job (a : Except TaskError Job) =>
      match a with
      | .error e => .finish job (.error e)
      | .ok stored => .ask job (.note stored.status) fun job _ =>
        .ask job .store fun job (a : Except TaskError Unit) =>
          match a with
          | .error e => .finish job (.error e)
          | .ok _ => .ask job (.charge stored.status) fun job (a : Except TaskError Unit) =>
            match a with
            | .error e => .finish job (.error e)
            | .ok a => f job a := by
  refine congrArg (Program.ask job .reread) (funext fun job => funext fun a => ?_)
  cases a with
  | error e => rfl
  | ok stored =>
    refine congrArg (Program.ask job (.note stored.status)) (funext fun job => funext fun _ => ?_)
    refine congrArg (Program.ask job .store) (funext fun job => funext fun a => ?_)
    cases a with
    | error e => rfl
    | ok _ =>
      refine congrArg (Program.ask job (.charge stored.status))
        (funext fun job => funext fun a => ?_)
      cases a <;> rfl

theorem Program.andThen_finish (p : Program α) :
    (p.andThen fun job a => .finish job (.ok a)) = p := by
  induction p with
  | finish held result => cases result <;> rfl
  | crash | stall => rfl
  | ask held q next ih => exact congrArg _ (funext fun job => funext fun a => ih job a)

/-- A request that is answered at once, whatever is stored. -/
def Request.isImmediate : Request → Bool
  | clock | draw .. => true
  | _ => false

/-- What is answered at once leaves no time for an interruption. -/
theorem Request.isInterruptible_of_isImmediate {q : Request} (h : q.isImmediate = true) :
    q.isInterruptible = false := by
  cases q <;> first | rfl | cases h

/-- Two programs come to the first write alike: until then they ask for the same and hold the same
but for the status, and there both hold the job of an identifier and a kind, set to running or to
done. -/
inductive Program.Alike (id : Identifier) (kind : Kind) : Program Unit → Program Unit → Prop
  | persisting (job : Job) (hid : job.id = id) (hkind : job.task.kind = kind)
    (hstatus : job.status = .running ∨ job.status = .done) (f : Job → Unit → Program Unit) :
    Alike id kind ((Routine.persist job).andThen f) ((Routine.persist job).andThen f)
  | failing {held held' : Job} {e : TaskError} (hid : held.id = id)
    (hheld : held'.retried = held.retried) (he : e.isRetryable = false) :
    Alike id kind (.finish held (.error e)) (.finish held' (.error e))
  | crashing {held held' : Job} {message : String} (hid : held.id = id)
    (hheld : held'.retried = held.retried) :
    Alike id kind (.crash held message) (.crash held' message)
  | asking {held held' : Job} {q : Request} {next next' : Job → q.Answer → Program Unit}
    (hq : q.isImmediate = true) (hnext : ∀ a, Alike id kind (next held a) (next' held' a)) :
    Alike id kind (.ask held q next) (.ask held' q next')

section

variable {s : Services σ} {r : Session}

/-- The answer to such a request does not depend on the store, nor on the job that is held. -/
theorem World.perform_immediate {q : Request} (hq : q.isImmediate = true) (w : World σ) :
    ∃ (w₁ : World σ) (a : q.Answer), w₁.store = w.store ∧ w₁.log = w.log ∧
      ∀ (held : Job) (g : Store → Store),
        (w.mapStore g).perform s r held q = (w₁.mapStore g, held, some (.answer a)) := by
  cases q with
  | clock =>
    refine ⟨w, s.wallClock w.now, rfl, rfl, fun held g => ?_⟩
    rw [perform_eq_of_uninterruptible rfl]
    rfl
  | draw least most =>
    refine ⟨{ w with outside := (s.draw least most w.outside).1 },
      (s.draw least most w.outside).2, rfl, rfl, fun held g => ?_⟩
    rw [perform_eq_of_uninterruptible rfl]
    rfl
  | _ => cases hq

end

/-! ## The executors -/

namespace Executor

open Routine

variable {info : RunInfo} {job : Job} {d : Delay} {v : Vote} {action : Action}
  {footprint : Option Footprint}

/-- A mock writes the job at once. -/
theorem mock_run_eq {kind : Kind} (job : Job) (hopen : job.status.isTerminal = false)
    (hpayload : job.task.payload = .mock) :
    (mock kind).run info job =
      Program.andThen (persist job.done) fun held a => .finish held (.ok a) := by
  have hpay : job.task.payloadAs .mock = .ok .mock := Task.payloadAs_of_eq hpayload
  rw [Program.andThen_finish]
  show (if job.status.isTerminal then pure () else
    ofExcept (job.task.payloadAs .mock) >>= fun _ => setStatus .done >>= fun _ => persist :
    Routine Unit) job = _
  rw [hopen, hpay]
  rfl

/-- A vote writes that the job is running before anything else. -/
theorem vote_run_eq (job : Job) (hopen : job.status.isTerminal = false)
    (hpayload : job.task.payload = .vote v) :
    vote.run info job = Program.andThen (persist job.running) fun held _ =>
      (do
        if v.receipt.isNone then castVote job v
        setStatus .done
        persist : Routine Unit) held := by
  have hpay : job.task.payloadAs .vote = .ok (.vote v) := Task.payloadAs_of_eq hpayload
  show (if job.status.isTerminal then pure () else
    ofExcept (job.task.payloadAs .vote) >>= _ : Routine Unit) job = _
  rw [hopen, hpay]
  rfl

/-- A transaction is written to be running before the chain is reached. -/
theorem lifecycle_run_eq (kind : Kind) (job : Job) (hkind : job.task.kind = kind)
    (hopen : job.status.isTerminal = false)
    (hpayload : job.task.payload = .chain action footprint) :
    (lifecycle kind).run info job = Program.andThen (persist job.running) fun held _ =>
      (do
        let (attempt, settings) ← Attempt.reach kind action
        if footprint.isNone then attempt.submit settings
        attempt.wait info.pollInterval
        settle : Routine Unit) held := by
  have hpay : job.task.payloadAs kind.shape = .ok (.chain action footprint) := by
    rw [← hkind, ← job.task.shape_payload, hpayload]
    exact Task.payloadAs_of_eq hpayload
  show (if job.status.isTerminal then pure () else
    ofExcept (job.task.payloadAs kind.shape) >>= _ : Routine Unit) job = _
  rw [hopen, hpay]
  rfl

/-- A delay is the one kind that asks for something before its first write: for what its end depends
on. -/
theorem delay_run_eq (job : Job) (hopen : job.status.isTerminal = false)
    (hpayload : job.task.payload = .delay d) :
    delay.run info job = Program.andThen (waitUntil d job) fun held t =>
      Program.andThen (persist held.running) fun held _ =>
        (do
          let now ← ask .clock
          let slept ← ask (.sleep (now.nanosUntil t))
          ofExcept (slept.mapError delayInterrupted)
          setStatus .done
          persist : Routine Unit) held := by
  have hpay : job.task.payloadAs .delay = .ok (.delay d) := Task.payloadAs_of_eq hpayload
  show (if job.status.isTerminal then pure () else
    ofExcept (job.task.payloadAs .delay) >>= _ : Routine Unit) job = _
  rw [hopen, hpay]
  rfl

/-- What fixes the instant at which a delay ends, once it is known how long the delay is. -/
def fixEnd (seconds : UInt64) : Routine Instant := do
  let now ← ask .clock
  let t ← ofFault (Delay.endOf seconds now)
  modify (Job.mapPayload (.withWaitUntil t) (Payload.shape_withWaitUntil t))
  pure t

/-- The instant at which a delay ends is fixed in the same way whatever the status of the job. -/
theorem waitUntil_alike {id : Identifier} {kind : Kind} {held held' : Job} (hid : held.id = id)
    (hkind : held.task.kind = kind) (hheld : held'.retried = held.retried)
    {k : Job → Instant → Program Unit}
    (hk : ∀ held held' t, held.id = id → held.task.kind = kind → held'.retried = held.retried →
      Program.Alike id kind (k held t) (k held' t)) :
    Program.Alike id kind (Program.andThen (waitUntil d held) k)
      (Program.andThen (waitUntil d held') k) := by
  unfold waitUntil
  cases d.waitUntil with
  | some t => exact hk held held' t hid hkind hheld
  | none =>
    -- a wait that is drawn and one that is not go on alike
    have hrest : ∀ seconds, Program.Alike id kind (Program.andThen (fixEnd seconds held) k)
        (Program.andThen (fixEnd seconds held') k) := by
      intro seconds
      refine .asking (q := .clock) rfl fun now => ?_
      show Program.Alike id kind
        (Program.andThen (Program.andThen (ofFault (Delay.endOf seconds now) held) _) k)
        (Program.andThen (Program.andThen (ofFault (Delay.endOf seconds now) held') _) k)
      cases hend : Delay.endOf seconds now with
      | error fault =>
        cases fault with
        | error e =>
          have hfigures := isOfFigures_of_endOf hend
          exact .failing hid hheld (TaskError.isRetryable_of_isOfFigures hfigures)
        | crash message => exact .crashing hid hheld
      | ok t =>
        refine hk _ _ t hid hkind ?_
        exact congrArg (Job.mapPayload (.withWaitUntil t) (Payload.shape_withWaitUntil t)) hheld
    show Program.Alike id kind (Program.andThen (Program.andThen (ofExcept d.bounds held) _) k)
      (Program.andThen (Program.andThen (ofExcept d.bounds held') _) k)
    cases hbounds : d.bounds with
    | error e =>
      have hfigures := isOfFigures_of_bounds hbounds
      exact .failing hid hheld (TaskError.isRetryable_of_isOfFigures hfigures)
    | ok range =>
      cases range with
      | none => exact hrest d.seconds
      | some range => exact .asking (q := .draw range.least range.most) rfl hrest

theorem mock_alike {kind : Kind} (hready : job.status = .ready)
    (hpayload : job.task.payload = .mock) :
    Program.Alike job.id job.task.kind ((mock kind).run info job)
      ((mock kind).run info job.retried) := by
  rw [mock_run_eq job (by rw [hready]; rfl) hpayload, mock_run_eq job.retried rfl hpayload]
  exact .persisting job.done rfl rfl (.inr rfl) _

theorem vote_alike (hready : job.status = .ready) (hpayload : job.task.payload = .vote v) :
    Program.Alike job.id job.task.kind (vote.run info job) (vote.run info job.retried) := by
  rw [vote_run_eq job (by rw [hready]; rfl) hpayload, vote_run_eq job.retried rfl hpayload]
  exact .persisting job.running rfl rfl (.inl rfl) _

theorem lifecycle_alike (hready : job.status = .ready)
    (hpayload : job.task.payload = .chain action footprint) :
    Program.Alike job.id job.task.kind ((lifecycle job.task.kind).run info job)
      ((lifecycle job.task.kind).run info job.retried) := by
  rw [lifecycle_run_eq _ job rfl (by rw [hready]; rfl) hpayload,
    lifecycle_run_eq job.task.kind job.retried rfl rfl hpayload]
  exact .persisting job.running rfl rfl (.inl rfl) _

theorem delay_alike (hready : job.status = .ready) (hpayload : job.task.payload = .delay d) :
    Program.Alike job.id job.task.kind (delay.run info job) (delay.run info job.retried) := by
  rw [delay_run_eq job (by rw [hready]; rfl) hpayload, delay_run_eq job.retried rfl hpayload]
  have hretried : job.retried.retried = job.retried := rfl
  refine waitUntil_alike rfl rfl hretried fun held held' t hid hkind hheld => ?_
  have hretrying : held'.retried.running = held.retried.running := by rw [hheld]
  have hrunning : held'.running = held.running := hretrying
  rw [hrunning]
  exact .persisting held.running hid hkind (.inl rfl) _

/-- **An executor comes to its first write alike** with a ready job and with one set to be
retried. -/
theorem standard_alike (hready : job.status = .ready) :
    Program.Alike job.id job.task.kind ((standard job.task.kind).run info job)
      ((standard job.task.kind).run info job.retried) := by
  have hshape := job.task.shape_payload
  -- the payload says which of the executors it is
  cases hpayload : job.task.payload with
  | delay d =>
    have hkind : standard job.task.kind = .delay := by
      unfold standard; rw [← hshape, hpayload]; rfl
    rw [hkind]
    exact delay_alike hready hpayload
  | mock =>
    have hkind : standard job.task.kind = .mock job.task.kind := by
      unfold standard; rw [← hshape, hpayload]; rfl
    rw [hkind]
    exact mock_alike hready hpayload
  | vote v =>
    have hkind : standard job.task.kind = .vote := by
      unfold standard; rw [← hshape, hpayload]; rfl
    rw [hkind]
    exact vote_alike hready hpayload
  | chain action footprint =>
    rw [standard_of_chain hpayload]
    exact lifecycle_alike hready hpayload

end Executor

end WalletTasks
