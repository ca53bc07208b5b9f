import WalletTasks.Proofs.Advancing
import WalletTasks.Proofs.Keeping

/-!
# The causes that a program fails with

A program fails with a cause that it was told, by a service, by the store or by an interruption, or
with one of its own. The causes of its own are few; that a payload has another shape than its
executor expects is one of them, but only in front of everything else.

* `drive_failsOnly`: whatever the services answer, a program fails only with a cause of its class.
* `Executor.standard_failsOnly`: the executor of a job's kind finds the payload that it expects.
* `run_matches`: no run fails over the shape of a payload.
-/

namespace WalletTasks

variable {σ α β : Type}

namespace TaskError

/-- Whether a payload had another shape than was expected. -/
def isMismatch : TaskError → Bool
  | payloadMismatch .. => true
  | _ => false

/-- Whether a cause comes from the services, from the store or from an interruption. -/
def isOutward : TaskError → Bool
  | cancelled | deadlineExceeded _ | chain _ | store _ | funds _ | profile _ => true
  | _ => false

variable {e : TaskError}

/-- An interruption comes from outside of the job. -/
theorem isOutward_of_isInterruption (h : e.IsInterruption) : e.isOutward = true := by
  obtain rfl | ⟨timeout, rfl⟩ := h <;> rfl

theorem isMismatch_of_isOutward (h : e.isOutward = true) : e.isMismatch = false := by
  cases e <;> first | rfl | cases h

theorem isMismatch_of_isOfFigures (h : e.isOfFigures = true) : e.isMismatch = false := by
  cases e <;> first | rfl | cases h

end TaskError

/-- What a call of a service fails with comes from outside. -/
theorem Call.isOutward_cause (c : Call) (e : c.Failure) : (c.cause e).isOutward = true := by
  cases c <;> rfl

/-! ## What a program is told -/

namespace Request

/-- The cause of failure that an answer holds. -/
def cause? : (q : Request) → q.Answer → Option TaskError
  | call _, .error e | sleep _, .error e | reread, .error e | store, .error e
  | charge _, .error e => some e
  | _, _ => none

theorem cause?_of_interrupted? {q : Request} {e : TaskError} {a : q.Answer}
    (h : q.interrupted? e = some a) : q.cause? a = some e := by
  cases q with
  | call | sleep => cases h; rfl
  | _ => cases h

end Request

namespace World

variable {s : Services σ} {r : Session} {w : World σ} {held : Job} {q : Request} {a : q.Answer}
  {e : TaskError}

/-- The answer to a request can only name a cause that comes from outside. -/
theorem isOutward_startRequest
    (h : (w.startRequest s r held q).2.2.verdict = .answer a) (hc : q.cause? a = some e) :
    e.isOutward = true := by
  -- only calls, charges and the store are answered with a cause of their own
  cases q with
  | call c =>
    simp only [startRequest, startCall, Started.verdict_after] at h
    cases hreply : (s.respond c w.outside).2.reply with
    | value b => rw [hreply] at h; cases h; cases hc
    | error f => rw [hreply] at h; cases h; cases hc; exact c.isOutward_cause f
    | crash message => rw [hreply] at h; cases h
  | sleep duration =>
    simp only [startRequest, Started.verdict_after] at h
    cases h
    cases hc
  | reread =>
    simp only [startRequest, Started.verdict_after] at h
    cases hget : (w.getJob s held.id).2 with
    | error f => rw [hget] at h; cases h; cases hc; rfl
    | ok job => rw [hget] at h; cases h; cases hc
  | store =>
    simp only [startRequest, Started.verdict_after] at h
    cases hput : (w.updateJob s (w.stamp s held)).2 with
    | error f => rw [hput] at h; cases h; cases hc; rfl
    | ok _ => rw [hput] at h; cases h; cases hc
  | charge before =>
    simp only [startRequest] at h
    split at h
    · obtain ⟨outside, reply, hcharge, -, hfunds⟩ :=
        settleCharge_eq (s := s) (w := w) r.user.login before held
      simp only [hcharge, Started.verdict_after] at h
      cases reply with
      | value _ => cases h; cases hc
      | error c =>
        cases h
        cases hc
        obtain ⟨f, rfl⟩ := hfunds e rfl
        rfl
      | crash message => cases h
    · cases h
      cases hc
  | _ => cases hc

/-- The wait for a request ends with its verdict or with an interruption. -/
theorem await_eq_some {stopAt : Option Nat} {due : Nat} {v v' : Verdict q.Answer}
    (h : (w.await r stopAt q due v).2 = some v') :
    v' = v ∨ ∃ e a, e.IsInterruption ∧ q.interrupted? e = some a ∧ v' = .answer a := by
  unfold await at h
  split at h
  · rename_i cancelled exceeded hcancelled hexceeded
    dsimp only at h
    split at h
    · cases h
      exact .inr ⟨_, _, .inl rfl, hcancelled, rfl⟩
    · split at h
      · cases h
        exact .inr ⟨_, _, .inr ⟨_, rfl⟩, hexceeded, rfl⟩
      · cases h
        exact .inl rfl
  · split at h
    · cases h
      exact .inl rfl
    · cases h

/-- **A program is told only causes that come from outside.** -/
theorem isOutward_perform (h : (w.perform s r held q).2.2 = some (.answer a))
    (hc : q.cause? a = some e) : e.isOutward = true := by
  have hinterrupted : ∀ c b, c.IsInterruption → q.interrupted? c = some b → b = a →
      e.isOutward = true := by
    rintro c b hinterruption hb rfl
    rw [Request.cause?_of_interrupted? hb] at hc
    cases hc
    exact TaskError.isOutward_of_isInterruption hinterruption
  unfold perform start at h
  generalize w.consult s r q = consulted at h
  obtain ⟨w₁, stopAt⟩ := consulted
  dsimp only at h
  -- interrupted before it started, while it waited, or answered
  cases hi : (w₁.interruption? r).bind q.interrupted? with
  | some b =>
    rw [hi] at h
    cases h
    obtain ⟨c, hinterruption, hb⟩ := Option.bind_eq_some_iff.1 hi
    exact hinterrupted c a (isInterruption_of_interruption? hinterruption) hb rfl
  | none =>
    rw [hi] at h
    have hstart (h : (w₁.startRequest s r held q).2.2.verdict = .answer a) : e.isOutward = true :=
      isOutward_startRequest h hc
    generalize w₁.startRequest s r held q = started at h hstart
    obtain ⟨w₂, held₂, v | ⟨due, v⟩⟩ := started
    · cases h
      exact hstart rfl
    · obtain rfl | ⟨c, b, hinterruption, hb, hv⟩ := await_eq_some h
      · exact hstart rfl
      · cases hv
        exact hinterrupted c a hinterruption hb rfl

end World

/-! ## Programs that fail only in some ways -/

/-- A program fails only with causes of a class, as long as it is told only such causes. -/
def Program.FailsOnly (ok : TaskError → Prop) : Program α → Prop
  | finish _ (.error e) => ok e
  | finish _ (.ok _) | crash .. | stall _ => True
  | ask _ q next => ∀ job a, (∀ e, q.cause? a = some e → ok e) → (next job a).FailsOnly ok

/-- A program that goes on in another one fails only for the causes of both. -/
theorem Program.FailsOnly.andThen {ok : TaskError → Prop} {p : Program α}
    {f : Job → α → Program β} (h : p.FailsOnly ok) (hf : ∀ job a, (f job a).FailsOnly ok) :
    (p.andThen f).FailsOnly ok := by
  induction p with
  | finish held result =>
    cases result with
    | error e => exact h
    | ok a => exact hf held a
  | crash | stall => trivial
  | ask held q next ih => exact fun job a ha => ih job a (h job a ha)

/-- **A driven program fails only with causes of its class**, if all that come from outside are. -/
theorem drive_failsOnly {ok : TaskError → Prop} (hok : ∀ e, e.isOutward = true → ok e)
    {s : Services σ} {r : Session} {p : Program α} {w : World σ} (h : p.FailsOnly ok)
    {e : TaskError} (he : (drive s r p w).outcome = .returned (.error e)) : ok e := by
  induction p generalizing w with
  | finish held result =>
    cases result with
    | error c => cases he; exact h
    | ok a => cases he
  | crash | stall => cases he
  | ask held q next ih =>
    simp only [drive] at he
    rcases hp : w.perform s r held q with ⟨w', held', _ | a | message⟩
    all_goals rw [hp] at he
    · cases he
    · exact ih held' a (h held' a fun c hc => hok c (World.isOutward_perform (by rw [hp]) hc)) he
    · cases he

namespace Routine

variable {ok : TaskError → Prop}

/-- The same for every job that the routine may take over. -/
def FailsOnly (ok : TaskError → Prop) (m : Routine α) : Prop := ∀ job, (m job).FailsOnly ok

theorem failsOnly_pure (a : α) : (pure a : Routine α).FailsOnly ok := fun _ => trivial

theorem failsOnly_held : held.FailsOnly ok := fun _ => trivial

theorem failsOnly_modify (f : Job → Job) : (modify f).FailsOnly ok := fun _ => trivial

theorem failsOnly_fail {e : TaskError} (h : ok e) : (fail e : Routine α).FailsOnly ok := fun _ => h

theorem failsOnly_ofExcept {x : Except TaskError α} (h : ∀ e, x = .error e → ok e) :
    (ofExcept x).FailsOnly ok := by
  cases x with
  | error e => exact failsOnly_fail (h e rfl)
  | ok a => exact failsOnly_pure a

theorem failsOnly_ofFault {x : Except Fault α} (h : ∀ e, x = .error (.error e) → ok e) :
    (ofFault x).FailsOnly ok := by
  rcases x with (e | message) | a
  · exact failsOnly_fail (h e rfl)
  · exact fun _ => trivial
  · exact failsOnly_pure a

/-- Routines that follow one another fail only for the causes of each. -/
theorem failsOnly_bind {m : Routine α} {f : α → Routine β} (hm : m.FailsOnly ok)
    (hf : ∀ a, (f a).FailsOnly ok) : (m >>= f).FailsOnly ok :=
  fun job => (hm job).andThen fun job a => hf a job

/-- What follows a request is told only causes of the class. -/
theorem failsOnly_ask_bind {q : Request} {f : q.Answer → Routine β}
    (hf : ∀ a, (∀ e, q.cause? a = some e → ok e) → (f a).FailsOnly ok) :
    (ask q >>= f).FailsOnly ok := fun _ job a ha => hf a ha job

theorem failsOnly_ask (q : Request) : (ask q).FailsOnly ok := fun _ _ _ _ => trivial

theorem failsOnly_call (c : Call) : (call c).FailsOnly ok := by
  refine failsOnly_ask_bind fun a ha => failsOnly_ofExcept ?_
  rintro e rfl
  exact ha e rfl

theorem failsOnly_persist : persist.FailsOnly ok := by
  refine failsOnly_bind (failsOnly_ask_bind fun a ha => failsOnly_ofExcept ?_) fun stored => ?_
  · rintro e rfl
    exact ha e rfl
  refine failsOnly_bind (failsOnly_ask _) fun _ => ?_
  refine failsOnly_bind (failsOnly_ask_bind fun a ha => failsOnly_ofExcept ?_) fun _ => ?_
  · rintro e rfl
    exact ha e rfl
  refine failsOnly_ask_bind fun a ha => failsOnly_ofExcept ?_
  rintro e rfl
  exact ha e rfl

theorem failsOnly_finish : (do setStatus .done; persist : Routine Unit).FailsOnly ok :=
  failsOnly_bind (failsOnly_modify _) fun _ => failsOnly_persist

end Routine

/-! ## The standard executors -/

namespace Executor

open Routine

/-- A cause other than a payload of the wrong shape. -/
abbrev Matches (e : TaskError) : Prop := e.isMismatch = false

/-- The end of a delay can only be missed over the figures of the delay. -/
theorem waitUntil_failsOnly (d : Delay) : (waitUntil d).FailsOnly Matches := by
  unfold waitUntil
  split
  · exact failsOnly_pure _
  have hrest : ∀ seconds, (do
      let now ← ask .clock
      let t ← ofFault (Delay.endOf seconds now)
      modify (Job.mapPayload (.withWaitUntil t) (Payload.shape_withWaitUntil t))
      pure t : Routine Instant).FailsOnly Matches := fun seconds =>
    failsOnly_bind (failsOnly_ask _) fun now => failsOnly_bind
      (failsOnly_ofFault fun e he => TaskError.isMismatch_of_isOfFigures (isOfFigures_of_endOf he))
      fun t => failsOnly_bind (failsOnly_modify _) fun _ => failsOnly_pure t
  refine failsOnly_bind (failsOnly_ofExcept fun e he =>
    TaskError.isMismatch_of_isOfFigures (isOfFigures_of_bounds he)) fun bounds => ?_
  dsimp only
  split
  · exact failsOnly_bind (failsOnly_ask _) hrest
  · exact failsOnly_bind (failsOnly_pure _) hrest

theorem isMismatch_delayInterrupted {e : TaskError} (h : e.isMismatch = false) :
    (delayInterrupted e).isMismatch = false := by
  cases e <;> first | rfl | cases h

theorem castVote_failsOnly (job : Job) (v : Vote) : (castVote job v).FailsOnly Matches := by
  refine failsOnly_bind (failsOnly_call _) fun profile => ?_
  refine failsOnly_bind (failsOnly_call _) fun settings => ?_
  refine failsOnly_bind (failsOnly_call _) fun client => ?_
  refine failsOnly_bind (failsOnly_call _) fun submission => ?_
  split
  · exact failsOnly_fail rfl
  · exact failsOnly_modify _

namespace Attempt

variable {a : Attempt}

theorem reach_failsOnly (kind : Kind) (action : Action) :
    (reach kind action).FailsOnly Matches := by
  refine failsOnly_bind failsOnly_held fun job => ?_
  refine failsOnly_bind (failsOnly_call _) fun profile => ?_
  refine failsOnly_bind (failsOnly_call _) fun settings => ?_
  refine failsOnly_bind (failsOnly_call _) fun client => ?_
  exact failsOnly_bind (failsOnly_call _) fun networkId => failsOnly_pure _

theorem audit_failsOnly (txId : String) (role : TransactionRole) (gas : Option GasPlan) :
    (a.audit txId role gas).FailsOnly Matches :=
  failsOnly_bind failsOnly_held fun _ => failsOnly_bind (failsOnly_ask _) fun _ => failsOnly_ask _

/-- A submission fails over a call or over figures, but never over the kind of the payload. -/
theorem broadcast_failsOnly (settings : NetworkSettings) :
    (a.broadcast settings).FailsOnly Matches := by
  refine failsOnly_bind (failsOnly_call _) fun address => ?_
  refine failsOnly_bind ?_ fun amount => ?_
  · unfold amount
    split
    · exact failsOnly_bind (failsOnly_call _) fun balance => failsOnly_ofExcept fun e he =>
        TaskError.isMismatch_of_isOfFigures (isOfFigures_of_resolve he)
    · exact failsOnly_pure _
  refine failsOnly_bind (failsOnly_ofExcept fun e he =>
    TaskError.isMismatch_of_isOfFigures (isOfFigures_of_slippage he)) fun slippage => ?_
  refine failsOnly_bind (failsOnly_call _) fun estimated => ?_
  refine failsOnly_bind (failsOnly_ofFault fun e he =>
    TaskError.isMismatch_of_isOfFigures (isOfFigures_of_plan he)) fun plan => ?_
  refine failsOnly_bind (failsOnly_call _) fun submission => ?_
  split
  · exact failsOnly_fail rfl
  · exact failsOnly_pure _

theorem submit_failsOnly (settings : NetworkSettings) :
    (a.submit settings).FailsOnly Matches := by
  rw [submit_eq]
  refine failsOnly_bind (broadcast_failsOnly settings) fun result => ?_
  refine failsOnly_bind (failsOnly_ask _) fun now => ?_
  refine failsOnly_bind (failsOnly_modify _) fun _ => ?_
  refine failsOnly_bind failsOnly_persist fun _ => ?_
  split
  · exact audit_failsOnly _ _ _
  · exact failsOnly_pure _

theorem isMismatch_waitInterrupted {e : TaskError} (h : e.isMismatch = false) :
    (waitInterrupted e).isMismatch = false := by
  cases e <;> first | rfl | cases h

/-- The wait fails over the chain, an interruption or the end of its patience. -/
theorem awaitDecision_failsOnly (txId : String) (interval polls : Nat) :
    (a.awaitDecision txId interval polls).FailsOnly Matches := by
  induction polls with
  | zero => exact failsOnly_fail rfl
  | succ polls ih =>
    have hagain : (do
        let slept ← ask (.sleep interval)
        ofExcept (slept.mapError waitInterrupted)
        a.awaitDecision txId interval polls : Routine Unit).FailsOnly Matches := by
      refine failsOnly_ask_bind fun slept hslept => ?_
      refine failsOnly_bind (failsOnly_ofExcept ?_) fun _ => ih
      intro e he
      cases slept with
      | error c => cases he; exact isMismatch_waitInterrupted (hslept c rfl)
      | ok _ => cases he
    -- confirmed, failed, undecided in two ways, or interrupted
    refine failsOnly_ask_bind fun answer hanswer => ?_
    split
    · exact failsOnly_pure _
    · exact failsOnly_fail rfl
    · exact hagain
    · exact hagain
    · exact failsOnly_fail (isMismatch_waitInterrupted (hanswer _ rfl))

theorem wait_failsOnly (interval : Span) : (a.wait interval).FailsOnly Matches := by
  refine failsOnly_bind failsOnly_held fun job => ?_
  split
  · exact failsOnly_pure _
  split
  · exact failsOnly_pure _
  refine failsOnly_bind (failsOnly_ask _) fun remaining => ?_
  refine failsOnly_bind (awaitDecision_failsOnly _ _ _) fun _ => ?_
  refine failsOnly_bind (failsOnly_modify _) fun _ => ?_
  exact failsOnly_bind failsOnly_persist fun _ => audit_failsOnly _ _ _

end Attempt

theorem settle_failsOnly : settle.FailsOnly Matches := by
  refine failsOnly_bind failsOnly_held fun job => ?_
  split
  · exact failsOnly_finish
  · exact failsOnly_pure _

section

variable {job : Job} {info : RunInfo}

/-- All executors begin alike: a job that has not ended is asked for its payload, and a payload of
the expected shape is there. -/
theorem failsOnly_begin {shape : Shape} {rest : Job → Payload → Routine Unit}
    (hshape : job.task.kind.shape = shape) (h : ∀ payload, (rest job payload).FailsOnly Matches) :
    ((do
      let job ← held
      if job.status.isTerminal then pure ()
      else
        let payload ← ofExcept (job.task.payloadAs shape)
        rest job payload : Routine Unit) job).FailsOnly Matches := by
  subst hshape
  show Program.FailsOnly _ ((if job.status.isTerminal then pure () else
    ofExcept (job.task.payloadAs job.task.kind.shape) >>= rest job : Routine Unit) job)
  split
  · exact failsOnly_pure _ job
  · rw [job.task.payloadAs_shape]
    exact failsOnly_bind (failsOnly_pure _) h job

theorem mock_failsOnly (hshape : job.task.kind.shape = .mock) (kind : Kind) :
    ((mock kind).run info job).FailsOnly Matches :=
  failsOnly_begin hshape fun _ => failsOnly_finish

theorem delay_failsOnly (hshape : job.task.kind.shape = .delay) :
    (delay.run info job).FailsOnly Matches := by
  refine failsOnly_begin hshape fun payload => ?_
  split
  · rename_i d
    refine failsOnly_bind (waitUntil_failsOnly d) fun t => ?_
    refine failsOnly_bind (failsOnly_modify _) fun _ => failsOnly_bind failsOnly_persist fun _ => ?_
    refine failsOnly_bind (failsOnly_ask _) fun now => ?_
    refine failsOnly_ask_bind fun slept hslept => ?_
    refine failsOnly_bind (failsOnly_ofExcept ?_) fun _ => failsOnly_finish
    intro e he
    cases slept with
    | error c => cases he; exact isMismatch_delayInterrupted (hslept c rfl)
    | ok _ => cases he
  · exact failsOnly_pure _

theorem vote_failsOnly (hshape : job.task.kind.shape = .vote) :
    (vote.run info job).FailsOnly Matches := by
  refine failsOnly_begin hshape fun payload => ?_
  split
  · refine failsOnly_bind (failsOnly_modify _) fun _ => failsOnly_bind failsOnly_persist fun _ => ?_
    split
    · exact failsOnly_bind (castVote_failsOnly _ _) fun _ => failsOnly_finish
    · exact failsOnly_finish
  · exact failsOnly_pure _

theorem lifecycle_failsOnly : ((lifecycle job.task.kind).run info job).FailsOnly Matches := by
  refine failsOnly_begin rfl fun payload => ?_
  split
  · rename_i action footprint
    refine failsOnly_bind (failsOnly_modify _) fun _ => failsOnly_bind failsOnly_persist fun _ => ?_
    refine failsOnly_bind (Attempt.reach_failsOnly _ action) fun reached => ?_
    have hconclude : (do
        reached.1.wait info.pollInterval
        settle : Routine Unit).FailsOnly Matches :=
      failsOnly_bind (Attempt.wait_failsOnly _) fun _ => settle_failsOnly
    dsimp only
    split
    · exact failsOnly_bind (Attempt.submit_failsOnly _) fun _ => hconclude
    · exact hconclude
  · exact failsOnly_pure _

/-- **The executor of the kind of a job finds the payload that it expects.** -/
theorem standard_failsOnly (info : RunInfo) (job : Job) :
    ((standard job.task.kind).run info job).FailsOnly Matches := by
  unfold standard
  cases hshape : job.task.kind.shape with
  | delay => exact delay_failsOnly hshape
  | mock => exact mock_failsOnly hshape _
  | vote => exact vote_failsOnly hshape
  | _ => exact lifecycle_failsOnly

end

end Executor

/-! ## The whole run -/

section

variable {s : Services σ} {w : World σ} {e : TaskError}

/-- Reconciling fails over the store or over the charge, and both come from outside. -/
theorem World.isOutward_reconcile {login : String} {job : Job}
    (h : (w.reconcile s login job).2.2 = .error e) : e.isOutward = true := by
  unfold reconcile at h
  split at h
  · cases h
    rfl
  rename_i w₁ stored hget
  dsimp only at h
  split at h
  · cases h
    rfl
  rename_i w₂ hput
  obtain ⟨outside, reply, hcharge, -, hfunds⟩ := settleCharge_eq (s := s) (w := w₂) login
    stored.status ((w₁.recordStatus s stored.status job).stamp s job)
  rw [hcharge] at h
  obtain ⟨f, rfl⟩ := hfunds e h
  rfl

/-- A run that fails gives back the cause that it failed with. -/
theorem eq_of_failRun {user : Account} {job : Job} {c : TaskError}
    (h : (failRun s user job c w).2 = .error (.error e)) : e = c := by
  unfold failRun at h
  split at h
  · cases h
  · cases h
    rfl

theorem Gate.isMismatch {login : String} {kind : Kind} {events : List Event}
    (h : Gate s login kind events (.error (.error e))) : e.isMismatch = false := by
  cases h <;> rfl

/-- Closing a run adds no mismatch to what its program failed with. -/
theorem closeRun_matches {r : Session} {ending : Ending σ Unit}
    (hending : ∀ c, ending.outcome = .returned (.error c) → c.isMismatch = false)
    (h : (closeRun s r ending).2 = .error (.error e)) : e.isMismatch = false := by
  obtain ⟨w, held, (c | _) | message | _⟩ := ending
  · have hc := hending c rfl
    simp only [closeRun] at h
    split at h
    · -- only the stored copy can still be missed
      split at h
      · cases h
      · cases h
        rfl
    · rw [eq_of_failRun h]
      exact hc
  · simp only [closeRun] at h
    split at h
    · cases h
    · rename_i c hreconcile
      cases h
      exact TaskError.isMismatch_of_isOutward (World.isOutward_reconcile (by rw [hreconcile]))
    · cases h
  · rw [eq_of_failRun h]
    rfl
  · rw [eq_of_failRun h]
    rfl

/-- **No run fails over the shape of a payload.** -/
theorem run_matches (user : Account) (job : Job)
    (h : (run s .standard user job w).2 = .error (.error e)) : e.isMismatch = false := by
  cases hterm : job.status.isTerminal with
  | true =>
    unfold run beginRun at h
    rw [if_pos hterm] at h
    cases h
  | false =>
    have hbegins := beginRun_begins (s := s) (w := w) .standard user hterm
    unfold run at h
    generalize beginRun s .standard user job w = begun at h hbegins
    obtain ⟨w', opening⟩ := begun
    -- the gate and the program are left; all other ends are no failures of the payload
    cases hbegins with
    | busy => cases h; rfl
    | unknown hnone =>
      rw [executor_standard] at hnone
      cases hnone
    | refused hgate =>
      rw [eq_of_failRun h]
      exact hgate.isMismatch
    | crashed => cases h
    | underway hexecutor =>
      rw [executor_standard] at hexecutor
      cases hexecutor
      refine closeRun_matches (fun c hc => ?_) h
      exact drive_failsOnly (fun _ => TaskError.isMismatch_of_isOutward)
        (Executor.standard_failsOnly _ job) hc

end

end WalletTasks
