import WalletTasks.Proofs.Closing
import WalletTasks.Proofs.Frame

/-!
# What the parts of a run keep to

The routines that the executors are made of keep to few requests each, and what the runner does in
front of an executor and behind it comes down to the question for the funds and to storing the job.

* `Executor.keepsTo_…`, `Executor.Attempt.keepsTo_…`: one lemma for each routine.
* `beginRun_cases`, `closeRun_ofStoring`: what the runner leaves in the log.
-/

namespace WalletTasks

variable {σ : Type}

/-! ## The routines of the executors -/

namespace Executor

open Routine

variable {ok : Request → Prop} {I : Job → Prop}

theorem keepsTo_waitUntil {d : Delay} (hclock : ok .clock)
    (hdraw : ∀ least most, ok (.draw least most))
    (hmodify : ∀ t job, I job →
      I (job.mapPayload (.withWaitUntil t) (Payload.shape_withWaitUntil t))) :
    (waitUntil d).KeepsTo ok I := by
  unfold waitUntil
  split
  · exact keepsTo_pure _
  · -- a wait that is drawn and one that is not go on alike
    have hrest : ∀ seconds, (do
        let now ← ask .clock
        let t ← ofFault (Delay.endOf seconds now)
        modify (Job.mapPayload (.withWaitUntil t) (Payload.shape_withWaitUntil t))
        pure t : Routine Instant).KeepsTo ok I := fun seconds =>
      keepsTo_bind (keepsTo_ask hclock) fun now => keepsTo_bind (keepsTo_ofFault _) fun t =>
        keepsTo_bind (keepsTo_modify (hmodify t)) fun _ => keepsTo_pure t
    refine keepsTo_bind (keepsTo_ofExcept _) fun bounds => ?_
    dsimp only
    split
    · exact keepsTo_bind (keepsTo_ask (hdraw _ _)) hrest
    · exact keepsTo_bind (keepsTo_pure _) hrest

theorem keepsTo_castVote {job : Job} {v : Vote} (hok : ∀ c, ok (.call c))
    (hmodify : ∀ receipt job, I job →
      I (job.mapPayload (.withReceipt receipt) (Payload.shape_withReceipt receipt))) :
    (castVote job v).KeepsTo ok I := by
  refine keepsTo_bind (keepsTo_call (hok _)) fun profile => ?_
  refine keepsTo_bind (keepsTo_call (hok _)) fun settings => ?_
  refine keepsTo_bind (keepsTo_call (hok _)) fun client => ?_
  refine keepsTo_bind (keepsTo_call (hok _)) fun submission => ?_
  split
  · exact keepsTo_fail _
  · exact keepsTo_modify (hmodify submission.txId)

namespace Attempt

variable {a : Attempt}

/-- Reaching the chain makes calls, and none of them polls. -/
theorem keepsTo_reach {kind : Kind} {action : Action}
    (hok : ∀ c : Call, c.isPoll = false → ok (.call c)) : (reach kind action).KeepsTo ok I := by
  refine keepsTo_bind keepsTo_held fun job => ?_
  refine keepsTo_bind (keepsTo_call (hok _ rfl)) fun profile => ?_
  refine keepsTo_bind (keepsTo_call (hok _ rfl)) fun settings => ?_
  refine keepsTo_bind (keepsTo_call (hok _ rfl)) fun client => ?_
  exact keepsTo_bind (keepsTo_call (hok _ rfl)) fun networkId => keepsTo_pure _

theorem keepsTo_audit {txId : String} {role : TransactionRole} {gas : Option GasPlan}
    (hclock : ok .clock) (haudit : ∀ entry, ok (.audit entry)) :
    (a.audit txId role gas).KeepsTo ok I :=
  keepsTo_bind keepsTo_held fun _ => keepsTo_bind (keepsTo_ask hclock) fun _ =>
    keepsTo_ask (haudit _)

/-- A broadcast makes calls, and none of them polls. -/
theorem keepsTo_broadcast {settings : NetworkSettings}
    (hok : ∀ c : Call, c.isPoll = false → ok (.call c)) :
    (a.broadcast settings).KeepsTo ok I := by
  refine keepsTo_bind (keepsTo_call (hok _ rfl)) fun address => ?_
  refine keepsTo_bind ?_ fun amount => ?_
  · unfold amount
    split
    · exact keepsTo_bind (keepsTo_call (hok _ rfl)) fun balance => keepsTo_ofExcept _
    · exact keepsTo_pure _
  refine keepsTo_bind (keepsTo_ofExcept _) fun slippage => ?_
  refine keepsTo_bind (keepsTo_call (hok _ rfl)) fun estimated => ?_
  refine keepsTo_bind (keepsTo_ofFault _) fun plan => ?_
  refine keepsTo_bind (keepsTo_call (hok _ rfl)) fun submission => ?_
  split
  · exact keepsTo_fail _
  · exact keepsTo_pure _

/-- The wait polls and sleeps, and asks for nothing else. -/
theorem keepsTo_awaitDecision {txId : String} {interval : Nat}
    (hpoll : ok (.call (.poll a.client txId))) (hsleep : ok (.sleep interval)) (polls : Nat) :
    (a.awaitDecision txId interval polls).KeepsTo ok I := by
  induction polls with
  | zero => exact keepsTo_fail _
  | succ polls ih =>
    have hagain : (do
        let slept ← ask (.sleep interval)
        ofExcept (slept.mapError waitInterrupted)
        a.awaitDecision txId interval polls : Routine Unit).KeepsTo ok I :=
      keepsTo_bind (keepsTo_ask hsleep) fun _ => keepsTo_bind (keepsTo_ofExcept _) fun _ => ih
    refine keepsTo_bind (keepsTo_ask hpoll) fun answer => ?_
    -- confirmed, failed, undecided, not heard, interrupted
    split
    · exact keepsTo_pure _
    · exact keepsTo_fail _
    · exact hagain
    · exact hagain
    · exact keepsTo_fail _

/-- What is behind a submission: its footprint is stored, and an approval is kept for audit. -/
def record (a : Attempt) : GasPlan × Submission → Routine Unit
  | (plan, submission) => do
    let now ← ask .clock
    let footprint : Footprint :=
      ⟨submission.txId, submission.approveTxId, some plan, false, now⟩
    modify (Job.mapPayload (.withFootprint footprint) (Payload.shape_withFootprint footprint))
    persist
    match submission.approveTxId with
    | some approve => a.audit approve .approve (some plan)
    | none => pure ()

/-- A submission is a broadcast, and what it comes to is recorded. -/
theorem submit_eq (a : Attempt) (settings : NetworkSettings) :
    a.submit settings = a.broadcast settings >>= a.record := rfl

section

variable (hI : ∀ f hf job, I job → I (job.mapPayload f hf))

include hI

theorem keepsTo_record (hok : ∀ q : Request, q.isRecording = true → ok q)
    (result : GasPlan × Submission) : (a.record result).KeepsTo ok I := by
  refine keepsTo_bind (keepsTo_ask (hok _ rfl)) fun now => ?_
  refine keepsTo_bind (keepsTo_modify (hI _ _)) fun _ => ?_
  refine keepsTo_bind (keepsTo_persist fun q hq => hok q (Request.isRecording_of_isAside hq))
    fun _ => ?_
  split
  · exact keepsTo_audit (hok _ rfl) fun _ => hok _ rfl
  · exact keepsTo_pure _

theorem keepsTo_submit (hok : ∀ q : Request, q.isRecording = true → ok q)
    {settings : NetworkSettings} (hcall : ∀ c : Call, c.isPoll = false → ok (.call c)) :
    (a.submit settings).KeepsTo ok I := by
  rw [submit_eq]
  exact keepsTo_bind (keepsTo_broadcast hcall) (keepsTo_record hI hok)

/-- What is behind the decision on a transaction. -/
theorem keepsTo_confirm (hok : ∀ q : Request, q.isRecording = true → ok q) (f : Footprint) :
    (do
      modify (Job.mapPayload .complete Payload.shape_complete)
      persist
      a.audit f.txId .primary f.gas : Routine Unit).KeepsTo ok I := by
  refine keepsTo_bind (keepsTo_modify (hI _ _)) fun _ => ?_
  refine keepsTo_bind (keepsTo_persist fun q hq => hok q (Request.isRecording_of_isAside hq))
    fun _ => ?_
  exact keepsTo_audit (hok _ rfl) fun _ => hok _ rfl

theorem keepsTo_wait (hok : ∀ q : Request, q.isFollowUp = true → ok q) {interval : Span} :
    (a.wait interval).KeepsTo ok I := by
  refine keepsTo_bind keepsTo_held fun job => ?_
  split
  · exact keepsTo_pure _
  split
  · exact keepsTo_pure _
  refine keepsTo_bind (keepsTo_ask (hok _ rfl)) fun remaining => ?_
  refine keepsTo_bind (keepsTo_awaitDecision (hok _ rfl) (hok _ rfl) _) fun _ => ?_
  exact keepsTo_confirm hI (fun q hq => hok q (Request.isFollowUp_of_isRecording hq)) _

end

end Attempt

theorem keepsTo_settle (hok : ∀ q : Request, q.isRecording = true → ok q)
    (hI : ∀ job, I job → I { job with status := .done }) : settle.KeepsTo ok I := by
  refine keepsTo_bind keepsTo_held fun job => ?_
  split
  · exact keepsTo_finish (fun q hq => hok q (Request.isRecording_of_isAside hq)) hI
  · exact keepsTo_pure _

end Executor

/-! ## The runner -/

section

variable {s : Services σ} {w : World σ}

theorem failRun_world (user : Account) (job : Job) (e : TaskError) :
    (failRun s user job e w).1 =
      (w.reconcile s user.login { job with status := .error, error := some e.message }).1 := by
  unfold failRun
  split <;> rename_i h <;> rw [h]

/-- A run that fails logs that it stores the job, and nothing else. -/
theorem failRun_ofStoring (user : Account) (job : Job) (e : TaskError) :
    World.LogsOnly (·.isOfStoring = true) w (failRun s user job e w).1 := by
  rw [failRun_world]
  exact World.reconcile_ofStoring ..

/-- What is behind an executor at most stores the job. -/
theorem closeRun_ofStoring (r : Session) (e : Ending σ Unit) :
    World.LogsOnly (·.isOfStoring = true) e.world (closeRun s r e).1 := by
  rcases e with ⟨w, held, (c | ⟨⟨⟩⟩) | message | _⟩
  · simp only [closeRun]
    split
    · have := World.log_getJob (s := s) (w := w) held.id
      split <;> rename_i h <;> rw [h] at this <;> exact .of_eq this
    · exact failRun_ofStoring ..
  · have := World.reconcile_ofStoring (s := s) (w := w) r.user.login { held with error := none }
    simp only [closeRun]
    split <;> rename_i h <;> rw [h] at this <;> exact this
  · exact failRun_ofStoring ..
  · exact failRun_ofStoring ..

/-- **How a run begins**: it is over without a call, or the executor of the kind is to be driven
once the user was found to be able to pay. -/
theorem beginRun_cases (user : Account) (job : Job) (w : World σ) :
    (∃ w' result, beginRun s .standard user job w = (w', .over result) ∧
      World.LogsOnly (fun e => e.call? = none) w w') ∨
    ∃ w' r events, beginRun s .standard user job w =
        (w', .underway r ((Executor.standard job.task.kind).run (r.info s.limits) job)) ∧
      job.status.isTerminal = false ∧ Gate s user.login job.task.kind events (.ok ()) ∧
      w'.log = events ++ w.log := by
  cases hopen : job.status.isTerminal with
  | true =>
    unfold beginRun
    rw [if_pos hopen]
    exact .inl ⟨_, _, rfl, .of_eq rfl⟩
  | false =>
    have hbegins := beginRun_begins (s := s) (w := w) .standard user hopen
    rcases hb : beginRun s .standard user job w with ⟨w', opening⟩
    rw [hb] at hbegins
    have hasked : ∀ {w₁ : World σ} {events result},
        Gate s user.login job.task.kind events result → w₁.log = events ++ w.log →
        World.LogsOnly (fun e => e.call? = none) w w₁ := by
      intro w₁ events result hgate hlog
      refine ⟨events, hlog, ?_⟩
      cases hgate <;> simp [Event.call?]
    -- over before the program, or underway with it
    cases hbegins with
    | busy => exact .inl ⟨_, _, rfl, .of_eq rfl⟩
    | unknown hnone =>
      rw [executor_standard] at hnone
      cases hnone
    | @refused w₁ _ e hgate _ hlog =>
      have hfailed := (failRun_ofStoring (s := s) (w := w₁) user job e).mono
        fun _ he => Event.call?_of_isOfStoring he
      exact .inl ⟨_, _, rfl, (hasked hgate hlog).trans hfailed⟩
    | crashed hgate _ hlog => exact .inl ⟨_, _, rfl, hasked hgate hlog⟩
    | underway hexec hgate _ hlog =>
      rw [executor_standard] at hexec
      cases hexec
      exact .inr ⟨_, _, _, rfl, rfl, hgate, hlog⟩

end

end WalletTasks
