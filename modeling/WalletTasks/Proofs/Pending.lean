import WalletTasks.Proofs.Decision

/-!
# What is left of a run that has only to be repeated

A run may give back a job that has not ended. It gives back the stored copy, and whatever it held in
memory is gone; so whatever the next run is to go on from has to be on record by then. A delay
stores the instant at which it ends in front of its sleep, and an action its transaction in front of
its polls, and no other request can end a run in this way.

* `Task.Resumes`: what the next run goes on from.
* `Executor.standard_suspends`: an executor asks for another run only when that is on record.
* `run_suspended`: a run that gives back a job that has not ended has left it stored, and pending.
-/

namespace WalletTasks

variable {σ : Type}

/-- The payload holds what the next run goes on from: the instant at which a delay ends, or the
transaction of an action, which is not confirmed. Nothing goes on from a mock task or a vote. -/
def Task.Resumes (t : Task) : Prop :=
  match t.kind.shape with
  | .delay => ∃ d instant, t.payload = .delay d ∧ d.waitUntil = some instant
  | .mock | .vote => False
  | .swap | .bridge | .deposit | .withdraw | .liquidity | .nftBridge | .deployAccount =>
    ∃ f, t.payload.footprint? = some f ∧ f.txId ≠ "" ∧ f.completed = false

/-- A delay whose end is fixed can be resumed. -/
theorem Task.resumes_of_delay {t : Task} {d : Delay} {instant : Instant}
    (h : t.payload = .delay d) (hend : d.waitUntil = some instant) : t.Resumes := by
  have hshape : t.kind.shape = .delay := by rw [← t.shape_payload, h]; rfl
  unfold Resumes
  rw [hshape]
  exact ⟨d, instant, h, hend⟩

/-- A transaction that is on record and not completed can be resumed. -/
theorem Task.resumes_of_footprint {t : Task} {f : Footprint} (h : t.payload.footprint? = some f)
    (hid : f.txId ≠ "") (hopen : f.completed = false) : t.Resumes := by
  obtain ⟨kind, payload, hshape⟩ := t
  cases payload with
  | chain action footprint =>
    unfold Resumes
    simp only [← hshape, Payload.shape]
    cases action <;> exact ⟨f, h, hid, hopen⟩
  | _ => cases h

theorem Task.payloadAs_of_eq {t : Task} {p : Payload} (h : t.payload = p) :
    t.payloadAs p.shape = .ok p := by
  unfold payloadAs
  rw [if_pos (by rw [h]), h]

/-- The job has been set to running, with the error that it had; it keeps what it has left on
chain. -/
structure Job.Continues (original job : Job) : Prop where
  status_eq : job.status = .running
  error_eq : job.error = original.error
  kind_eq : job.task.kind = original.task.kind
  grows : original.Grows job

namespace Job.Continues

variable {original job : Job}

theorem running (job : Job) (t : Instant) : job.Continues (job.running.stamped t) :=
  ⟨rfl, rfl, rfl, (Job.Grows.refl job).of_task_eq rfl rfl⟩

theorem stamped (h : original.Continues job) (t : Instant) : original.Continues (job.stamped t) :=
  ⟨h.status_eq, h.error_eq, h.kind_eq, h.grows.of_task_eq rfl rfl⟩

theorem mapPayload {f : Payload → Payload} {hf : ∀ p, (f p).shape = p.shape}
    (h : original.Continues job) (hp : job.task.payload.Grows (f job.task.payload)) :
    original.Continues (job.mapPayload f hf) :=
  ⟨h.status_eq, h.error_eq, h.kind_eq, h.grows.mapPayload hp⟩

end Job.Continues

/-- A run that gives back a job that has not ended has left it stored as it is given back: set to
running, and with what the next run goes on from. -/
def Suspends (original : Job) : Bool → Store → List Event → Except Fault Job → Prop :=
  fun _ st _ result => ∀ t, result = .ok t → t.status.isTerminal = false →
    st.get? original.id = some t ∧ original.Continues t ∧ t.task.Resumes

section

variable {s : Services σ} {r : Session} {w : World σ} {original job stored : Job}

/-- A run that fails does not give the job back. -/
theorem failsTo_suspends {login : String} {dropped : Bool} {e : TaskError}
    (hj : w.store.get? job.id = some stored) :
    FailsTo (Suspends original) s login dropped w job e := by
  refine ⟨stored, hj, ?_⟩
  intro w' t result _ hresult t' hok
  rcases hresult with rfl | ⟨-, message, rfl⟩ <;> cases hok

/-- A halt that does not ask for another run gives no job back. -/
theorem closesHalted_suspends {h : Halt} (hretry : h.isRetryable = false)
    (hj : w.store.get? job.id = some stored) :
    ClosesHalted (Suspends original) s r w job h := by
  refine ⟨?_, fun _ => failsTo_suspends hj⟩
  intro htrue
  rw [hretry] at htrue
  cases htrue

/-- A run may ask for another one once the job is stored with what that one goes on from. -/
theorem closesHalted_of_resumes {h : Halt} (hj : w.store.get? job.id = some job)
    (hcontinues : original.Continues job) (hresumes : job.task.Resumes) :
    ClosesHalted (Suspends original) s r w job h := by
  refine ⟨fun _ => ⟨job, hj, ?_⟩, fun _ => failsTo_suspends hj⟩
  intro t hok _
  cases hok
  rw [← hcontinues.grows.id_eq]
  exact ⟨hj, hcontinues, hresumes⟩

/-- A job that has ended is no matter. -/
theorem closesDone_suspends (hterm : job.status.isTerminal = true)
    (hj : w.store.get? job.id = some stored) :
    ClosesDone (Suspends original) s r w job () := by
  refine ⟨stored, hj, ?_⟩
  intro w' t result _ hresult t' hok hopen
  rcases hresult with rfl | ⟨-, fault, rfl⟩
  · cases hok
    have hstatus : (job.cleared.stamped t).status.isTerminal = job.status.isTerminal := rfl
    rw [hstatus, hterm] at hopen
    cases hopen
  · cases hok

namespace Executor

open Routine

/-- Storing a job halts its program in no way that asks for another run. -/
theorem meets_persist_suspends (hs : s.StoreSucceeds) {D : World σ → Job → Unit → Prop}
    (hj : w.store.get? job.id = some stored)
    (hdone : ∀ w' t, w'.store.get? job.id = some (job.stamped t) → D w' (job.stamped t) ()) :
    persist.Meets s r w job D (ClosesHalted (Suspends original) s r) := by
  refine meets_persist hs hj ?_ ?_
  · intro w' held h hst hh
    obtain ⟨stored', hget⟩ := hst.exists_get? hj
    exact closesHalted_suspends hh.isRetryable hget
  · intro w' t₁ t₂ hst
    exact hdone w' t₂ hst.get?

/-- The last step of every executor. -/
theorem meets_finish_suspends (hs : s.StoreSucceeds) (hj : w.store.get? job.id = some stored) :
    persist.Meets s r w job.done (ClosesDone (Suspends original) s r)
      (ClosesHalted (Suspends original) s r) := by
  refine meets_persist_suspends hs hj ?_
  intro w' t hget
  exact closesDone_suspends rfl hget

/-- A mock is never suspended. -/
theorem mock_suspends (hs : s.StoreSucceeds) {kind : Kind} {info : RunInfo}
    (hj : w.store.get? job.id = some stored) (hopen : job.status.isTerminal = false)
    (hpayload : job.task.payload = .mock) :
    ((mock kind).run info).Meets s r w job (ClosesDone (Suspends job) s r)
      (ClosesHalted (Suspends job) s r) := by
  have hpay : job.task.payloadAs .mock = .ok .mock := Task.payloadAs_of_eq hpayload
  simp only [mock, meets_bind, meets_held, hopen, Bool.false_eq_true, if_false, meets_ofExcept,
    hpay, meets_setStatus]
  exact meets_finish_suspends hs hj

/-- A vote is never suspended: it either fails or is done. -/
theorem vote_suspends (hs : s.StoreSucceeds) {info : RunInfo} {v : Vote}
    (hj : w.store.get? job.id = some stored) (hopen : job.status.isTerminal = false)
    (hpayload : job.task.payload = .vote v) :
    (vote.run info).Meets s r w job (ClosesDone (Suspends job) s r)
      (ClosesHalted (Suspends job) s r) := by
  have hpay : job.task.payloadAs .vote = .ok (.vote v) := Task.payloadAs_of_eq hpayload
  simp only [vote, meets_bind, meets_held, hopen, Bool.false_eq_true, if_false, meets_ofExcept,
    hpay, meets_setStatus]
  refine meets_persist_suspends hs hj ?_
  intro w₁ t hget₁
  split
  · rw [meets_bind]
    refine meets_castVote ?_ ?_
    · intro w₂ events h hstore₂ _ hx
      exact closesHalted_suspends hx.isRetryable (by rw [hstore₂]; exact hget₁)
    · intro w₂ events receipt hstore₂ _ _
      simp only [meets_bind, meets_setStatus]
      exact meets_finish_suspends hs (by rw [hstore₂]; exact hget₁)
  · simp only [meets_bind, meets_setStatus]
    exact meets_finish_suspends hs hget₁

theorem delay_suspends (hs : s.StoreSucceeds) {info : RunInfo} {d : Delay}
    (hj : w.store.get? job.id = some stored) (hopen : job.status.isTerminal = false)
    (hpayload : job.task.payload = .delay d) :
    (delay.run info).Meets s r w job (ClosesDone (Suspends job) s r)
      (ClosesHalted (Suspends job) s r) := by
  have hpay : job.task.payloadAs .delay = .ok (.delay d) := Task.payloadAs_of_eq hpayload
  simp only [delay, meets_bind, meets_held, hopen, Bool.false_eq_true, if_false, meets_ofExcept,
    hpay]
  refine meets_waitUntil ?_ ?_
  · intro w₁ h hstore₁ _ hretry
    exact closesHalted_suspends hretry (by rw [hstore₁]; exact hj)
  intro w₁ job₁ t hstore₁ _ hend
  simp only [meets_setStatus]
  -- the instant at which the delay ends is in the job before the job is stored
  have hcontinues : ∀ t₁, job.Continues (job₁.running.stamped t₁) := by
    intro t₁
    obtain ⟨-, rfl⟩ | rfl := hend
    · exact .running _ t₁
    · have hgrows : job.Grows (job.mapPayload (.withWaitUntil t) (Payload.shape_withWaitUntil t)) :=
        (Job.Grows.refl job).mapPayload (.withWaitUntil t _)
      exact ⟨rfl, rfl, rfl, hgrows.of_task_eq rfl rfl⟩
  have hresumes : job₁.task.Resumes := by
    obtain ⟨hfixed, rfl⟩ | rfl := hend
    · exact Task.resumes_of_delay hpayload hfixed
    · refine Task.resumes_of_delay (d := { d with waitUntil := some t }) ?_ rfl
      show job.task.payload.withWaitUntil t = _
      rw [hpayload]
      rfl
  have hj₁ : w₁.store.get? job₁.running.id = some stored := by
    have hid : job₁.running.id = job.id := (hcontinues default).grows.id_eq
    rw [hid, hstore₁, hj]
  refine meets_persist_suspends hs hj₁ ?_
  intro w₂ t₁ hget₂
  refine meets_clock ?_
  intro w₃ now hstore₃ _
  refine meets_ask_sleep ?_
  intro w₄ slept hstore₄ _ hslept
  have hget₄ : w₄.store.get? job₁.running.id = some (job₁.running.stamped t₁) := by
    rw [hstore₄, hstore₃]
    exact hget₂
  -- slept to the end, or interrupted with the end on record
  obtain rfl | ⟨e, he, rfl⟩ := hslept
  · exact meets_finish_suspends hs hget₄
  · exact closesHalted_of_resumes hget₄ (hcontinues t₁) hresumes

/-- A run of a job whose transaction is on record can be repeated from there. -/
theorem conclude_suspends (hs : s.StoreSucceeds) {a : Attempt} {interval : Span} {f : Footprint}
    (hj : w.store.get? job.id = some job) (hcontinues : original.Continues job)
    (hf : job.task.payload.footprint? = some f) (hid : f.txId ≠ "") :
    (do
      a.wait interval
      settle : Routine Unit).Meets s r w job (ClosesDone (Suspends original) s r)
      (ClosesHalted (Suspends original) s r) := by
  cases hopen : f.completed with
  | true =>
    unfold Attempt.wait settle
    simp only [meets_bind, meets_held]
    rw [hf]
    simp only [hopen, if_true, meets_pure, hf, Option.any_some, meets_bind, meets_setStatus]
    exact meets_finish_suspends hs hj
  | false =>
    refine Attempt.meets_conclude hs hj hf hopen ?_ ?_ ?_ ?_
    · intro w' events undecided hstore _ _ _ t hok _
      cases hok
      rw [hstore, ← hcontinues.grows.id_eq]
      exact ⟨hj, hcontinues, Task.resumes_of_footprint hf hid hopen⟩
    · intro w' events h hstore _ _ _ _
      exact failsTo_suspends (by rw [hstore, hj])
    · intro w' held stored' hget _ _
      exact failsTo_suspends hget
    · intro w₁ w' events undecided held _ _ _ _ hconcludes t hok hterm
      cases hok
      rw [hconcludes.status_eq] at hterm
      cases hterm

/-- A transaction is suspended while it waits, with its identifier on record. -/
theorem lifecycle_suspends (hs : s.StoreSucceeds) {info : RunInfo} {action : Action}
    {footprint : Option Footprint} (hj : w.store.get? job.id = some stored)
    (hopen : job.status.isTerminal = false) (hpayload : job.task.payload = .chain action footprint)
    (hid : ∀ f, footprint = some f → f.txId ≠ "") :
    ((lifecycle job.task.kind).run info).Meets s r w job (ClosesDone (Suspends job) s r)
      (ClosesHalted (Suspends job) s r) := by
  refine meets_lifecycle hs hj hopen hpayload ?_ ?_ ?_
  · intro w' held h hst hh
    obtain ⟨stored', hget⟩ := hst.exists_get? hj
    exact closesHalted_suspends hh.isRetryable hget
  · intro w₁ w' t₁ t₂ events h hst hstore _ hx
    exact closesHalted_suspends hx.isRetryable (hst.get?_of_store_eq hstore)
  intro w₁ w₂ t₁ t₂ events a settings hst hstore _ _ _
  have hget := hst.get?_of_store_eq hstore
  have hcontinues := Job.Continues.running job t₂
  -- the submission puts the transaction on record; before it nothing can be suspended
  cases footprint with
  | none =>
    simp only [Option.isNone_none, if_true]
    rw [meets_bind]
    refine meets_submit hs hget rfl ?_ ?_
    · intro w₃ held stored' h hretry _ hget₃
      exact closesHalted_suspends hretry hget₃
    · intro w₃ t now now' _ hsent _ hget₃ _
      have hawaits : (((job.running.stamped t₂).submitted (t.footprint now)).stamped now').Awaits
          (t.footprint now) := Job.awaits_submitted_running hpayload
      refine conclude_suspends hs hget₃ (Job.Continues.stamped ?_ now') hawaits.footprint ?_
      · refine hcontinues.mapPayload (.withFootprint _ ?_)
        show job.task.payload.footprint? = none
        rw [hpayload]
        rfl
      · intro hempty
        have htx : (t.footprint now).txId = t.submission.txId := rfl
        rw [← htx, hempty] at hsent
        cases hsent
  | some f =>
    simp only [Option.isNone_some, Bool.false_eq_true, if_false]
    refine conclude_suspends hs hget hcontinues (f := f) ?_ (hid f rfl)
    show job.task.payload.footprint? = some f
    rw [hpayload]
    rfl

/-- **An executor asks for another run only when the next one has something to go on from.** -/
theorem standard_suspends (hs : s.StoreSucceeds) {info : RunInfo}
    (hj : w.store.get? job.id = some stored) (hopen : job.status.isTerminal = false)
    (hid : ∀ f, job.task.payload.footprint? = some f → f.txId ≠ "") :
    ((standard job.task.kind).run info).Meets s r w job (ClosesDone (Suspends job) s r)
      (ClosesHalted (Suspends job) s r) := by
  have hshape := job.task.shape_payload
  -- the payload says which of the executors it is
  cases hpayload : job.task.payload with
  | delay d =>
    have hkind : standard job.task.kind = .delay := by
      unfold standard; rw [← hshape, hpayload]; rfl
    rw [hkind]
    exact delay_suspends hs hj hopen hpayload
  | mock =>
    have hkind : standard job.task.kind = .mock job.task.kind := by
      unfold standard; rw [← hshape, hpayload]; rfl
    rw [hkind]
    exact mock_suspends hs hj hopen hpayload
  | vote v =>
    have hkind : standard job.task.kind = .vote := by
      unfold standard; rw [← hshape, hpayload]; rfl
    rw [hkind]
    exact vote_suspends hs hj hopen hpayload
  | chain action footprint =>
    rw [standard_of_chain hpayload]
    refine lifecycle_suspends hs hj hopen hpayload ?_
    intro f hf
    refine hid f ?_
    rw [hpayload, hf]
    rfl

end Executor

/-- A run gives back a job that has not ended only where it can be resumed. -/
theorem run_suspends (hs : s.StoreSucceeds) (user : Account)
    (hj : w.store.get? job.id = some job) (hopen : job.status.isTerminal = false)
    (hid : ∀ f, job.task.payload.footprint? = some f → f.txId ≠ "") :
    Suspends job (isDropped s .standard user job w) (run s .standard user job w).1.store
      (run s .standard user job w).1.log (run s .standard user job w).2 := by
  refine run_of_meets (P := Suspends job) hs ?_ ?_ ?_ ?_ ?_
  -- the ends before the program give back no job
  · intro hterm
    rw [hopen] at hterm
    cases hterm
  · intro _ t hok
    cases hok
  · intro events message _ t hok
    cases hok
  · intro events e w' _ _ hstore _
    exact failsTo_suspends (by rw [hstore, hj])
  · intro events w' r _ _ hstore _ _ _ _
    exact Executor.standard_suspends hs (by rw [hstore, hj]) hopen hid

/-- **A job that has not ended can be taken up again.** If a run of a stored job gives back a job
that has not ended, this is the stored copy; it is running, with the error that it had before the
run, and its payload holds what the next run goes on from. -/
theorem run_suspended (hs : s.StoreSucceeds) (user : Account) {t : Job}
    (hj : w.store.get? job.id = some job) (hopen : job.status.isTerminal = false)
    (hid : ∀ f, job.task.payload.footprint? = some f → f.txId ≠ "")
    (hok : (run s .standard user job w).2 = .ok t) (hpending : t.status.isTerminal = false) :
    (run s .standard user job w).1.store.get? job.id = some t ∧ t.status = .running ∧
      t.error = job.error ∧ t.task.kind = job.task.kind ∧ t.task.Resumes := by
  obtain ⟨hstored, hcontinues, hresumes⟩ := run_suspends hs user hj hopen hid t hok hpending
  exact ⟨hstored, hcontinues.status_eq, hcontinues.error_eq, hcontinues.kind_eq, hresumes⟩

end

/-- The submitted sample job comes back when its run is asked to stop while it rests. -/
theorem sample_run_suspended :
    let job := Job.sampleSubmitted
    let after := run .willing .standard .sample job (.awaiting (.replicate 5 none ++ [some 0]))
    ∃ t, after.2 = .ok t ∧ t.status.isTerminal = false ∧
      after.1.store.get? job.id = some t ∧ t.status = .running ∧ t.error = job.error ∧
      t.task.kind = job.task.kind ∧ t.task.Resumes := by
  intro job after
  have hback : after.2.toOption.map (·.status.isTerminal) = some false := by decide +kernel
  obtain ⟨t, hsome, hpending⟩ := Option.map_eq_some_iff.1 hback
  have hok : after.2 = .ok t := by
    cases hresult : after.2 with
    | error fault =>
      rw [hresult] at hsome
      cases hsome
    | ok t' =>
      rw [hresult] at hsome
      cases hsome
      rfl
  refine ⟨t, hok, hpending, run_suspended Services.storeSucceeds_willing .sample (get?_seeded _ _)
    rfl ?_ hok hpending⟩
  intro f hf
  cases hf
  decide

end WalletTasks
