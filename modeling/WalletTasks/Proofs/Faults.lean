import WalletTasks.Proofs.Reconciling

/-!
# When storing a job fails

A job is stored in steps: its stored copy is read, a change of status is written to the history, the
job is written over its stored copy, and what is owed is charged. Each of them can fail. What has
been written to the history stays there if the job is then not written; and a charge that has failed
is not owed any more, because the status that it was owed for is stored by then.

* `reconcile_traceless_iff`: a job that is not stored leaves no trace but for what it has in the
  history.
* `reconcile_charges_once`: a charge that the funds service has failed over is not sent again.
-/

namespace WalletTasks

variable {σ : Type}

/-- Neither the store nor the log has changed. -/
structure World.Untouched (w w' : World σ) : Prop where
  store_eq : w'.store = w.store
  log_eq : w'.log = w.log

/-- Stores a job over and over: each time not before a moment, and with the services as they are by
then. -/
def World.insist (s : Services σ) (login : String) (job : Job) :
    List (Nat × σ) → World σ → World σ × List (Reply TaskError Unit)
  | [], w => (w, [])
  | (start, outside) :: attempts, w =>
    let (w, _, reply) := (World.waitUntil { w with outside } start).reconcile s login job
    let (w, replies) := w.insist s login job attempts
    (w, reply :: replies)

section

variable {s : Services σ} {login : String} {job stored held : Job} {w w' w₁ : World σ}

/-! ## The history of a job that is not stored -/

namespace World

/-- An update that fails leaves the store and the log as they are. -/
theorem updateJob_error {e : StoreError} (h : w.updateJob s job = (w₁, .error e)) :
    w₁.store = w.store ∧ w₁.log = w.log := by
  obtain ⟨outside, hf⟩ := fault?_frame s .update w
  unfold updateJob at h
  rw [hf] at h
  generalize (s.fault? .update w.outside).2 = fault at h
  -- told to fail by the store, or failing because the job is not stored
  cases fault with
  | some f =>
    cases h
    exact ⟨rfl, rfl⟩
  | none =>
    cases hj : w.store.update? job with
    | some store =>
      simp only [hj] at h
      cases h
    | none =>
      simp only [hj] at h
      cases h
      exact ⟨rfl, rfl⟩

/-- A job that is not stored changes nothing but the history. -/
theorem reconcile_refused {e : StoreError}
    (h : w.reconcile s login job = (w', held, .error (.store e))) :
    w'.store = { w.store with history := w.store.history ++ (w.noted? s job).toList } ∧
      w'.log = w.log := by
  have hstore₁ := store_getJob (s := s) (w := w) job.id
  have hlog₁ := log_getJob (s := s) (w := w) job.id
  unfold reconcile at h
  unfold noted?
  rcases hget : w.getJob s job.id with ⟨w₁, e | stored⟩
  all_goals
    rw [hget] at hstore₁ hlog₁ h
    simp only at hstore₁ hlog₁ h ⊢
  · cases h
    simp [hstore₁, hlog₁]
  have hrecord := store_recordStatus (s := s) (w := w₁) stored.status job
  have hlog₂ := log_recordStatus (s := s) (w := w₁) stored.status job
  rw [hstore₁] at hrecord
  generalize w₁.recordStatus s stored.status job = w₂ at *
  rcases hupdate : w₂.updateJob s (w₂.stamp s job) with ⟨w₃, e | ⟨⟨⟩⟩⟩
  · -- the update fails behind the history
    rw [hupdate] at h
    cases h
    obtain ⟨hstore₃, hlog₃⟩ := updateJob_error hupdate
    refine ⟨?_, by rw [hlog₃, hlog₂, hlog₁]⟩
    rw [hstore₃, hrecord]
    split <;> simp [Store.record]
  · -- a charge does not fail with a cause of the store's
    rw [hupdate] at h
    obtain ⟨outside, reply, hcharge, -, hfunds⟩ :=
      settleCharge_eq (s := s) (w := w₃) login stored.status (w₂.stamp s job)
    simp only [hcharge] at h
    cases h
    obtain ⟨f, hf⟩ := hfunds _ rfl
    cases hf

end World

/-- **When a job that is not stored leaves a trace.** The stored jobs and the log are as they were.
So is the history, unless the stored copy was read with another status and the history did not fail:
then it tells of a change of status that has never been stored. -/
theorem reconcile_traceless_iff {e : StoreError}
    (h : w.reconcile s login job = (w', held, .error (.store e))) :
    w'.store.jobs = w.store.jobs ∧ w'.log = w.log ∧
      (w.Untouched w' ↔ w.noted? s job = none) ∧
      ∀ change, w.noted? s job = some change →
        w'.store.history = w.store.history ++ [change] ∧ change.after = job.status ∧
          ∃ stored, w'.store.get? job.id = some stored ∧ stored.status = change.before ∧
            change.before ≠ change.after := by
  obtain ⟨hstore, hlog⟩ := World.reconcile_refused h
  refine ⟨by rw [hstore], hlog, ⟨?_, ?_⟩, ?_⟩
  · rintro ⟨hsame, -⟩
    have hhistory : w.store.history ++ (w.noted? s job).toList = w.store.history := by
      rw [hstore] at hsame
      exact congrArg Store.history hsame
    simpa using hhistory
  · intro hnone
    exact ⟨by rw [hstore, hnone]; simp, hlog⟩
  · intro change hchange
    obtain ⟨stored, hj, hbefore, hafter, hne⟩ := World.get?_of_noted? hchange
    refine ⟨by rw [hstore, hchange]; rfl, hafter, stored, ?_, hbefore, hne⟩
    rw [hstore]
    exact hj

end

/-- Services whose store refuses every update. -/
def Services.unwritable : Services Outlook :=
  { Services.willing with
    fault? := fun c x => (x, if c = .update then some (.notFound "update" "") else none) }

/-- The sample job is refused as running, which its history tells of, and as it is, which leaves no
trace. -/
theorem sample_reconcile_traceless_iff :
    let w := World.seeded ⟨[], 0⟩ Job.sample
    ¬w.Untouched (w.reconcile .unwritable "owner" Job.sample.running).1 ∧
      w.Untouched (w.reconcile .unwritable "owner" Job.sample).1 := by
  intro w
  have hmoved := reconcile_traceless_iff
    (show w.reconcile .unwritable "owner" Job.sample.running = _ from rfl)
  have hsame := reconcile_traceless_iff
    (show w.reconcile .unwritable "owner" Job.sample = _ from rfl)
  refine ⟨fun huntouched => ?_, hsame.2.2.1.2 (by decide +kernel)⟩
  have hnone := hmoved.2.2.1.1 huntouched
  revert hnone
  decide +kernel

/-- The sample job stays stored as ready, while its history says that it is running. -/
theorem sample_change_never_stored :
    let w := World.seeded ⟨[], 0⟩ Job.sample
    let after := w.reconcile .unwritable "owner" Job.sample.running
    (∃ e, after.2.2 = .error (.store e)) ∧
      (after.1.store.get? default).map Job.status = some .ready ∧
      (w.store.historyOf default).map StatusChange.move = [] ∧
      (after.1.store.historyOf default).map StatusChange.move = [(.ready, .running)] :=
  ⟨⟨_, rfl⟩, by decide +kernel, by decide +kernel, by decide +kernel⟩

/-! ## A charge that has failed -/

section

variable {s : Services σ} {login : String} {job stored held : Job} {w w' : World σ}

/-- Storing a job once more with its stored status is not charged. -/
theorem World.reconcile_unmoved (hs : s.StoreSucceeds) (login : String)
    (hj : w.store.get? job.id = some stored) (hstatus : stored.status = job.status) :
    ∃ w' t, w.reconcile s login job = (w', job.stamped t, .value ()) ∧
      w'.store.get? job.id = some (job.stamped t) ∧ w'.store.history = w.store.history ∧
      w'.log = .updated (job.stamped t) :: w.log := by
  obtain ⟨w', reply, heq, hstore, hlog, howed, -⟩ := World.reconcile_eq hs login job hj
  have hfree : s.billing.chargeOwed stored.status job.status job.task.kind = false := by
    rw [hstatus, BillingPolicy.chargeOwed_self]
  rw [howed hfree] at heq
  refine ⟨w', _, heq, ?_, ?_, ?_⟩
  · rw [hstore]
    exact Store.get?_overwritten_self ..
  · rw [hstore, Store.noted, if_pos hstatus]
    rfl
  · rw [hlog, BillingPolicy.chargeEvents, if_neg (by simp [hfree])]
    rfl

theorem World.insist_unmoved (hs : s.StoreSucceeds) (login : String) (attempts : List (Nat × σ))
    (hj : w.store.get? job.id = some stored) (hstatus : stored.status = job.status) :
    (∀ reply ∈ (w.insist s login job attempts).2, reply = .value ()) ∧
      (w.insist s login job attempts).1.store.history = w.store.history ∧
      World.LogsOnly (fun e => ∃ t, e = .updated (job.stamped t)) w
        (w.insist s login job attempts).1 := by
  -- each attempt stores a stamped job, and the next one compares with the status of that one
  induction attempts generalizing w stored with
  | nil => exact ⟨by simp [insist], rfl, .of_eq rfl⟩
  | cons attempt attempts ih =>
    obtain ⟨start, outside⟩ := attempt
    obtain ⟨w₁, t, heq, hj₁, hhistory₁, hlog₁⟩ :=
      reconcile_unmoved (w := World.waitUntil { w with outside } start) hs login hj hstatus
    obtain ⟨hreplies, hhistory, hlog⟩ := ih hj₁ rfl
    simp only [insist, heq]
    refine ⟨?_, hhistory.trans hhistory₁, .trans (.single hlog₁ ⟨t, rfl⟩) hlog⟩
    simpa using hreplies

/-- **A charge is sent once.** If it is the charge that storing a job fails over, the job is stored
with its new status, and the charge has been sent. Storing the job again, however often and whatever
the funds service answers by then, succeeds without a further charge. -/
theorem reconcile_charges_once {s' : Services σ} {e : FundsError}
    (h : w.reconcile s' login job = (w', held, .error (.funds e))) (hs : s.StoreSucceeds)
    (again : Job) (hid : again.id = job.id) (hstatus : again.status = job.status)
    (attempts : List (Nat × σ)) :
    (∃ stored, w.store.get? job.id = some stored ∧
      s'.billing.chargeOwed stored.status job.status job.task.kind = true) ∧
    w'.store.get? job.id = some held ∧ held.status = job.status ∧
    traceOf Event.charge? w'.log = traceOf Event.charge? w.log ++ [.ofJob job login] ∧
    (∀ reply ∈ (w'.insist s login again attempts).2, reply = .value ()) ∧
    (w'.insist s login again attempts).1.store.history = w'.store.history ∧
    traceOf Event.charge? (w'.insist s login again attempts).1.log =
      traceOf Event.charge? w'.log := by
  obtain ⟨_, stored, t, hget, rfl, hstore, hlog, howed⟩ := World.reconcile_written h (by simp)
  obtain ⟨hj, -⟩ := World.getJob_ok hget
  -- a charge that is not owed is not sent, so that it cannot have failed
  have howes : s'.billing.chargeOwed stored.status job.status job.task.kind = true := by
    cases hfree : s'.billing.chargeOwed stored.status job.status job.task.kind with
    | true => rfl
    | false => cases howed hfree
  have hj' : w'.store.get? job.id = some (job.stamped t) := by
    rw [hstore]
    exact Store.get?_overwritten_self ..
  refine ⟨⟨stored, hj, howes⟩, hj', rfl, ?_, ?_⟩
  · have hevents : s'.billing.chargeEvents login stored.status (job.stamped t) =
        [.charged (.ofJob job login)] := if_pos howes
    rw [hlog, hevents]
    simp [Event.charge?]
  · rw [← hid] at hj'
    obtain ⟨hreplies, hhistory, hinsist⟩ :=
      World.insist_unmoved hs login attempts hj' hstatus.symm
    refine ⟨hreplies, hhistory, hinsist.traceOf_eq ?_⟩
    rintro e ⟨t, rfl⟩
    rfl

end

/-- Services whose funds service is down for as many charges as polls are pending. -/
def Services.outage : Services Outlook :=
  { Services.willing with
    accept := fun _ x =>
      match x.pending with
      | 0 => (x, .value ())
      | n + 1 => ({ x with pending := n }, .error (.unavailable "down")) }

theorem Services.storeSucceeds_outage : Services.outage.StoreSucceeds := fun _ _ => rfl

/-- The charge for the sample job is sent during an outage, and not again behind it. -/
theorem sample_reconcile_charges_once :
    let w := World.seeded ⟨[], 1⟩ Job.sample
    let w' := (w.reconcile .outage "owner" Job.sample.running).1
    let after := w'.insist .outage "owner" Job.sample.running [(1, w'.outside), (2, w'.outside)]
    traceOf Event.charge? w'.log = [.ofJob Job.sample.running "owner"] ∧
      (∀ reply ∈ after.2, reply = .value ()) ∧
      traceOf Event.charge? after.1.log = traceOf Event.charge? w'.log := by
  intro w w' after
  obtain ⟨-, -, -, hsent, hreplies, -, hnever⟩ := reconcile_charges_once
    (show w.reconcile .outage "owner" Job.sample.running = _ from rfl)
    Services.storeSucceeds_outage Job.sample.running rfl rfl
    [(1, w'.outside), (2, w'.outside)]
  exact ⟨hsent, hreplies, hnever⟩

/-- The charge for the sample job is refused during an outage. When the job is stored again the
service would take it, but is not asked. -/
theorem sample_charge_lost :
    let w := World.seeded ⟨[], 1⟩ Job.sample
    let first := w.reconcile .outage "owner" Job.sample.running
    let second := first.1.reconcile .outage "owner" first.2.1
    (∃ e, first.2.2 = .error (.funds e)) ∧
      (∀ charge, (Services.outage.accept charge first.1.outside).2 = .value ()) ∧
      second.2.2 = .value () ∧
      traceOf Event.charge? second.1.log = traceOf Event.charge? first.1.log :=
  ⟨⟨_, rfl⟩, fun _ => rfl, rfl, by decide +kernel⟩

end WalletTasks
