import WalletTasks.Proofs.Meets

/-!
# Storing a job

What becomes of the store and of the log when a job is stored, where all operations of the store
succeed: a change of status is appended to the history, the record is stamped and written over the
stored one, and the charge is sent if it is owed. A program that stores its job may be dropped
between any two of these, and the charge may fail.

* `World.reconcile_eq`: what storing a job comes to for the runner.
* `Routine.meets_persist`: what it comes to in a program.
-/

namespace WalletTasks

variable {σ : Type}

/-- The job as it is stored at a moment. -/
def Job.stamped (job : Job) (t : Instant) : Job :=
  { job with description := Wire.describe job.task, updatedAt := t }

namespace Store

/-- The store with a change of status of a job in the history, if there is one. -/
def noted (st : Store) (before : Status) (job : Job) (t : Instant) : Store :=
  if before = job.status then st else st.record ⟨job.id, before, job.status, job.error, t⟩

/-- The store with a job written over its stored copy. -/
def overwritten (st : Store) (job : Job) : Store :=
  { st with jobs := place job st.jobs, writes := st.writes + 1 }

@[simp] theorem get?_audit (st : Store) (e : AuditEntry) (id : Identifier) :
    (st.audit e).get? id = st.get? id := rfl

/-- A history entry leaves the jobs as they are. -/
@[simp] theorem get?_noted (st : Store) (before : Status) (job : Job) (t : Instant)
    (id : Identifier) : (st.noted before job t).get? id = st.get? id := by
  unfold noted
  split <;> rfl

theorem get?_overwritten (st : Store) (job : Job) (id : Identifier) :
    (st.overwritten job).get? id = if job.id = id then some job else st.get? id :=
  find?_place st.jobs

theorem get?_overwritten_self (st : Store) (job : Job) :
    (st.overwritten job).get? job.id = some job :=
  (st.get?_overwritten job job.id).trans (if_pos rfl)

theorem update?_eq_overwritten {st : Store} {job stored : Job} (h : st.get? job.id = some stored) :
    st.update? job = some (st.overwritten job) := by
  simp [update?, h, overwritten]

end Store

/-- The events of settling the charge for a change of status. -/
def BillingPolicy.chargeEvents (p : BillingPolicy) (login : String) (before : Status) (job : Job) :
    List Event :=
  if p.chargeOwed before job.status job.task.kind then [.charged (.ofJob job login)] else []

/-- Every operation of the store succeeds. -/
def Services.StoreSucceeds (s : Services σ) : Prop := ∀ c x, (s.fault? c x).2 = none

namespace World

variable {s : Services σ} {w : World σ} {job stored : Job}

/-- A store that succeeds only moves the outside on. -/
theorem fault?_eq (hs : s.StoreSucceeds) (c : StoreCall) :
    ∃ outside, w.fault? s c = ({ w with outside }, none) :=
  ⟨_, Prod.ext rfl (hs c w.outside)⟩

theorem getJob_eq (hs : s.StoreSucceeds) {id : Identifier} (hj : w.store.get? id = some stored) :
    ∃ outside, w.getJob s id = ({ w with outside }, .ok stored) := by
  obtain ⟨outside, h⟩ := w.fault?_eq hs .get
  exact ⟨outside, by simp only [getJob, h, hj]⟩

/-- An update of a stored job succeeds. -/
theorem updateJob_eq (hs : s.StoreSucceeds) (job : Job) (hj : w.store.get? job.id = some stored) :
    ∃ outside, w.updateJob s job =
      ({ w with
          outside
          store := w.store.overwritten job
          log := .updated job :: w.log }, .ok ()) := by
  obtain ⟨outside, h⟩ := w.fault?_eq hs .update
  exact ⟨outside, by simp only [updateJob, h, Store.update?_eq_overwritten hj]⟩

theorem recordStatus_eq (hs : s.StoreSucceeds) (before : Status) (job : Job) :
    ∃ outside, w.recordStatus s before job =
      { w with outside, store := w.store.noted before job (s.wallClock w.now) } := by
  unfold recordStatus Store.noted
  split
  · exact ⟨w.outside, rfl⟩
  · obtain ⟨outside, h⟩ := w.fault?_eq hs .history
    exact ⟨outside, by simp only [h]⟩

theorem recordTransaction_eq (hs : s.StoreSucceeds) (entry : AuditEntry) :
    ∃ outside, w.recordTransaction s entry = { w with outside, store := w.store.audit entry } := by
  obtain ⟨outside, h⟩ := w.fault?_eq hs .audit
  exact ⟨outside, by simp only [recordTransaction, h]⟩

/-- The charge is in the log exactly when it is owed, and only the charge can fail. -/
theorem settleCharge_eq (login : String) (before : Status) (job : Job) :
    ∃ outside reply, w.settleCharge s login before job =
        ({ w with outside, log := s.billing.chargeEvents login before job ++ w.log }, reply) ∧
      (s.billing.chargeOwed before job.status job.task.kind = false → reply = .value ()) ∧
      ∀ e, reply = .error e → ∃ f, e = .funds f := by
  unfold settleCharge BillingPolicy.chargeEvents
  split
  · rename_i h
    rcases hr : s.accept (.ofJob job login) w.outside with ⟨outside, (_ | e | message)⟩
    · exact ⟨outside, .value (), by simp only [hr]; rfl, fun _ => rfl, fun e he => by cases he⟩
    · exact ⟨outside, .error (.funds e), by simp only [hr]; rfl, fun hc => by simp [h] at hc,
        fun _ he => by cases he; exact ⟨e, rfl⟩⟩
    · exact ⟨outside, .crash message, by simp only [hr]; rfl, fun hc => by simp [h] at hc,
        fun e he => by cases he⟩
  · exact ⟨w.outside, .value (), rfl, fun _ => rfl, fun e he => by cases he⟩

/-- **What storing a job comes to**: its history, its record and its charge are settled against the
stored copy. -/
theorem reconcile_eq (hs : s.StoreSucceeds) (login : String) (job : Job)
    (hj : w.store.get? job.id = some stored) :
    let t := s.wallClock w.now
    ∃ w' reply, w.reconcile s login job = (w', job.stamped t, reply) ∧
      w'.store = (w.store.noted stored.status job t).overwritten (job.stamped t) ∧
      w'.log =
        s.billing.chargeEvents login stored.status job ++ .updated (job.stamped t) :: w.log ∧
      (s.billing.chargeOwed stored.status job.status job.task.kind = false →
        reply = .value ()) ∧
      ∀ e, reply = .error e → ∃ f, e = .funds f := by
  obtain ⟨o₁, h₁⟩ := getJob_eq hs hj
  obtain ⟨o₂, h₂⟩ := recordStatus_eq (w := { w with outside := o₁ }) hs stored.status job
  unfold reconcile
  rw [h₁]
  simp only
  rw [h₂]
  -- the entry in the history leaves the jobs alone, so that the update finds the stored copy
  have hj' : (w.store.noted stored.status job (s.wallClock w.now)).get?
      (job.stamped (s.wallClock w.now)).id = some stored := by
    rw [Store.get?_noted]; exact hj
  obtain ⟨o₃, h₃⟩ := updateJob_eq (w := { w with
    outside := o₂
    store := w.store.noted stored.status job (s.wallClock w.now) }) hs _ hj'
  have hstamp : ∀ v : World σ, v.now = w.now → v.stamp s job = job.stamped (s.wallClock w.now) := by
    intro v hv
    simp only [stamp, hv]
    rfl
  simp only [hstamp]
  rw [h₃]
  obtain ⟨o₄, reply, h₄, howed, hfunds⟩ := settleCharge_eq (s := s) (w := { w with
    outside := o₃
    store := (w.store.noted stored.status job (s.wallClock w.now)).overwritten
      (job.stamped (s.wallClock w.now))
    log := .updated (job.stamped (s.wallClock w.now)) :: w.log })
    login stored.status (job.stamped (s.wallClock w.now))
  exact ⟨_, reply, by simp only; rw [h₄], rfl, rfl, howed, hfunds⟩

end World

/-! ## In a program -/

/-- A failure or a crash of the funds service, or a wait beyond the backstop. -/
def Halt.IsOfStoring (owed : Bool) (h : Halt) : Prop :=
  h = .dropped ∨ (owed = true ∧ ((∃ e, h = .failed (.funds e)) ∨ ∃ message, h = .crashed message))

theorem Halt.IsOfStoring.eq_dropped {owed : Bool} {h : Halt} (hh : h.IsOfStoring owed)
    (ho : owed = false) : h = .dropped := by
  rcases hh with hh | ⟨howed, -⟩
  · exact hh
  · rw [ho] at howed
    cases howed

theorem Halt.IsOfStoring.isRetryable {owed : Bool} {h : Halt} (hh : h.IsOfStoring owed) :
    h.isRetryable = false := by
  obtain rfl | ⟨-, ⟨e, rfl⟩ | ⟨message, rfl⟩⟩ := hh <;> rfl

/-- A job has been stored over its stored copy, with its history and its charge. -/
structure World.Stores (s : Services σ) (login : String) (stored job : Job) (t₁ t₂ : Instant)
    (w w' : World σ) : Prop where
  store_eq : w'.store = (w.store.noted stored.status job t₁).overwritten (job.stamped t₂)
  log_eq : w'.log =
    s.billing.chargeEvents login stored.status job ++ .updated (job.stamped t₂) :: w.log

/-- How far a program may have come with storing a job over its stored copy when it ends. -/
inductive World.Storing (s : Services σ) (login : String) (stored job : Job) (w w' : World σ) :
    Job → Prop
  | unwritten (t : Instant)
    (hstore : w'.store = w.store ∨ w'.store = w.store.noted stored.status job t)
    (hlog : w'.log = w.log) : Storing s login stored job w w' job
  | written (t₁ t₂ : Instant)
    (hstore : w'.store = (w.store.noted stored.status job t₁).overwritten (job.stamped t₂))
    (hlog : w'.log = .updated (job.stamped t₂) :: w.log ∨
      w'.log =
        s.billing.chargeEvents login stored.status job ++ .updated (job.stamped t₂) :: w.log) :
    Storing s login stored job w w' (job.stamped t₂)

namespace Routine

variable {s : Services σ} {r : Session} {w : World σ} {job stored : Job}
  {D : World σ → Job → Unit → Prop} {H : World σ → Job → Halt → Prop}

theorem meets_clock {D : World σ → Job → Instant → Prop}
    (h : ∀ w' t, w'.store = w.store → w'.log = w.log → D w' job t) :
    (ask .clock).Meets s r w job D H :=
  meets_ask_uninterruptible (q := .clock) rfl rfl (fun _ _ _ h => by cases h)
    fun w' hstore hlog => h w' _ hstore hlog

theorem meets_draw {least most : UInt64} {D : World σ → Job → UInt64 → Prop}
    (h : ∀ w' n, w'.store = w.store → w'.log = w.log → D w' job n) :
    (ask (.draw least most)).Meets s r w job D H :=
  meets_ask_uninterruptible (q := .draw least most) rfl rfl (fun _ _ _ h => by cases h)
    fun w' hstore hlog => h w' _ hstore hlog

theorem meets_remaining {D : World σ → Job → Nat → Prop}
    (h : ∀ w' n, w'.store = w.store → w'.log = w.log → D w' job n) :
    (ask .remaining).Meets s r w job D H :=
  meets_ask_uninterruptible (q := .remaining) rfl rfl (fun _ _ _ h => by cases h)
    fun w' hstore hlog => h w' _ hstore hlog

theorem meets_audit (hs : s.StoreSucceeds) {entry : AuditEntry}
    (hdrop : ∀ w', w'.store = w.store.audit entry → w'.log = w.log → H w' job .dropped)
    (hdone : ∀ w', w'.store = w.store.audit entry → w'.log = w.log → D w' job ()) :
    (ask (.audit entry)).Meets s r w job D H := by
  obtain ⟨outside, h⟩ := World.recordTransaction_eq (w := w) hs entry
  refine meets_ask_uninterruptible (q := .audit entry) rfl
    (by simp only [World.startRequest, h]; rfl) (fun w' _ _ _ => hdrop w') ?_
  intro w' hstore hlog
  rw [Started.verdict_after]
  exact hdone w' hstore hlog

theorem meets_reread (hs : s.StoreSucceeds) (hj : w.store.get? job.id = some stored)
    {D : World σ → Job → Except TaskError Job → Prop}
    (hdrop : ∀ w', w'.store = w.store → w'.log = w.log → H w' job .dropped)
    (hdone : ∀ w', w'.store = w.store → w'.log = w.log → D w' job (.ok stored)) :
    (ask .reread).Meets s r w job D H := by
  obtain ⟨outside, h⟩ := World.getJob_eq hs hj
  refine meets_ask_uninterruptible (q := .reread) rfl
    (by simp only [World.startRequest, h]; rfl) ?_ ?_
  · intro w' _ _ _ hstore hlog
    exact hdrop w' hstore hlog
  intro w' hstore hlog
  rw [Started.verdict_after]
  exact hdone w' hstore hlog

/-- What a history write meets: dropped with the entry written, or done with it. -/
theorem meets_note (hs : s.StoreSucceeds) {before : Status}
    (hdrop : ∀ w' t, w'.store = w.store.noted before job t → w'.log = w.log → H w' job .dropped)
    (hdone : ∀ w' t, w'.store = w.store.noted before job t → w'.log = w.log → D w' job ()) :
    (ask (.note before)).Meets s r w job D H := by
  -- a status that stays is not noted, and then nothing can be dropped
  by_cases hb : before = job.status
  · refine meets_ask_uninterruptible (q := .note before) rfl
      (by simp only [World.startRequest, hb, if_true]; rfl) (fun _ _ _ h => by cases h) ?_
    intro w' hstore hlog
    exact hdone w' default (by rw [hstore, Store.noted, if_pos hb]) hlog
  · obtain ⟨outside, h⟩ := World.recordStatus_eq (w := w) hs before job
    refine meets_ask_uninterruptible (q := .note before) rfl
      (by simp only [World.startRequest, hb, if_false, h]; rfl) (fun w' _ _ _ => hdrop w' _) ?_
    intro w' hstore hlog
    rw [Started.verdict_after]
    exact hdone w' _ hstore hlog

/-- What an update meets: the store holds the stamped job, dropped or done. -/
theorem meets_store (hs : s.StoreSucceeds) (hj : w.store.get? job.id = some stored)
    {D : World σ → Job → Except TaskError Unit → Prop}
    (hdrop : ∀ w' t, w'.store = w.store.overwritten (job.stamped t) →
      w'.log = .updated (job.stamped t) :: w.log → H w' (job.stamped t) .dropped)
    (hdone : ∀ w' t, w'.store = w.store.overwritten (job.stamped t) →
      w'.log = .updated (job.stamped t) :: w.log → D w' (job.stamped t) (.ok ())) :
    (ask .store).Meets s r w job D H := by
  obtain ⟨outside, h⟩ := World.updateJob_eq (w := w) hs (w.stamp s job) hj
  refine meets_ask_uninterruptible (q := .store) rfl
    (by simp only [World.startRequest, h]; rfl) (fun w' _ _ _ => hdrop w' (s.wallClock w.now)) ?_
  intro w' hstore hlog
  rw [Started.verdict_after]
  exact hdone w' (s.wallClock w.now) hstore hlog

/-- What a charge meets: it is in the log whatever comes of it, if it is owed. -/
theorem meets_charge {before : Status} {D : World σ → Job → Except TaskError Unit → Prop}
    (hhalt : s.billing.chargeOwed before job.status job.task.kind = true → ∀ w' h,
      w'.store = w.store →
      w'.log = s.billing.chargeEvents r.user.login before job ++ w.log →
      h = .dropped ∨ (∃ message, h = .crashed message) → H w' job h)
    (hdone : ∀ w' a, w'.store = w.store →
      w'.log = s.billing.chargeEvents r.user.login before job ++ w.log →
      a = .ok () ∨ (s.billing.chargeOwed before job.status job.task.kind = true ∧
        ∃ e, a = .error (.funds e)) → D w' job a) :
    (ask (.charge before)).Meets s r w job D H := by
  -- only a charge that is owed reaches the service
  by_cases hb : s.billing.chargeOwed before job.status job.task.kind = true
  · obtain ⟨outside, reply, h, -, hfunds⟩ := World.settleCharge_eq (s := s) (w := w)
      r.user.login before job
    refine meets_ask_uninterruptible (q := .charge before) rfl
      (by simp only [World.startRequest, hb, if_true, h]; rfl) ?_ ?_
    · intro w' _ _ _ hstore hlog
      exact hhalt hb w' _ hstore hlog (.inl rfl)
    intro w' hstore hlog
    rw [Started.verdict_after]
    cases reply with
    | value a => exact hdone w' _ hstore hlog (.inl rfl)
    | error e =>
      obtain ⟨f, rfl⟩ := hfunds e rfl
      exact hdone w' _ hstore hlog (.inr ⟨hb, f, rfl⟩)
    | crash message => exact hhalt hb w' _ hstore hlog (.inr ⟨message, rfl⟩)
  · refine meets_ask_uninterruptible (q := .charge before) rfl
      (by simp only [World.startRequest, hb]; rfl) (fun _ _ _ h => by cases h) ?_
    intro w' hstore hlog
    exact hdone w' _ hstore (by rw [hlog, BillingPolicy.chargeEvents, if_neg hb]; rfl) (.inl rfl)

/-- **What storing the job comes to in a program**: it is dropped somewhere on the way, it is all
done but the charge fails, or it is all done. -/
theorem meets_persist_charging (hs : s.StoreSucceeds) (hj : w.store.get? job.id = some stored)
    (hdrop : ∀ w' job', World.Storing s r.user.login stored job w w' job' → H w' job' .dropped)
    (hfail : s.billing.chargeOwed stored.status job.status job.task.kind = true →
      ∀ w' t₁ t₂ h, World.Stores s r.user.login stored job t₁ t₂ w w' →
        ((∃ e, h = .failed (.funds e)) ∨ ∃ message, h = .crashed message) →
        H w' (job.stamped t₂) h)
    (hdone : ∀ w' t₁ t₂, World.Stores s r.user.login stored job t₁ t₂ w w' →
      D w' (job.stamped t₂) ()) :
    persist.Meets s r w job D H := by
  -- four requests one after the other, and the program may be dropped behind each of them
  unfold persist
  simp only [meets_bind, meets_ofExcept]
  refine meets_reread hs hj
    (fun w' hstore hlog => hdrop _ _ (.unwritten default (.inl hstore) hlog)) ?_
  intro w₁ hstore₁ hlog₁
  have hnoted : ∀ {w' : World σ} {t : Instant}, w'.store = w₁.store.noted stored.status job t →
      w'.store = w.store.noted stored.status job t := by
    intro w' t h
    rw [h, hstore₁]
  refine meets_note hs (fun w' t hstore hlog => hdrop _ _
    (.unwritten t (.inr (hnoted hstore)) (hlog.trans hlog₁))) ?_
  intro w₂ t₁ hstore₂ hlog₂
  have hj₂ : w₂.store.get? job.id = some stored := by
    rw [hnoted hstore₂, Store.get?_noted, hj]
  refine meets_store hs hj₂ ?_ ?_
  · intro w' t hstore hlog
    refine hdrop _ _ (.written t₁ t ?_ (.inl ?_))
    · rw [hstore, hnoted hstore₂]
    · rw [hlog, hlog₂, hlog₁]
  intro w₃ t₂ hstore₃ hlog₃
  have hstores : ∀ w' : World σ, w'.store = w₃.store →
      w'.log = s.billing.chargeEvents r.user.login stored.status (job.stamped t₂) ++ w₃.log →
      World.Stores s r.user.login stored job t₁ t₂ w w' := by
    intro w' hstore hlog
    refine ⟨?_, ?_⟩
    · rw [hstore, hstore₃, hnoted hstore₂]
    · rw [hlog, hlog₃, hlog₂, hlog₁]
      rfl
  refine meets_charge ?_ ?_
  · intro howed w' h hstore hlog hh
    have hst := hstores w' hstore hlog
    rcases hh with rfl | ⟨message, rfl⟩
    · exact hdrop _ _ (.written t₁ t₂ hst.store_eq (.inr hst.log_eq))
    · exact hfail howed w' t₁ t₂ _ hst (.inr ⟨message, rfl⟩)
  · rintro w' a hstore hlog (rfl | ⟨howed, e, rfl⟩)
    · exact hdone w' t₁ t₂ (hstores w' hstore hlog)
    · exact hfail howed w' t₁ t₂ _ (hstores w' hstore hlog) (.inl ⟨e, rfl⟩)

theorem meets_persist (hs : s.StoreSucceeds) (hj : w.store.get? job.id = some stored)
    (hhalt : ∀ w' job' h, World.Storing s r.user.login stored job w w' job' →
      h.IsOfStoring (s.billing.chargeOwed stored.status job.status job.task.kind) → H w' job' h)
    (hdone : ∀ w' t₁ t₂, World.Stores s r.user.login stored job t₁ t₂ w w' →
      D w' (job.stamped t₂) ()) :
    persist.Meets s r w job D H := by
  refine meets_persist_charging hs hj ?_ ?_ hdone
  · intro w' job' hst
    exact hhalt w' job' _ hst (.inl rfl)
  · intro howed w' t₁ t₂ h hst hh
    exact hhalt w' _ h (.written t₁ t₂ hst.store_eq (.inr hst.log_eq)) (.inr ⟨howed, hh⟩)

end Routine

end WalletTasks
