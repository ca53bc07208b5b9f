import WalletTasks.Proofs.Answering

/-!
# The audit list and the stored job

The approval of a submission is written to the audit list behind the write that puts its footprint
on record, and the transaction itself behind the write that confirms it. Where the store answers in
time a run cannot end between the two, so that at the end of each run the audit list of a job tells
of the transactions that the stored job has on record, each of them once, and of nothing else.

* `run_audits`: a run adds to the audit list what it adds to the record.
* `reruns_audited`: this holds behind any sequence of runs, whatever has interrupted them.
-/

namespace WalletTasks

variable {σ : Type}

/-- What the audit list tells of a transaction, but for the network and the time. -/
structure AuditedTransaction where
  jobId : Identifier
  processId : Identifier
  profileId : Identifier
  txId : String
  role : TransactionRole
  gas : Option GasPlan
deriving DecidableEq, Repr

def AuditEntry.transaction (e : AuditEntry) : AuditedTransaction :=
  ⟨e.jobId, e.processId, e.profileId, e.txId, e.role, e.gas⟩

/-- A transaction of a job. -/
def Job.transaction (job : Job) (txId : String) (role : TransactionRole) (gas : Option GasPlan) :
    AuditedTransaction :=
  ⟨job.id, job.processId, job.profileId, txId, role, gas⟩

/-- The transactions that a job has on record: the approval, if there has been one, and behind it
the transaction itself once it is confirmed. -/
def Job.trail (job : Job) : List AuditedTransaction :=
  match job.task.payload.footprint? with
  | none => []
  | some f =>
    (f.approveTxId.map fun txId => job.transaction txId .approve f.gas).toList ++
      if f.completed then [job.transaction f.txId .primary f.gas] else []

/-- A job with the same identifiers and the same task. -/
structure Job.Agrees (a b : Job) : Prop where
  id_eq : a.id = b.id
  processId_eq : a.processId = b.processId
  profileId_eq : a.profileId = b.profileId
  task_eq : a.task = b.task

/-- A job that a run has made of a copy: with its identifiers, and with the same action. -/
structure Job.Pursues (job : Job) (action : Action) (copy : Job) : Prop where
  id_eq : job.id = copy.id
  processId_eq : job.processId = copy.processId
  profileId_eq : job.profileId = copy.profileId
  payload_eq : ∃ footprint, job.task.payload = .chain action footprint

/-- The stored copy of a job agrees with it, and the audit list has grown by entries for some
transactions. -/
structure Audits (before : List AuditEntry) (told : List AuditedTransaction) (held : Job)
    (st : Store) : Prop where
  stored : ∃ j, st.get? held.id = some j ∧ j.Agrees held
  entries : ∃ es, st.transactionsOf held.id = before ++ es ∧
    es.map AuditEntry.transaction = told

/-- The audit list of a job has grown by what the job has on record, which is what a run has made of
a copy. -/
structure Tallies (before : List AuditEntry) (action : Action) (copy held : Job) (st : Store) :
    Prop where
  pursues : held.Pursues action copy
  audits : Audits before held.trail held st

/-- The audit list of a job has grown by what the stored job has on record. -/
def Audited (before : List AuditEntry) (action : Action) (copy : Job) (st : Store) : Prop :=
  ∃ held : Job, Tallies before action copy held st

section

variable {s : Services σ} {login : String} {before : List AuditEntry}
  {told : List AuditedTransaction} {action : Action} {copy held job stored : Job} {st : Store}
  {w w' : World σ} {f : Footprint} {t t₁ t₂ : Instant}

/-! ## The transactions on record -/

theorem Job.Agrees.refl (job : Job) : job.Agrees job := ⟨rfl, rfl, rfl, rfl⟩

theorem Job.agrees_stamped (job : Job) (t : Instant) : (job.stamped t).Agrees job :=
  ⟨rfl, rfl, rfl, rfl⟩

theorem Job.agrees_failed (job : Job) (e : TaskError) : (job.failed e).Agrees job :=
  ⟨rfl, rfl, rfl, rfl⟩

theorem Job.agrees_cleared (job : Job) : job.cleared.Agrees job := ⟨rfl, rfl, rfl, rfl⟩

theorem Job.agrees_running (job : Job) : job.running.Agrees job := ⟨rfl, rfl, rfl, rfl⟩

theorem Job.agrees_done (job : Job) : job.done.Agrees job := ⟨rfl, rfl, rfl, rfl⟩

theorem Job.Agrees.symm {a b : Job} (h : a.Agrees b) : b.Agrees a :=
  ⟨h.id_eq.symm, h.processId_eq.symm, h.profileId_eq.symm, h.task_eq.symm⟩

theorem Job.Agrees.trans {a b c : Job} (h : a.Agrees b) (h' : b.Agrees c) : a.Agrees c :=
  ⟨h.id_eq.trans h'.id_eq, h.processId_eq.trans h'.processId_eq,
    h.profileId_eq.trans h'.profileId_eq, h.task_eq.trans h'.task_eq⟩

/-- Jobs that agree pursue the same. -/
theorem Job.Agrees.pursues {a b : Job} (h : a.Agrees b) (hb : b.Pursues action copy) :
    a.Pursues action copy :=
  ⟨h.id_eq.trans hb.id_eq, h.processId_eq.trans hb.processId_eq,
    h.profileId_eq.trans hb.profileId_eq, by rw [h.task_eq]; exact hb.payload_eq⟩

/-- The trail of a job depends on its payload alone. -/
theorem Job.Agrees.trail_eq {a b : Job} (h : a.Agrees b) : a.trail = b.trail := by
  unfold trail transaction
  rw [h.id_eq, h.processId_eq, h.profileId_eq, h.task_eq]

/-- A job without a transaction has told nothing. -/
theorem Job.trail_of_none (h : job.task.payload.footprint? = none) : job.trail = [] := by
  unfold trail
  rw [h]

/-- A submission puts its approval on record. -/
theorem Job.trail_submitted (h : job.Pursues action copy) (hopen : f.completed = false) :
    (job.submitted f).trail =
      (f.approveTxId.map fun txId => job.transaction txId .approve f.gas).toList := by
  obtain ⟨footprint, hpayload⟩ := h.payload_eq
  have hf : (job.submitted f).task.payload.footprint? = some f := by
    simp [submitted, mapPayload, hpayload, Payload.withFootprint, Payload.footprint?]
  unfold trail
  simp only [hf, hopen, Bool.false_eq_true, if_false, List.append_nil]
  rfl

/-- A confirmation puts the transaction itself on record. -/
theorem Job.trail_confirmed (hf : job.task.payload.footprint? = some f)
    (hopen : f.completed = false) :
    job.confirmed.trail = job.trail ++ [job.transaction f.txId .primary f.gas] := by
  have hf' : job.confirmed.task.payload.footprint? = some { f with completed := true } :=
    Payload.footprint?_complete hf
  unfold trail
  simp only [hf, hf', hopen, Bool.false_eq_true, if_false, if_true, List.append_nil]
  rfl

/-- A submission does not change what the job is after. -/
theorem Job.Pursues.submitted (h : job.Pursues action copy) (f : Footprint) :
    (job.submitted f).Pursues action copy := by
  obtain ⟨footprint, hpayload⟩ := h.payload_eq
  refine ⟨h.id_eq, h.processId_eq, h.profileId_eq, some f, ?_⟩
  simp [Job.submitted, mapPayload, hpayload, Payload.withFootprint]

theorem Job.Pursues.confirmed (h : job.Pursues action copy) :
    job.confirmed.Pursues action copy := by
  obtain ⟨footprint, hpayload⟩ := h.payload_eq
  refine ⟨h.id_eq, h.processId_eq, h.profileId_eq, ?_⟩
  cases footprint <;> simp [Job.confirmed, mapPayload, hpayload, Payload.complete]

/-! ## The audit list -/

namespace Audits

theorem of_agrees (h : Audits before told held st) (hjob : job.Agrees held) :
    Audits before told job st := by
  obtain ⟨stored, hstored, hagrees⟩ := h.stored
  refine ⟨⟨stored, ?_, hagrees.trans hjob.symm⟩, ?_⟩
  · rw [hjob.id_eq, hstored]
  · rw [hjob.id_eq]
    exact h.entries

theorem noted (h : Audits before told held st) (status : Status) (job : Job) (t : Instant) :
    Audits before told held (st.noted status job t) := by
  unfold Store.noted
  split
  · exact h
  · exact ⟨h.stored, h.entries⟩

/-- A job that is written over the stored copy leaves the audit list alone, whatever has become of
the job. -/
theorem overwritten (h : Audits before told held st) (hid : job.id = held.id) :
    Audits before told job (st.overwritten job) := by
  refine ⟨⟨job, st.get?_overwritten_self job, .refl job⟩, ?_⟩
  rw [hid]
  exact h.entries

/-- An entry of the audit list is told of from then on. -/
theorem audit (h : Audits before told held st) (entry : AuditEntry)
    (hentry : entry.jobId = held.id) :
    Audits before (told ++ [entry.transaction]) held (st.audit entry) := by
  refine ⟨h.stored, ?_⟩
  obtain ⟨es, htransactions, htold⟩ := h.entries
  refine ⟨es ++ [entry], ?_, by rw [List.map_append, htold]; rfl⟩
  unfold Store.transactionsOf at *
  simp [Store.audit, hentry, htransactions]

theorem of_stores (h : Audits before told held w.store) (hid : job.id = held.id)
    (hst : World.Stores s login stored job t₁ t₂ w w') :
    Audits before told (job.stamped t₂) w'.store := by
  rw [hst.store_eq]
  exact (h.noted ..).overwritten hid

end Audits

namespace Tallies

theorem of_agrees (h : Tallies before action copy held st) (hjob : job.Agrees held) :
    Tallies before action copy job st := by
  refine ⟨hjob.pursues h.pursues, ?_⟩
  rw [hjob.trail_eq]
  exact h.audits.of_agrees hjob

/-- Storing a job with the same task leaves the audit list in agreement with it. -/
theorem of_stores (h : Tallies before action copy held w.store) (hjob : job.Agrees held)
    (hst : World.Stores s login stored job t₁ t₂ w w') :
    Tallies before action copy (job.stamped t₂) w'.store := by
  have htallies := h.of_agrees ((job.agrees_stamped t₂).trans hjob)
  exact ⟨htallies.pursues, htallies.audits.of_stores rfl hst⟩

/-- So it does where it is cut off. -/
theorem of_storing (h : Tallies before action copy held w.store) (hjob : job.Agrees held)
    {held' : Job} (hst : World.Storing s login stored job w w' held') :
    Tallies before action copy held' w'.store := by
  cases hst with
  | unwritten t hstore hlog =>
    have htallies := h.of_agrees hjob
    refine ⟨htallies.pursues, ?_⟩
    rcases hstore with hstore | hstore
    · rw [hstore]
      exact htallies.audits
    · rw [hstore]
      exact htallies.audits.noted ..
  | written t₁ t₂ hstore hlog =>
    have htallies := h.of_agrees ((job.agrees_stamped t₂).trans hjob)
    refine ⟨htallies.pursues, ?_⟩
    rw [hstore]
    exact (htallies.audits.noted ..).overwritten rfl

/-! A run that ends while the audit list agrees with its job leaves it so. -/

/-- A job that fails keeps its transaction on record, and so its trail. -/
theorem failsTo (h : Tallies before action copy held w.store) (dropped : Bool) (e : TaskError) :
    FailsTo (fun _ st _ _ => Audited before action copy st) s login dropped w held e := by
  obtain ⟨stored, hj, -⟩ := h.audits.stored
  exact ⟨stored, hj, fun w' t result hst _ => ⟨_, h.of_stores (held.agrees_failed e) hst⟩⟩

/-- However the run halts, the audit list is in step with what is stored. -/
theorem closesHalted {r : Session} (h : Tallies before action copy held w.store) (e : Halt) :
    ClosesHalted (fun _ st _ _ => Audited before action copy st) s r w held e := by
  obtain ⟨stored, hj, -⟩ := h.audits.stored
  exact ⟨fun _ => ⟨stored, hj, held, h⟩, fun _ => h.failsTo _ _⟩

theorem closesDone {r : Session} (h : Tallies before action copy held w.store) :
    ClosesDone (fun _ st _ _ => Audited before action copy st) s r w held () := by
  obtain ⟨stored, hj, -⟩ := h.audits.stored
  exact ⟨stored, hj, fun w' t result hst _ => ⟨_, h.of_stores held.agrees_cleared hst⟩⟩

end Tallies

/-! ## The executor -/

namespace Executor

open Routine

variable {r : Session} {a : Attempt} {D : World σ → Job → Unit → Prop}
  {H : World σ → Job → Halt → Prop}

/-- A transaction is written to the audit list, if the store answers. -/
theorem Attempt.answered_auditing (hs : s.StoreSucceeds) {txId : String} {role : TransactionRole}
    {gas : Option GasPlan}
    (hdone : ∀ w' t, w'.store = w.store.audit (a.entry held txId role gas t) → D w' held ()) :
    (a.audit txId role gas).Answered Request.asksStore s r w held D H := by
  unfold Attempt.audit
  simp only [answered_bind, answered_held]
  refine answered_of_meets (meets_clock ?_)
  intro w₁ t hstore₁ _
  refine answered_ask rfl (meets_audit hs (fun _ _ _ h => by cases h) ?_)
  intro w' hstore _
  exact hdone w' t (by rw [hstore, hstore₁])

/-- A job is stored with another status. -/
theorem meets_persist_tallies (hs : s.StoreSucceeds)
    (h : Tallies before action copy held w.store) (hjob : job.Agrees held)
    (hdone : ∀ w' t₂, w'.store.get? job.id = some (job.stamped t₂) →
      Tallies before action copy (job.stamped t₂) w'.store → D w' (job.stamped t₂) ()) :
    persist.Meets s r w job D
      (ClosesHalted (fun _ st _ _ => Audited before action copy st) s r) := by
  obtain ⟨stored, hj, -⟩ := h.audits.stored
  rw [← hjob.id_eq] at hj
  refine meets_persist hs hj ?_ ?_
  · intro w' held' halt hst _
    exact (h.of_storing hjob hst).closesHalted halt
  · intro w' t₁ t₂ hst
    exact hdone w' t₂ hst.get? (h.of_stores hjob hst)

/-- Settling writes the status alone. -/
theorem settle_audits (hs : s.StoreSucceeds) (h : Tallies before action copy held w.store) :
    settle.Meets s r w held (ClosesDone (fun _ st _ _ => Audited before action copy st) s r)
      (ClosesHalted (fun _ st _ _ => Audited before action copy st) s r) := by
  unfold settle
  simp only [meets_bind, meets_held]
  split
  · simp only [meets_bind, meets_setStatus]
    exact meets_persist_tallies hs h held.agrees_done fun w' t₂ _ h' => h'.closesDone
  · exact h.closesDone

/-- The wait for a decision: if the transaction is confirmed, the audit list tells of it behind the
write that confirms it. -/
theorem conclude_audits (hs : s.StoreSucceeds) {interval : Span}
    (hj : w.store.get? held.id = some held) (h : Tallies before action copy held w.store) :
    (do a.wait interval; settle : Routine Unit).Answered Request.asksStore s r w held
      (ClosesDone (fun _ st _ _ => Audited before action copy st) s r)
      (ClosesHalted (fun _ st _ _ => Audited before action copy st) s r) := by
  unfold Attempt.wait
  simp only [answered_bind, answered_held]
  split
  · rw [answered_pure]
    exact answered_of_meets (settle_audits hs h)
  rename_i f hf
  split
  · rw [answered_pure]
    exact answered_of_meets (settle_audits hs h)
  rename_i hopen
  simp only [answered_bind]
  refine answered_of_meets (meets_remaining ?_)
  intro w₀ remaining hstore₀ _
  refine answered_of_meets (Attempt.meets_awaitDecision _ ?_ ?_)
  · intro w' events halt hstore _ _
    rw [hstore₀] at hstore
    rw [← hstore] at h
    exact h.closesHalted halt
  intro w₁ events undecided hstore₁ _ _ _
  rw [hstore₀] at hstore₁
  rw [answered_modify]
  have hj₁ : w₁.store.get? held.confirmed.id = some held := by rw [hstore₁]; exact hj
  refine answered_persist hs hj₁ (s.billing.chargeOwed_self _ _) ?_
  intro w₂ t₁ t₂ hst
  -- the confirmation is on record; the audit list lacks it until the next write
  refine Attempt.answered_auditing hs ?_
  intro w₃ t₃ hstore₃
  have hagrees := held.confirmed.agrees_stamped t₂
  -- behind it the list has caught up, and what is left stores the same task once more
  refine answered_of_meets (settle_audits hs ⟨hagrees.pursues h.pursues.confirmed, ?_⟩)
  have htrail : (held.confirmed.stamped t₂).trail =
      held.trail ++ [held.transaction f.txId .primary f.gas] := by
    rw [hagrees.trail_eq, Job.trail_confirmed hf (by simpa using hopen)]
  have haudits := h.audits
  rw [← hstore₁] at haudits
  rw [hstore₃]
  have haudits₃ := (haudits.of_stores (by rfl) hst).audit
    (a.entry (held.confirmed.stamped t₂) f.txId .primary f.gas t₃) rfl
  rw [htrail]
  exact haudits₃

/-- A submission: the audit list tells of its approval behind the write that puts it on record. -/
theorem submit_audits (hs : s.StoreSucceeds) {settings : NetworkSettings} {interval : Span}
    (hj : w.store.get? held.id = some held) (h : Tallies before action copy held w.store)
    (hnone : held.task.payload.footprint? = none) :
    (do a.submit settings; a.wait interval; settle : Routine Unit).Answered Request.asksStore
      s r w held (ClosesDone (fun _ st _ _ => Audited before action copy st) s r)
      (ClosesHalted (fun _ st _ _ => Audited before action copy st) s r) := by
  unfold Attempt.submit
  simp only [answered_bind]
  refine answered_of_meets (Attempt.meets_broadcast ?_ ?_)
  · intro w' events halt hstore _ _
    rw [← hstore] at h
    exact h.closesHalted halt
  intro w₁ events terms hstore₁ _ _ _ _
  refine answered_of_meets (meets_clock ?_)
  intro w₂ t hstore₂ _
  rw [hstore₁] at hstore₂
  rw [answered_modify]
  let f : Footprint :=
    ⟨terms.submission.txId, terms.submission.approveTxId, some terms.plan, false, t⟩
  have hj₂ : w₂.store.get? (held.submitted f).id = some held := by rw [hstore₂]; exact hj
  -- nothing is owed for a footprint, as the status is stored already
  refine answered_persist hs hj₂ (s.billing.chargeOwed_self _ _) ?_
  intro w₃ t₁ t₂ hst
  have hagrees := (held.submitted f).agrees_stamped t₂
  have htrail : ((held.submitted f).stamped t₂).trail =
      (f.approveTxId.map fun txId => held.transaction txId .approve f.gas).toList := by
    rw [hagrees.trail_eq, Job.trail_submitted h.pursues rfl]
  have haudits : Audits before [] ((held.submitted f).stamped t₂) w₃.store := by
    have haudits₂ := h.audits
    rw [Job.trail_of_none hnone, ← hstore₂] at haudits₂
    exact haudits₂.of_stores (by rfl) hst
  have hpursues := hagrees.pursues (h.pursues.submitted f)
  have hget := hst.get?
  -- the list lags behind the record exactly if there was an approval
  split
  · rename_i approve happrove
    refine Attempt.answered_auditing hs ?_
    intro w₄ t₄ hstore₄
    refine (answered_bind ..).1 (conclude_audits hs (by rw [hstore₄]; exact hget) ⟨hpursues, ?_⟩)
    rw [htrail, hstore₄, show f.approveTxId = some approve from happrove]
    exact haudits.audit (a.entry ((held.submitted f).stamped t₂) approve .approve f.gas t₄) rfl
  · rename_i happrove
    rw [answered_pure]
    refine (answered_bind ..).1 (conclude_audits hs hget ⟨hpursues, ?_⟩)
    rw [htrail, show f.approveTxId = none from happrove]
    exact haudits

/-- If the store answers in time, then a run of a transaction leaves the audit list as the stored
job tells it. -/
theorem lifecycle_audits (hs : s.StoreSucceeds) {footprint : Option Footprint} {info : RunInfo}
    (hopen : job.status.isTerminal = false) (hpayload : job.task.payload = .chain action footprint)
    (h : Tallies before action copy job w.store) :
    ((lifecycle job.task.kind).run info).Answered Request.asksStore s r w job
      (ClosesDone (fun _ st _ _ => Audited before action copy st) s r)
      (ClosesHalted (fun _ st _ _ => Audited before action copy st) s r) := by
  have hpay : job.task.payloadAs job.task.kind.shape = .ok (.chain action footprint) := by
    rw [job.task.payloadAs_shape, hpayload]
  simp only [lifecycle, answered_bind, answered_held, hopen, Bool.false_eq_true, if_false,
    answered_ofExcept, hpay, answered_setStatus]
  -- up to the submission there is nothing to audit, in time or not
  refine answered_of_meets (meets_persist_tallies hs h job.agrees_running ?_)
  intro w₁ t₂ hget h₁
  refine answered_of_meets (Attempt.meets_reach ?_ ?_)
  · intro w' events halt hstore _ _
    rw [← hstore] at h₁
    exact h₁.closesHalted halt
  intro w₂ events a settings hstore₂ _ _ _
  rw [← hstore₂] at hget h₁
  -- a transaction on record has been audited before; a new one is audited behind its submission
  cases footprint with
  | none =>
    have hnone : (job.running.stamped t₂).task.payload.footprint? = none :=
      congrArg Payload.footprint? hpayload
    exact submit_audits hs hget h₁ hnone
  | some f => exact conclude_audits hs hget h₁

end Executor

/-! ## Whole runs -/

/-- **A run adds to the audit list what it adds to the record**, if the store answers in time. -/
theorem run_audits (hs : s.StoreSucceeds) (user : Account)
    (h : Tallies before action copy job w.store)
    (hanswers : isDroppedAt Request.asksStore s .standard user job w = false) :
    Audited before action copy (run s .standard user job w).1.store := by
  refine run_of_meets_begun (P := fun _ st _ _ => Audited before action copy st) hs
    (fun _ => ⟨job, h⟩) (fun _ => ⟨job, h⟩) (fun _ _ _ => ⟨job, h⟩) ?_ ?_
  · intro events e w' _ _ hstore _
    rw [← hstore] at h
    exact h.failsTo false e
  · intro events w' r hopen hbegin _ hstore _ _ _ _
    -- that the run is not dropped says that its executor is not
    obtain ⟨footprint, hpayload⟩ := h.pursues.payload_eq
    unfold isDroppedAt at hanswers
    rw [hbegin] at hanswers
    rw [Executor.standard_of_chain hpayload] at hanswers ⊢
    rw [← hstore] at h
    exact Executor.lifecycle_audits hs hopen hpayload h hanswers

/-- One run of the stored job keeps the audit list in step with it. -/
theorem rerun_audits (hs : s.StoreSucceeds) (turn : Turn)
    (h : Audited before action copy w.store)
    (hanswers : w.isRerunDroppedAt Request.asksStore s copy.id turn = false) :
    Audited before action copy (w.rerun s copy.id turn).1.store := by
  obtain ⟨held, htallies⟩ := h
  obtain ⟨stored, hj, hagrees⟩ := htallies.audits.stored
  rw [htallies.pursues.id_eq] at hj
  unfold World.isRerunDroppedAt at hanswers
  rw [hj] at hanswers
  rw [(World.rerun_of_get? turn hj).1]
  exact run_audits hs turn.user (htallies.of_agrees hagrees) hanswers

/-- The audit list stays in step with the stored job over any sequence of runs. -/
theorem reruns_audits (hs : s.StoreSucceeds) (turns : List Turn)
    (h : Audited before action copy w.store)
    (hanswers : w.Answers Request.asksStore s copy.id turns) :
    Audited before action copy (w.reruns s copy.id turns).store := by
  -- the copy at the start stays fixed: it is against its identifiers that each run is measured
  induction turns generalizing w with
  | nil => exact h
  | cons turn turns ih => exact ih (rerun_audits hs turn h hanswers.1) hanswers.2

/-- **Each transaction is audited once.** A job that has left nothing on chain is run over and over,
each time as it is stored by then, and whatever may interrupt the runs, the store answers them in
time. Then the audit list of the job has grown by entries for the transactions that the stored job
has on record, in their order, and by nothing else: for its approval if there has been one, and for
the transaction itself if it is confirmed. -/
theorem reruns_audited (hs : s.StoreSucceeds) {id : Identifier}
    (hj : w.store.get? id = some job) (hpayload : job.task.payload = .chain action none)
    (turns : List Turn) (hanswers : w.Answers Request.asksStore s id turns) :
    ∃ stored entries, (w.reruns s id turns).store.get? id = some stored ∧
      stored.processId = job.processId ∧ stored.profileId = job.profileId ∧
      (w.reruns s id turns).store.transactionsOf id = w.store.transactionsOf id ++ entries ∧
      entries.map AuditEntry.transaction = stored.trail := by
  obtain rfl := Store.get?_id hj
  have hnone : job.task.payload.footprint? = none := congrArg Payload.footprint? hpayload
  have hseeded : Tallies (w.store.transactionsOf job.id) action job job w.store := by
    refine ⟨⟨rfl, rfl, rfl, none, hpayload⟩, ⟨job, hj, .refl job⟩, [], by simp, ?_⟩
    rw [Job.trail_of_none hnone]
    rfl
  obtain ⟨held, hpursues, ⟨stored, hget, hagrees⟩, entries, hentries, htold⟩ :=
    reruns_audits hs turns ⟨job, hseeded⟩ hanswers
  rw [hpursues.id_eq] at hget hentries
  exact ⟨stored, entries, hget, hagrees.processId_eq.trans hpursues.processId_eq,
    hagrees.profileId_eq.trans hpursues.profileId_eq, hentries, by rw [htold, hagrees.trail_eq]⟩

end

/-- Services whose chains need an approval for each submission. -/
def Services.approving : Services Outlook :=
  { Services.willing with
    respond := fun c x =>
      match c with
      | .submit _ request =>
        let txId := if request.estimateOnly then "" else "0xsent"
        (x, ⟨0, .value ⟨txId, some "0xapproved", ⟨21000, .zero⟩⟩⟩)
      | c => Services.willing.respond c x }

/-- The first run submits the sample job and is stopped while it waits; the second one finds the
transaction confirmed. -/
theorem sample_reruns_audited :
    let w := World.seeded .stopped .sample
    let turn : Turn := ⟨.sample, 0⟩
    let audited (turns : List Turn) :=
      ((w.reruns .approving default turns).store.transactionsOf default).map fun e =>
        (e.txId, e.role)
    audited [turn] = [("0xapproved", .approve)] ∧
      audited [turn, turn] = [("0xapproved", .approve), ("0xsent", .primary)] ∧
      ∃ stored, (w.reruns .approving default [turn, turn]).store.get? default = some stored ∧
        ((w.reruns .approving default [turn, turn]).store.transactionsOf default).map
          AuditEntry.transaction = stored.trail := by
  intro w turn audited
  refine ⟨by decide +kernel, by decide +kernel, ?_⟩
  obtain ⟨stored, entries, hget, -, -, hentries, htrail⟩ :=
    reruns_audited (w := w) (s := .approving) (fun _ _ => rfl) (get?_seeded _ Job.sample) rfl
      [turn, turn] ⟨by decide +kernel, by decide +kernel, trivial⟩
  refine ⟨stored, hget, ?_⟩
  rw [← htrail]
  exact congrArg (List.map AuditEntry.transaction) hentries

end WalletTasks
