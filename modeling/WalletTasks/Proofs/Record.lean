import WalletTasks.Proofs.Passing

/-!
# The record of a transaction

What runs of a job store of its transaction. A transaction that is once on record stays as it is,
but for the mark that it is confirmed; the mark is set behind a poll of this very transaction that
was answered so, and stays; and a job is only stored as done with the mark. This holds of every
write, those of failed runs included.

* `Faithful`: what all writes of a job are to say of its transaction.
* `Executor.lifecycle_stands`: every write of the executor is vouched for.
* `run_endsFaithful`: and so is every write of a run.
-/

namespace WalletTasks

variable {σ α : Type}

/-- A poll of the transaction was answered that it is confirmed. -/
def ConfirmedIn (events : List Event) (txId : String) : Prop :=
  ∃ client, .answered (.poll client txId) (.ok .confirmed) ∈ events

/-- What a job says of its transaction is borne out by the events before: it keeps what has been
stored, and says of a transaction that it is confirmed only if a poll was answered so. -/
structure Job.MayStore (seed : Job) (events : List Event) (job : Job) : Prop where
  id_eq : job.id = seed.id
  kind_eq : job.task.kind = seed.task.kind
  kept : ∀ old, .updated old ∈ events → old.id = seed.id →
    old.task.payload.Grows job.task.payload
  confirmed : ∀ f, job.task.payload.footprint? = some f → f.completed = true →
    ConfirmedIn events f.txId

/-- The job is not done short of the confirmation of its transaction. -/
def Job.IsSettled (job : Job) : Prop :=
  job.status = .done → ∃ f, job.task.payload.footprint? = some f ∧ f.completed = true

/-- All writes of the job among the events are vouched for by the events before them, and the stored
job is the last one that was written. -/
structure Faithful (seed : Job) (st : Store) (events : List Event) : Prop where
  written : ∀ job earlier, (.updated job :: earlier) <:+ events → job.id = seed.id →
    seed.MayStore earlier job ∧ job.IsSettled
  stored : ∃ stored, st.get? seed.id = some stored ∧ seed.MayStore events stored ∧
    (stored = seed ∨ .updated stored ∈ events)

/-! ## Events behind a write -/

section

variable {seed job held stored : Job} {st st' : Store} {newer events : List Event}

namespace Job.MayStore

/-- Nothing but the task counts. -/
theorem of_task_eq (h : seed.MayStore events job) (hid : held.id = job.id)
    (htask : held.task = job.task) : seed.MayStore events held :=
  ⟨hid.trans h.id_eq, htask ▸ h.kind_eq, htask ▸ h.kept, htask ▸ h.confirmed⟩

theorem append (h : seed.MayStore events job) (hnew : ∀ j, .updated j ∉ newer) :
    seed.MayStore (newer ++ events) job := by
  refine ⟨h.id_eq, h.kind_eq, ?_, ?_⟩
  · intro old hold hid
    rcases List.mem_append.1 hold with hold | hold
    · exact absurd hold (hnew old)
    · exact h.kept old hold hid
  · intro f hf hc
    obtain ⟨client, hmem⟩ := h.confirmed f hf hc
    exact ⟨client, List.mem_append_right newer hmem⟩

/-- A job that has been written is vouched for by its own write. -/
theorem cons (h : seed.MayStore events job) : seed.MayStore (.updated job :: events) job := by
  refine ⟨h.id_eq, h.kind_eq, ?_, ?_⟩
  · intro old hold hid
    rcases List.mem_cons.1 hold with hold | hold
    · cases hold
      exact .refl _
    · exact h.kept old hold hid
  · intro f hf hc
    obtain ⟨client, hmem⟩ := h.confirmed f hf hc
    exact ⟨client, List.mem_cons_of_mem _ hmem⟩

/-- A job without a transaction may be given one, which is not confirmed. -/
theorem withFootprint (h : seed.MayStore events job) (hnone : job.task.payload.footprint? = none)
    {f : Footprint} (hf : f.completed = false) :
    seed.MayStore events
      (job.mapPayload (.withFootprint f) (Payload.shape_withFootprint f)) := by
  refine ⟨h.id_eq, h.kind_eq, ?_, ?_⟩
  · intro old hold hid
    exact (h.kept old hold hid).trans (.withFootprint f hnone)
  · intro g hg hc
    have hgf : g = f := by
      change (job.task.payload.withFootprint f).footprint? = some g at hg
      cases hp : job.task.payload with
      | chain action footprint =>
        rw [hp] at hg
        cases hg
        rfl
      | _ => rw [hp] at hg; cases hg
    rw [hgf, hf] at hc
    cases hc

/-- The transaction of a job may be marked once a poll was answered that it is confirmed. -/
theorem complete (h : seed.MayStore events job) {f : Footprint}
    (hf : job.task.payload.footprint? = some f) (hc : ConfirmedIn events f.txId) :
    seed.MayStore events job.confirmed := by
  refine ⟨h.id_eq, h.kind_eq, ?_, ?_⟩
  · intro old hold hid
    exact (h.kept old hold hid).trans (.complete _)
  · intro g hg _
    change job.task.payload.complete.footprint? = some g at hg
    rw [Payload.footprint?_complete hf] at hg
    cases hg
    exact hc

end Job.MayStore

namespace Faithful

theorem append (h : Faithful seed st events) (hget : st'.get? seed.id = st.get? seed.id)
    (hnew : ∀ j, .updated j ∉ newer) : Faithful seed st' (newer ++ events) := by
  obtain ⟨stored, hstored, hvouched, horigin⟩ := h.stored
  refine ⟨?_, stored, hget.trans hstored, hvouched.append hnew, ?_⟩
  · intro job earlier hsuffix hid
    induction newer with
    | nil => exact h.written job earlier hsuffix hid
    | cons e newer ih =>
      rcases List.suffix_cons_iff.1 hsuffix with heq | hsuffix
      · cases heq
        exact absurd List.mem_cons_self (hnew job)
      · exact ih (fun j hj => hnew j (List.mem_cons_of_mem e hj)) hsuffix
  · exact horigin.imp_right (List.mem_append_right newer)

/-- What has been vouched for may be stored. -/
theorem store (h : Faithful seed st events) (hvouched : seed.MayStore events job)
    (hsettled : job.IsSettled) (hget : st'.get? seed.id = some job) :
    Faithful seed st' (.updated job :: events) := by
  refine ⟨?_, job, hget, hvouched.cons, .inr List.mem_cons_self⟩
  intro job' earlier hsuffix hid
  rcases List.suffix_cons_iff.1 hsuffix with heq | hsuffix
  · cases heq
    exact ⟨hvouched, hsettled⟩
  · exact h.written job' earlier hsuffix hid

end Faithful

end

/-! ## Within a run -/

/-- A run stands well: its writes so far, and those of earlier runs since `base`, are vouched for,
and so is the job that it holds. -/
def Stands (base : List Event) (seed : Job) (w : World σ) (held : Job) : Prop :=
  ∃ events, w.log = events ++ base ∧ Faithful seed w.store events ∧ seed.MayStore events held ∧
    held.IsSettled

/-- What is to hold behind a run. -/
def EndsFaithful (base : List Event) (seed : Job) (_ : Bool) (st : Store) (log : List Event)
    (_ : Except Fault Job) : Prop :=
  ∃ events, log = events ++ base ∧ Faithful seed st events

section

variable {s : Services σ} {r : Session} {base : List Event} {seed held stored : Job}
  {w w' : World σ}

/-- A charge is not a write. -/
theorem updated_not_mem_chargeEvents (p : BillingPolicy) (login : String) (before : Status)
    (job : Job) : ∀ j, .updated j ∉ p.chargeEvents login before job := by
  intro j
  unfold BillingPolicy.chargeEvents
  split <;> simp

namespace Stands

theorem id_eq (h : Stands base seed w held) : held.id = seed.id := by
  obtain ⟨events, -, -, hvouched, -⟩ := h
  exact hvouched.id_eq

/-- A job that stands is stored. -/
theorem exists_get? (h : Stands base seed w held) :
    ∃ stored, w.store.get? held.id = some stored := by
  rw [h.id_eq]
  obtain ⟨events, -, hfaithful, -, -⟩ := h
  obtain ⟨stored, hget, -⟩ := hfaithful.stored
  exact ⟨stored, hget⟩

/-- The transaction of the job may be marked once a poll was answered that it is confirmed. -/
theorem confirmed (h : Stands base seed w held) {f : Footprint}
    (hf : held.task.payload.footprint? = some f)
    (hc : ∀ events, w.log = events ++ base → ConfirmedIn events f.txId) :
    Stands base seed w held.confirmed := by
  obtain ⟨events, hlog, hfaithful, hmay, -⟩ := h
  exact ⟨events, hlog, hfaithful, hmay.complete hf (hc events hlog),
    fun _ => ⟨_, Payload.footprint?_complete hf, rfl⟩⟩

/-- A job that has no transaction and is not done may be given one. -/
theorem withFootprint (h : Stands base seed w held) (hnone : held.task.payload.footprint? = none)
    (hopen : held.status ≠ .done) {f : Footprint} (hf : f.completed = false) :
    Stands base seed w
      (held.mapPayload (.withFootprint f) (Payload.shape_withFootprint f)) := by
  obtain ⟨events, hlog, hfaithful, hmay, -⟩ := h
  exact ⟨events, hlog, hfaithful, hmay.withFootprint hnone hf, fun hdone => absurd hdone hopen⟩

/-- What is changed in the job but the task does not count, short of setting it to done. -/
theorem of_task_eq {job : Job} (h : Stands base seed w held) (hid : job.id = held.id)
    (htask : job.task = held.task) (hsettled : job.IsSettled) : Stands base seed w job := by
  obtain ⟨events, hlog, hfaithful, hvouched, -⟩ := h
  exact ⟨events, hlog, hfaithful, hvouched.of_task_eq hid htask, hsettled⟩

theorem of_logsOnly (h : Stands base seed w held)
    (hlog : World.LogsOnly (fun e => ∀ j, e ≠ .updated j) w w')
    (hget : w'.store.get? seed.id = w.store.get? seed.id) : Stands base seed w' held := by
  obtain ⟨events, hlog₀, hfaithful, hvouched, hsettled⟩ := h
  obtain ⟨newer, hlog', hnewer⟩ := hlog
  have hnone : ∀ j, .updated j ∉ newer := fun j hj => hnewer _ hj j rfl
  exact ⟨newer ++ events, by rw [hlog', hlog₀, List.append_assoc], hfaithful.append hget hnone,
    hvouched.append hnone, hsettled⟩

/-- The job that is held has been stored. -/
theorem of_written {t : Instant} {newer : List Event} (h : Stands base seed w held)
    (hget : w'.store.get? held.id = some (held.stamped t))
    (hlog : w'.log = newer ++ .updated (held.stamped t) :: w.log)
    (hnone : ∀ j, .updated j ∉ newer) : Stands base seed w' (held.stamped t) := by
  rw [h.id_eq] at hget
  obtain ⟨events, hlog₀, hfaithful, hvouched, hsettled⟩ := h
  have hstamped : seed.MayStore events (held.stamped t) := hvouched.of_task_eq rfl rfl
  refine ⟨newer ++ .updated (held.stamped t) :: events, ?_, ?_, hstamped.cons.append hnone,
    hsettled⟩
  · rw [hlog, hlog₀, List.append_assoc]
    rfl
  · exact (hfaithful.store hstamped hsettled hget).append rfl hnone

/-- A job stands once it has been written as it is held. -/
theorem of_stores {login : String} {t₁ t₂ : Instant} (h : Stands base seed w held)
    (hst : World.Stores s login stored held t₁ t₂ w w') : Stands base seed w' (held.stamped t₂) :=
  h.of_written hst.get? hst.log_eq (updated_not_mem_chargeEvents _ _ _ _)

/-- A write that breaks off leaves the job standing. -/
theorem of_storing {login : String} {job : Job} (h : Stands base seed w held)
    (hst : World.Storing s login stored held w w' job) : Stands base seed w' job := by
  cases hst with
  | unwritten t hstore hlog =>
    refine h.of_logsOnly (.of_eq hlog) ?_
    rcases hstore with hstore | hstore
    · rw [hstore]
    · rw [hstore, Store.get?_noted]
  | written t₁ t₂ hstore hlog =>
    have hget : w'.store.get? held.id = some (held.stamped t₂) := by
      rw [hstore]
      exact Store.get?_overwritten_self ..
    -- dropped before the charge, or while it was made
    rcases hlog with hlog | hlog
    · exact h.of_written hget (hlog.trans (List.nil_append _).symm) (by simp)
    · exact h.of_written hget hlog (updated_not_mem_chargeEvents _ _ _ _)

/-- A failure leaves the writes vouched for. -/
theorem failsTo (h : Stands base seed w held) (login : String) (dropped : Bool) (e : TaskError) :
    FailsTo (EndsFaithful base seed) s login dropped w held e := by
  obtain ⟨stored, hget⟩ := h.exists_get?
  refine ⟨stored, hget, ?_⟩
  intro w' t result hst _
  have hfailed : Stands base seed w (held.failed e) :=
    h.of_task_eq rfl rfl fun hdone => by cases hdone
  obtain ⟨events, hlog, hfaithful, -⟩ := hfailed.of_stores hst
  exact ⟨events, hlog, hfaithful⟩

theorem closesHalted (h : Stands base seed w held) (halt : Halt) :
    ClosesHalted (EndsFaithful base seed) s r w held halt := by
  refine ⟨?_, fun _ => h.failsTo _ _ _⟩
  intro _
  obtain ⟨stored, hget⟩ := h.exists_get?
  obtain ⟨events, hlog, hfaithful, -⟩ := h
  exact ⟨stored, hget, events, hlog, hfaithful⟩

theorem closesDone (h : Stands base seed w held) :
    ClosesDone (EndsFaithful base seed) s r w held () := by
  obtain ⟨stored, hget⟩ := h.exists_get?
  refine ⟨stored, hget, ?_⟩
  intro w' t result hst _
  have hcleared : Stands base seed w held.cleared := by
    obtain ⟨_, _, _, _, hsettled⟩ := id h
    exact h.of_task_eq rfl rfl hsettled
  obtain ⟨events, hlog, hfaithful, -⟩ := hcleared.of_stores hst
  exact ⟨events, hlog, hfaithful⟩

end Stands

/-! ## The steps of an executor -/

/-- What a poll was answered, if it was not interrupted, is told by its event. -/
theorem Event.answered_of_poll? {client : Network} {txId : String} {state : TransactionState}
    {answer : Except TaskError TransactionState}
    (h : Event.poll? (.answered (.poll client txId) answer) = some (.ok state)) :
    Event.answered (.poll client txId) answer = .answered (.poll client txId) (.ok state) := by
  cases answer with
  | ok _ =>
    cases h
    rfl
  | error e => cases e <;> cases h

namespace Routine

variable {m : Routine α} {D : World σ → Job → α → Prop}

/-- A step that stores nothing leaves the task and the status alone. -/
theorem meets_aside_stands (hm : ∀ I : Job → Prop, m.KeepsTo (fun q => q.isAside = true) I)
    (h : Stands base seed w held)
    (hdone : ∀ w' held' a, Stands base seed w' held' → held'.task = held.task →
      held'.status = held.status → D w' held' a) :
    m.Meets s r w held D (ClosesHalted (EndsFaithful base seed) s r) := by
  let I : Job → Prop := fun job =>
    job.id = held.id ∧ job.task = held.task ∧ job.status = held.status
  have hstamped : ∀ (job : Job) (t : Instant), I job → I (job.stamped t) := fun _ _ h => h
  have hprogram := hm I held ⟨rfl, rfl, rfl⟩
  obtain ⟨hlog, hend⟩ := drive_logsOnly (s := s) (r := r) (w := w) hstamped hprogram
  have haside := drive_setsAside (s := s) (r := r) (w := w) hstamped hprogram fun _ h => h
  -- nothing is written, and the held job keeps its task and its status
  refine meets_of_drive (Q := fun w' held' => Stands base seed w' held' ∧ I held')
    ⟨?_, hend⟩ ?_ ?_
  · obtain ⟨hid, htask, hstatus⟩ := hend
    have hheld := h.of_logsOnly (hlog.mono ?_) (haside.get?_eq seed.id)
    · obtain ⟨_, _, _, _, hsettled⟩ := id h
      refine hheld.of_task_eq hid htask ?_
      unfold Job.IsSettled
      rw [hstatus, htask]
      exact hsettled
    · rintro e ⟨q, hq, he⟩ j rfl
      have := he.isOfStoring_eq
      rw [hq] at this
      cases this
  · rintro w' held' halt ⟨hstands, -⟩
    exact hstands.closesHalted halt
  · rintro w' held' a ⟨hstands, -, htask, hstatus⟩
    exact hdone w' held' a hstands htask hstatus

theorem meets_persist_stands (hs : s.StoreSucceeds) {D : World σ → Job → Unit → Prop}
    (h : Stands base seed w held)
    (hdone : ∀ w' t, Stands base seed w' (held.stamped t) → D w' (held.stamped t) ()) :
    persist.Meets s r w held D (ClosesHalted (EndsFaithful base seed) s r) := by
  obtain ⟨stored, hget⟩ := h.exists_get?
  refine meets_persist hs hget ?_ ?_
  · intro w' held' halt hst _
    exact (h.of_storing hst).closesHalted halt
  · intro w' t₁ t₂ hst
    exact hdone w' t₂ (h.of_stores hst)

end Routine

namespace Executor

open Routine

/-- The event that tells of a confirmation can only come of the poll. -/
theorem Request.Leaves.eq_answered_of_poll? {q : Request} {e : Event} {client : Network}
    {txId : String} {interval : Nat} {state : TransactionState} (h : q.Leaves e)
    (hq : q = .call (.poll client txId) ∨ q = .sleep interval)
    (hpoll : e.poll? = some (.ok state)) : e = .answered (.poll client txId) (.ok state) := by
  obtain rfl | rfl := hq
  · cases e with
    | answered c answer =>
      cases h
      exact Event.answered_of_poll? hpoll
    | called => cases hpoll
    | _ => cases h
  · cases e <;> cases h

/-- The wait for a decision ends with the confirmation of this very transaction, or halts. -/
theorem Attempt.meets_awaitDecision_stands {a : Attempt} {txId : String} {interval : Nat}
    (polls : Nat) {D : World σ → Job → Unit → Prop} (h : Stands base seed w held)
    (hdone : ∀ w', Stands base seed w' held →
      (∀ events, w'.log = events ++ base → ConfirmedIn events txId) → D w' held ()) :
    (a.awaitDecision txId interval polls).Meets s r w held D
      (ClosesHalted (EndsFaithful base seed) s r) := by
  let Waits : Request → Prop := fun q => q = .call (.poll a.client txId) ∨ q = .sleep interval
  have hkeeps : (a.awaitDecision txId interval polls).KeepsTo Waits (fun _ => True) :=
    Attempt.keepsTo_awaitDecision (.inl rfl) (.inr rfl) polls
  obtain ⟨hprogram, -⟩ := drive_logsOnly (s := s) (r := r) (w := w) (fun _ _ _ => trivial)
    (hkeeps held trivial)
  -- the polls are known by their answers, and which transaction they ask for by the program
  refine meets_mono (meets_and (meets_of_drive
      (Q := fun w' _ => World.LogsOnly (fun e => ∃ q, Waits q ∧ q.Leaves e) w w') hprogram
      (fun _ _ _ h => h) fun _ _ _ h => h)
    (Attempt.meets_awaitDecision
      (D := fun w' j _ => j = held ∧ w'.store = w.store ∧
        ∃ events, w'.log = events ++ w.log ∧ .ok .confirmed ∈ traceOf Event.poll? events)
      (H := fun w' j _ => j = held ∧ w'.store = w.store) polls ?_ ?_)) ?_ ?_
  · intro w' events halt hstore _ _
    exact ⟨rfl, hstore⟩
  · intro w' events undecided hstore hlog hpolls _
    exact ⟨rfl, hstore, events, hlog, by rw [hpolls.poll]; simp⟩
  all_goals
    have hnone : ∀ e, (∃ q, Waits q ∧ q.Leaves e) → ∀ j, e ≠ .updated j := by
      rintro e ⟨q, rfl | rfl, he⟩ j rfl <;> cases he
  · rintro w' j ⟨⟩ ⟨hclass, rfl, hstore, events, hlog, hmem⟩
    refine hdone w' (h.of_logsOnly (hclass.mono hnone) (by rw [hstore])) ?_
    obtain ⟨events', hlog', hall⟩ := hclass
    obtain rfl : events' = events := List.append_cancel_right (hlog'.symm.trans hlog)
    obtain ⟨e, he, hpoll⟩ := List.mem_filterMap.1 hmem
    have he := List.mem_reverse.1 he
    obtain ⟨q, hq, hleaves⟩ := hall e he
    have hanswered := Request.Leaves.eq_answered_of_poll? hleaves hq hpoll
    obtain ⟨earlier, hearlier, -⟩ := h
    intro newer hnewer
    rw [hlog, hearlier, ← List.append_assoc] at hnewer
    obtain rfl := List.append_cancel_right hnewer
    exact ⟨a.client, List.mem_append_left _ (hanswered ▸ he)⟩
  · rintro w' j halt ⟨hclass, rfl, hstore⟩
    exact (h.of_logsOnly (hclass.mono hnone) (by rw [hstore])).closesHalted halt

/-- Settling marks a job as done that has been confirmed. -/
theorem settle_stands (hs : s.StoreSucceeds) (h : Stands base seed w held) :
    settle.Meets s r w held (ClosesDone (EndsFaithful base seed) s r)
      (ClosesHalted (EndsFaithful base seed) s r) := by
  unfold settle
  simp only [meets_bind, meets_held]
  split
  · rename_i hcompleted
    obtain ⟨f, hf, hc⟩ := (Option.any_eq_true _ _).1 hcompleted
    simp only [meets_bind, meets_setStatus]
    refine meets_persist_stands hs (h.of_task_eq rfl rfl fun _ => ⟨f, hf, hc⟩) ?_
    intro w' t h'
    exact h'.closesDone
  · exact h.closesDone

/-- Behind a confirmation the job may be stored as completed, and as done. -/
theorem conclude_stands (hs : s.StoreSucceeds) {a : Attempt} {interval : Span}
    (h : Stands base seed w held) :
    (do
      a.wait interval
      settle : Routine Unit).Meets s r w held (ClosesDone (EndsFaithful base seed) s r)
      (ClosesHalted (EndsFaithful base seed) s r) := by
  unfold Attempt.wait
  simp only [meets_bind, meets_held]
  split
  · exact settle_stands hs h
  · rename_i f hf
    split
    · exact settle_stands hs h
    · simp only [meets_bind]
      refine meets_aside_stands (fun _ => keepsTo_ask rfl) h ?_
      intro w₁ held₁ remaining h₁ htask₁ _
      rw [← htask₁] at hf
      refine Attempt.meets_awaitDecision_stands _ h₁ ?_
      intro w₂ h₂ hconfirmed
      simp only [meets_modify]
      -- only the confirmation that was heard vouches for the completion
      refine meets_persist_stands hs (h₂.confirmed hf hconfirmed) ?_
      intro w₃ t h₃
      refine meets_aside_stands (fun _ => Attempt.keepsTo_audit rfl fun _ => rfl) h₃ ?_
      intro w₄ held₄ _ h₄ _ _
      exact settle_stands hs h₄

/-- A submission puts a new transaction on record. -/
theorem submit_stands (hs : s.StoreSucceeds) {a : Attempt} {settings : NetworkSettings}
    {D : World σ → Job → Unit → Prop} (h : Stands base seed w held)
    (hnone : held.task.payload.footprint? = none) (hopen : held.status ≠ .done)
    (hdone : ∀ w' held', Stands base seed w' held' → D w' held' ()) :
    (a.submit settings).Meets s r w held D (ClosesHalted (EndsFaithful base seed) s r) := by
  unfold Attempt.submit
  simp only [meets_bind]
  refine meets_aside_stands (fun _ => Attempt.keepsTo_broadcast fun _ _ => rfl) h ?_
  rintro w₁ held₁ ⟨plan, submission⟩ h₁ htask₁ hstatus₁
  refine meets_aside_stands (fun _ => keepsTo_ask rfl) h₁ ?_
  intro w₂ held₂ now h₂ htask₂ hstatus₂
  simp only [meets_modify]
  have hnone₂ : held₂.task.payload.footprint? = none := by rw [htask₂, htask₁, hnone]
  have hopen₂ : held₂.status ≠ .done := by rw [hstatus₂, hstatus₁]; exact hopen
  refine meets_persist_stands hs (h₂.withFootprint hnone₂ hopen₂ rfl) ?_
  intro w₃ t h₃
  split
  · exact meets_aside_stands (fun _ => Attempt.keepsTo_audit rfl fun _ => rfl) h₃
      fun w' held' _ h' _ _ => hdone w' held' h'
  · exact hdone w₃ _ h₃

/-- **All writes of the executor of chain actions are vouched for**, and so are those of its
failures. -/
theorem lifecycle_stands (hs : s.StoreSucceeds) {info : RunInfo} (h : Stands base seed w held)
    (hopen : held.status.isTerminal = false) :
    ((lifecycle held.task.kind).run info).Meets s r w held
      (ClosesDone (EndsFaithful base seed) s r) (ClosesHalted (EndsFaithful base seed) s r) := by
  simp only [lifecycle, meets_bind, meets_held, hopen, Bool.false_eq_true, if_false,
    meets_ofExcept]
  cases hp : held.task.payloadAs held.task.kind.shape with
  | error e => exact h.closesHalted _
  | ok payload =>
    have hpayload := Task.eq_of_payloadAs hp
    cases payload with
    | chain action footprint =>
      simp only [meets_bind, meets_setStatus]
      refine meets_persist_stands hs (h.of_task_eq rfl rfl fun hdone => by cases hdone) ?_
      intro w₁ t h₁
      refine meets_aside_stands (fun _ => Attempt.keepsTo_reach fun _ _ => rfl) h₁ ?_
      rintro w₂ held₂ ⟨attempt, settings⟩ h₂ htask₂ hstatus₂
      split
      · rename_i hnone
        simp only [meets_bind]
        refine submit_stands hs h₂ ?_ (by rw [hstatus₂]; exact fun hdone => by cases hdone) ?_
        · have htask : held₂.task = held.task := htask₂
          rw [htask, ← hpayload]
          exact Option.isNone_iff_eq_none.1 hnone
        · intro w₃ held₃ h₃
          rw [← meets_bind]
          exact conclude_stands hs h₃
      · exact conclude_stands hs h₂
    | _ => exact h.closesDone

end Executor

end

/-! ## Whole runs -/

section

variable {s : Services σ} {base : List Event} {seed job : Job} {w : World σ} {user : Account}

/-- The gate writes nothing. -/
theorem Gate.updated_not_mem {login : String} {kind : Kind} {events : List Event}
    {result : Except Fault Unit} (h : Gate s login kind events result) :
    ∀ j, .updated j ∉ events := by
  intro j
  cases h <;> simp

/-- A run of the stored job leaves all writes vouched for. -/
theorem run_endsFaithful (hs : s.StoreSucceeds) (user : Account) {events : List Event}
    (hlog : w.log = events ++ base) (hfaithful : Faithful seed w.store events)
    (hmay : seed.MayStore events job)
    (hchain : ∃ action footprint, seed.task.payload = .chain action footprint) :
    EndsFaithful base seed (isDropped s .standard user job w)
      (run s .standard user job w).1.store (run s .standard user job w).1.log
      (run s .standard user job w).2 := by
  have hstart : ∀ (w' : World σ) newer result, job.status.isTerminal = false →
      Gate s user.login job.task.kind newer result → w'.store = w.store →
      w'.log = newer ++ w.log → Stands base seed w' job := by
    intro w' newer result hopen hgate hstore hlog'
    have hnone := hgate.updated_not_mem
    refine ⟨newer ++ events, by rw [hlog', hlog, List.append_assoc],
      hfaithful.append (by rw [hstore]) hnone, hmay.append hnone, ?_⟩
    intro hdone
    rw [hdone] at hopen
    cases hopen
  refine run_of_meets (P := EndsFaithful base seed) hs ?_ ?_ ?_ ?_ ?_
  · exact fun _ => ⟨events, hlog, hfaithful⟩
  · exact fun _ => ⟨events, hlog, hfaithful⟩
  · intro newer message hgate
    exact ⟨newer ++ events, by rw [hlog, List.append_assoc],
      hfaithful.append rfl hgate.updated_not_mem⟩
  · intro newer e w' hopen hgate hstore hlog'
    exact (hstart w' newer _ hopen hgate hstore hlog').failsTo _ _ _
  · intro newer w' r hopen hgate hstore hlog' _ _ _
    have hlifecycle : Executor.standard job.task.kind = Executor.lifecycle job.task.kind := by
      obtain ⟨action, footprint, hpayload⟩ := hchain
      rw [hmay.kind_eq]
      exact Executor.standard_of_chain hpayload
    rw [hlifecycle]
    exact Executor.lifecycle_stands hs (hstart w' newer _ hopen hgate hstore hlog') hopen

end

end WalletTasks
