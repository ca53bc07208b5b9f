import WalletTasks.Proofs.Trace

/-!
# What a program leaves alone

Most of what an executor does has nothing to do with the store, and what it does to the store has
nothing to do with chains. A program that keeps to a class of requests leaves only the events of
that class in the log, and if storing is not among them, all jobs and their history stay as they
are, whatever the services answer and wherever the program ends.

* `drive_logsOnly`: the events of a program are events of its requests.
* `drive_setsAside`: a program that stores no job leaves the jobs and their history alone.
-/

namespace WalletTasks

variable {σ α β : Type}

/-! ## How the log grows -/

/-- Events that say nothing of a subject have no trace. -/
theorem traceOf_eq_nil {f : Event → Option α} {events : List Event}
    (h : ∀ e ∈ events, f e = none) : traceOf f events = [] := by
  unfold traceOf
  rw [List.filterMap_eq_nil_iff]
  intro e he
  exact h e (List.mem_reverse.1 he)

/-- The log has grown by events of a class. -/
def World.LogsOnly (P : Event → Prop) (w w' : World σ) : Prop :=
  ∃ events, w'.log = events ++ w.log ∧ ∀ e ∈ events, P e

namespace World.LogsOnly

variable {P Q : Event → Prop} {w w₁ w₂ : World σ}

theorem of_eq (h : w₁.log = w.log) : LogsOnly P w w₁ := ⟨[], h, by simp⟩

theorem trans (h₁ : LogsOnly P w w₁) (h₂ : LogsOnly P w₁ w₂) : LogsOnly P w w₂ := by
  obtain ⟨older, hlog₁, hall₁⟩ := h₁
  obtain ⟨newer, hlog₂, hall₂⟩ := h₂
  refine ⟨newer ++ older, World.log_append hlog₁ hlog₂, ?_⟩
  intro e he
  rcases List.mem_append.1 he with he | he
  · exact hall₂ e he
  · exact hall₁ e he

/-- What is logged only of a kind is logged only of a wider one. -/
theorem mono (h : LogsOnly P w w₁) (hPQ : ∀ e, P e → Q e) : LogsOnly Q w w₁ := by
  obtain ⟨events, hlog, hall⟩ := h
  exact ⟨events, hlog, fun e he => hPQ e (hall e he)⟩

theorem single {e : Event} (hlog : w₁.log = e :: w.log) (he : P e) : LogsOnly P w w₁ :=
  ⟨[e], hlog, by simpa using he⟩

/-- Events that say nothing of a subject add nothing to its trace. -/
theorem traceOf_eq {f : Event → Option α} (h : LogsOnly P w w₁) (hf : ∀ e, P e → f e = none) :
    traceOf f w₁.log = traceOf f w.log := by
  obtain ⟨events, hlog, hall⟩ := h
  exact World.traceOf_of_silent hlog (traceOf_eq_nil fun e he => hf e (hall e he))

end World.LogsOnly

/-- The log has grown, also by an event of a class. -/
def World.LogsSome (P : Event → Prop) (w w' : World σ) : Prop :=
  ∃ events, w'.log = events ++ w.log ∧ ∃ e ∈ events, P e

namespace World.LogsSome

variable {P : Event → Prop} {w w₁ w₂ : World σ}

theorem append (h : LogsSome P w w₁) (h' : LogsOnly (fun _ => True) w₁ w₂) : LogsSome P w w₂ := by
  obtain ⟨older, hlog, e, he, hP⟩ := h
  obtain ⟨newer, hlog', -⟩ := h'
  exact ⟨newer ++ older, World.log_append hlog hlog', e, List.mem_append_right _ he, hP⟩

theorem prepend (h : LogsOnly (fun _ => True) w w₁) (h' : LogsSome P w₁ w₂) : LogsSome P w w₂ := by
  obtain ⟨older, hlog, -⟩ := h
  obtain ⟨newer, hlog', e, he, hP⟩ := h'
  exact ⟨newer ++ older, World.log_append hlog hlog', e, List.mem_append_left _ he, hP⟩

end World.LogsSome

/-- Events of a class are not of another one. -/
theorem World.LogsOnly.not_logsSome {P Q : Event → Prop} {w w₁ : World σ} (h : LogsOnly P w w₁)
    (hPQ : ∀ e, P e → ¬Q e) : ¬LogsSome Q w w₁ := by
  rintro ⟨events', hlog', e, he, hQ⟩
  obtain ⟨events, hlog, hall⟩ := h
  obtain rfl := List.append_cancel_right (hlog.symm.trans hlog')
  exact hPQ e (hall e he) hQ

/-! ## The events of a request -/

namespace Request

/-- Whether an event can come of a request. -/
def Leaves : Request → Event → Prop
  | call c, .called _ c' _ => c' = c
  | call c, .answered c' _ => c' = c
  | store, .updated _ => True
  | charge _, .charged _ => True
  | _, _ => False

/-- Whether a request has nothing to do with storing the job. -/
def isAside : Request → Bool
  | reread | note _ | store | charge _ => false
  | _ => true

/-- Whether a request submits a transaction for real. -/
def isReal : Request → Bool
  | call c => c.isReal
  | _ => false

/-- Whether a request may come behind a submission. -/
def isFollowUp : Request → Bool
  | call c => c.isPoll
  | pause _ => false
  | _ => true

/-- Whether a request puts something on record, or reads the clock for it. None of these can be
interrupted. -/
def isRecording : Request → Bool
  | reread | note _ | store | charge _ | audit _ | clock => true
  | _ => false

theorem isRecording_of_isAside {q : Request} (h : q.isAside = false) : q.isRecording = true := by
  cases q <;> first | rfl | cases h

/-- A request that records something follows something up. -/
theorem isFollowUp_of_isRecording {q : Request} (h : q.isRecording = true) :
    q.isFollowUp = true := by
  cases q <;> first | rfl | cases h

/-- A request that records something is not interrupted. -/
theorem isInterruptible_of_isRecording {q : Request} (h : q.isRecording = true) :
    q.isInterruptible = false := by
  cases q <;> first | rfl | cases h

theorem isReal_of_isFollowUp {q : Request} (h : q.isFollowUp = true) : q.isReal = false := by
  cases q with
  | call c => cases c <;> first | rfl | cases h
  | _ => rfl

end Request

namespace Event

/-- Whether an event tells of storing a job. -/
def isOfStoring : Event → Bool
  | updated _ | charged _ => true
  | _ => false

/-- The call that was made. -/
def call? : Event → Option Call
  | called _ c _ => some c
  | _ => none

/-- Whether an event tells that a transaction was submitted for real. -/
def isReal : Event → Bool
  | called _ c _ => c.isReal
  | _ => false

theorem isReal_of_call?_eq_none {e : Event} (h : e.call? = none) : e.isReal = false := by
  cases e <;> first | rfl | cases h

theorem call?_of_isOfStoring {e : Event} (h : e.isOfStoring = true) : e.call? = none := by
  cases e <;> first | rfl | cases h

end Event

theorem Request.Leaves.isOfStoring_eq {q : Request} {e : Event} (h : q.Leaves e) :
    e.isOfStoring = !q.isAside := by
  cases q <;> cases e <;> first | rfl | cases h

namespace World

variable {s : Services σ} {r : Session} {w : World σ}

/-- The jobs and their history are as they were. -/
structure SetsAside (w w' : World σ) : Prop where
  jobs_eq : w'.store.jobs = w.store.jobs
  history_eq : w'.store.history = w.store.history

namespace SetsAside

variable {w' w₁ w₂ : World σ}

theorem of_eq (h : w₁.store = w.store) : SetsAside w w₁ := ⟨by rw [h], by rw [h]⟩

theorem trans (h₁ : SetsAside w w₁) (h₂ : SetsAside w₁ w₂) : SetsAside w w₂ :=
  ⟨h₂.jobs_eq.trans h₁.jobs_eq, h₂.history_eq.trans h₁.history_eq⟩

theorem get?_eq (h : SetsAside w w') (id : Identifier) : w'.store.get? id = w.store.get? id := by
  unfold Store.get?
  rw [h.jobs_eq]

theorem historyOf_eq (h : SetsAside w w') (id : Identifier) :
    w'.store.historyOf id = w.store.historyOf id := by
  unfold Store.historyOf
  rw [h.history_eq]

end SetsAside

theorem log_getJob (id : Identifier) : (w.getJob s id).1.log = w.log := by
  unfold getJob
  split
  · rename_i h
    rw [← (Prod.mk.inj h).1]
  · rename_i h
    rw [← (Prod.mk.inj h).1]
    split <;> rfl

theorem log_recordStatus (before : Status) (job : Job) :
    (w.recordStatus s before job).log = w.log := by
  unfold recordStatus
  split
  · rfl
  split
  · rename_i h
    rw [← (Prod.mk.inj h).1]
  · rename_i h
    rw [← (Prod.mk.inj h).1]

/-- An entry of the audit list leaves the jobs and the history as they are. -/
theorem recordTransaction_setsAside (entry : AuditEntry) :
    (w.recordTransaction s entry).log = w.log ∧
      SetsAside w (w.recordTransaction s entry) := by
  unfold recordTransaction
  split
  · rename_i h
    rw [← (Prod.mk.inj h).1]
    exact ⟨rfl, .of_eq rfl⟩
  · rename_i h
    rw [← (Prod.mk.inj h).1]
    exact ⟨rfl, rfl, rfl⟩

theorem updateJob_logsOnly (job : Job) :
    LogsOnly (fun e => e = .updated job) w (w.updateJob s job).1 := by
  unfold updateJob
  split
  · rename_i h
    rw [← (Prod.mk.inj h).1]
    exact .of_eq rfl
  · rename_i h
    rw [← (Prod.mk.inj h).1]
    split
    · exact .single rfl rfl
    · exact .of_eq rfl

/-- A charge is the only thing that charging logs. -/
theorem settleCharge_logsOnly (login : String) (before : Status) (job : Job) :
    LogsOnly (fun e => e = .charged (.ofJob job login)) w
      (w.settleCharge s login before job).1 := by
  obtain ⟨outside, reply, h, -⟩ := settleCharge_eq (s := s) (w := w) login before job
  rw [h]
  refine ⟨_, rfl, ?_⟩
  unfold BillingPolicy.chargeEvents
  split <;> simp

/-- The runner stores a job, and charges for it, without asking anything of a chain. -/
theorem reconcile_logsOnly (login : String) (job : Job) :
    LogsOnly (fun e => (∃ t, e = .updated (job.stamped t)) ∨ ∃ charge, e = .charged charge) w
      (w.reconcile s login job).1 := by
  have hget := log_getJob (s := s) (w := w) job.id
  unfold reconcile
  rcases hj : w.getJob s job.id with ⟨w₁, (e | stored)⟩
  · rw [hj] at hget
    exact .of_eq hget
  rw [hj] at hget
  have hrecord := log_recordStatus (s := s) (w := w₁) stored.status job
  simp only
  generalize w₁.recordStatus s stored.status job = w₂ at *
  have hupdate := updateJob_logsOnly (s := s) (w := w₂) (w₂.stamp s job)
  -- only a job that has been written is charged for
  rcases hu : w₂.updateJob s (w₂.stamp s job) with ⟨w₃, (e | ⟨⟨⟩⟩)⟩
  all_goals
    rw [hu] at hupdate
    have hstored : LogsOnly (fun e => (∃ t, e = .updated (job.stamped t)) ∨
        ∃ charge, e = .charged charge) w w₃ :=
      .trans (.of_eq (hrecord.trans hget)) (hupdate.mono fun e he => .inl ⟨_, he⟩)
  · exact hstored
  · have hcharge := settleCharge_logsOnly (s := s) (w := w₃) login stored.status (w₂.stamp s job)
    exact hstored.trans (hcharge.mono fun e he => .inr ⟨_, he⟩)

theorem reconcile_ofStoring (login : String) (job : Job) :
    LogsOnly (·.isOfStoring = true) w (w.reconcile s login job).1 := by
  refine (reconcile_logsOnly login job).mono ?_
  rintro e (⟨t, rfl⟩ | ⟨charge, rfl⟩) <;> rfl

/-- A request logs what it leaves, and nothing else. -/
theorem startRequest_logsOnly (held : Job) (q : Request) :
    LogsOnly q.Leaves w (w.startRequest s r held q).1 := by
  cases q with
  -- a call logs itself before anything can go wrong
  | call c => exact .single rfl rfl
  | reread => exact .of_eq (log_getJob held.id)
  | note before =>
    simp only [startRequest]
    split
    · exact .of_eq rfl
    · exact .of_eq (log_recordStatus before held)
  | store =>
    exact (updateJob_logsOnly (w.stamp s held)).mono fun e he => by rw [he]; trivial
  | charge before =>
    simp only [startRequest]
    split
    · exact (settleCharge_logsOnly r.user.login before held).mono fun e he => by rw [he]; trivial
    · exact .of_eq rfl
  | audit entry => exact .of_eq (recordTransaction_setsAside entry).1
  | _ => exact .of_eq rfl

theorem startRequest_setsAside (held : Job) {q : Request} (hq : q.isAside = true) :
    SetsAside w (w.startRequest s r held q).1 := by
  cases q with
  | audit entry =>
    obtain ⟨hjobs, hhistory⟩ := (recordTransaction_setsAside (s := s) (w := w) entry).2
    exact ⟨hjobs, hhistory⟩
  | reread | note | store | charge => cases hq
  | _ => exact .of_eq rfl

/-- A request at most stamps the job. -/
theorem held_startRequest (held : Job) (q : Request) :
    (w.startRequest s r held q).2.1 = held ∨
      ∃ t, (w.startRequest s r held q).2.1 = held.stamped t := by
  cases q with
  | store => exact .inr ⟨_, rfl⟩
  | note | charge =>
    simp only [startRequest]
    split <;> exact .inl rfl
  | _ => exact .inl rfl

theorem await_eq_of_store (stopAt : Option Nat) (q : Request) (due : Nat) (v : Verdict q.Answer) :
    (w.await r stopAt q due v).1.store = w.store ∧ (w.await r stopAt q due v).1.log = w.log := by
  unfold await
  split
  · dsimp only
    split <;> exact ⟨rfl, rfl⟩
  · split <;> exact ⟨rfl, rfl⟩

/-- Performing a request comes to starting it, unless it is interrupted before it starts. -/
theorem perform_eq_start (held : Job) (q : Request) :
    ∃ w₀ : World σ, w₀.store = w.store ∧ w₀.log = w.log ∧ ∃ w' held' v,
      w.perform s r held q = (w', held', v) ∧
        (w'.store = w.store ∧ w'.log = w.log ∧ held' = held ∨
          w'.store = (w₀.startRequest s r held q).1.store ∧
            w'.log = (w₀.startRequest s r held q).1.log ∧
              held' = (w₀.startRequest s r held q).2.1) := by
  obtain ⟨w₀, stopAt, hc, hstore, hlog⟩ := consult_eq (s := s) (r := r) (w := w) q
  refine ⟨w₀, hstore, hlog, ?_⟩
  unfold perform
  rw [hc]
  simp only [start]
  cases (w₀.interruption? r).bind q.interrupted? with
  | some a => exact ⟨_, _, _, rfl, .inl ⟨hstore, hlog, rfl⟩⟩
  | none =>
    rcases w₀.startRequest s r held q with ⟨w₁, held₁, v | ⟨due, v⟩⟩
    · exact ⟨_, _, _, rfl, .inr ⟨rfl, rfl, rfl⟩⟩
    · obtain ⟨hstore₁, hlog₁⟩ := await_eq_of_store (r := r) (w := w₁) stopAt q due v
      exact ⟨_, _, _, rfl, .inr ⟨hstore₁, hlog₁, rfl⟩⟩

theorem hear_logsOnly (q : Request) (a : q.Answer) :
    LogsOnly q.Leaves w (w.hear q a) ∧ (w.hear q a).store = w.store := by
  cases q with
  | call c => exact ⟨.single rfl rfl, rfl⟩
  | _ => exact ⟨.of_eq rfl, rfl⟩

/-- Interrupted or not, a request logs only what it leaves. -/
theorem perform_logsOnly (held : Job) (q : Request) :
    LogsOnly q.Leaves w (w.perform s r held q).1 := by
  obtain ⟨w₀, -, hlog₀, w', held', v, hp, ⟨-, hlog, -⟩ | ⟨-, hlog, -⟩⟩ :=
    perform_eq_start (s := s) (r := r) (w := w) held q
  · rw [hp]
    exact .of_eq hlog
  · rw [hp]
    have := startRequest_logsOnly (s := s) (r := r) (w := w₀) held q
    unfold LogsOnly at *
    rw [hlog, ← hlog₀]
    exact this

/-- A request that has nothing to do with storing the job leaves jobs and history as they are. -/
theorem perform_setsAside (held : Job) {q : Request} (hq : q.isAside = true) :
    SetsAside w (w.perform s r held q).1 := by
  obtain ⟨w₀, hstore₀, -, w', held', v, hp, ⟨hstore, -, -⟩ | ⟨hstore, -, -⟩⟩ :=
    perform_eq_start (s := s) (r := r) (w := w) held q
  · rw [hp]
    exact .of_eq hstore
  · rw [hp]
    exact (SetsAside.of_eq hstore₀).trans
      ((startRequest_setsAside (s := s) (r := r) held hq).trans (.of_eq hstore))

/-- A request changes of the held job no more than the time of its last write. -/
theorem holds_perform {I : Job → Prop} (hI : ∀ job t, I job → I (job.stamped t)) {held : Job}
    (hheld : I held) (q : Request) : I (w.perform s r held q).2.1 := by
  obtain ⟨w₀, -, -, w', held', v, hp, ⟨-, -, h⟩ | ⟨-, -, h⟩⟩ :=
    perform_eq_start (s := s) (r := r) (w := w) held q
  · rw [hp, h]
    exact hheld
  · rw [hp, h]
    rcases held_startRequest (s := s) (r := r) (w := w₀) held q with h | ⟨t, h⟩
    · rw [h]
      exact hheld
    · rw [h]
      exact hI held t hheld

end World

/-! ## Programs of a class -/

/-- A program keeps to requests of a class, holds a job of a class wherever it may end, and does not
wait for ever. -/
def Program.KeepsTo (ok : Request → Prop) (I : Job → Prop) : Program α → Prop
  | finish held _ => I held
  | crash held _ => I held
  | stall _ => False
  | ask held q next => ok q ∧ I held ∧ ∀ job a, I job → (next job a).KeepsTo ok I

theorem Program.KeepsTo.mono {ok ok' : Request → Prop} {I : Job → Prop} {p : Program α}
    (h : p.KeepsTo ok I) (hok : ∀ q, ok q → ok' q) : p.KeepsTo ok' I := by
  induction p with
  | finish | crash | stall => exact h
  | ask held q next ih =>
    obtain ⟨hq, hheld, hnext⟩ := h
    exact ⟨hok q hq, hheld, fun job a hjob => ih job a (hnext job a hjob)⟩

section

variable {s : Services σ} {r : Session} {ok : Request → Prop} {I : Job → Prop} {p : Program α}
  {w : World σ}

/-- **The log of a program**: only its requests leave events. -/
theorem drive_logsOnly (hI : ∀ job t, I job → I (job.stamped t)) (h : p.KeepsTo ok I) :
    World.LogsOnly (fun e => ∃ q, ok q ∧ q.Leaves e) w (drive s r p w).world ∧
      I (drive s r p w).held := by
  induction p generalizing w with
  | finish held result => exact ⟨.of_eq rfl, h⟩
  | crash held message => exact ⟨.of_eq rfl, h⟩
  | stall held => cases h
  | ask held q next ih =>
    obtain ⟨hq, hheld, hnext⟩ := h
    have hperform := (World.perform_logsOnly (s := s) (r := r) (w := w) held q).mono
      fun e he => (⟨q, hq, he⟩ : ∃ q, ok q ∧ q.Leaves e)
    have hheld' := World.holds_perform (s := s) (r := r) (w := w) hI hheld q
    simp only [drive]
    rcases hp : w.perform s r held q with ⟨w', held', _ | a | message⟩
    all_goals rw [hp] at hperform hheld'
    -- no answer, an answer, a crash
    · exact ⟨hperform, hheld'⟩
    · have hhear := (World.hear_logsOnly (w := w') q a).1.mono
        fun e he => (⟨q, hq, he⟩ : ∃ q, ok q ∧ q.Leaves e)
      obtain ⟨hlog, hend⟩ := ih held' a (w := w'.hear q a) (hnext held' a hheld')
      exact ⟨(hperform.trans hhear).trans hlog, hend⟩
    · exact ⟨hperform, hheld'⟩

/-- The log of a program only grows. -/
theorem drive_grows (p : Program α) :
    World.LogsOnly (fun _ => True) w (drive s r p w).world := by
  induction p generalizing w with
  | finish | crash | stall => exact .of_eq rfl
  | ask held q next ih =>
    have hperform := (World.perform_logsOnly (s := s) (r := r) (w := w) held q).mono
      fun e _ => trivial
    simp only [drive]
    rcases hp : w.perform s r held q with ⟨w', held', _ | a | message⟩
    all_goals rw [hp] at hperform
    · exact hperform
    · have hhear := (World.hear_logsOnly (w := w') q a).1.mono fun e _ => trivial
      exact (hperform.trans hhear).trans (ih held' a)
    · exact hperform

/-- **A program that stores nothing** leaves the jobs and their history alone. -/
theorem drive_setsAside (hI : ∀ job t, I job → I (job.stamped t)) (h : p.KeepsTo ok I)
    (hok : ∀ q, ok q → q.isAside = true) : World.SetsAside w (drive s r p w).world := by
  induction p generalizing w with
  | finish | crash | stall => exact .of_eq rfl
  | ask held q next ih =>
    obtain ⟨hq, hheld, hnext⟩ := h
    have haside := World.perform_setsAside (s := s) (r := r) (w := w) held (hok q hq)
    have hheld' := World.holds_perform (s := s) (r := r) (w := w) hI hheld q
    simp only [drive]
    rcases hp : w.perform s r held q with ⟨w', held', _ | a | message⟩
    all_goals rw [hp] at haside hheld'
    · exact haside
    · exact haside.trans ((World.SetsAside.of_eq (World.hear_logsOnly q a).2).trans
        (ih held' a (w := w'.hear q a) (hnext held' a hheld')))
    · exact haside

end

namespace Routine

variable {ok : Request → Prop} {I : Job → Prop}

/-- A routine keeps to requests of a class, and holds jobs of a class if it takes one over. -/
def KeepsTo (ok : Request → Prop) (I : Job → Prop) (m : Routine α) : Prop :=
  ∀ job, I job → (m job).KeepsTo ok I

theorem keepsTo_pure (a : α) : (pure a : Routine α).KeepsTo ok I := fun _ h => h

theorem keepsTo_fail (e : TaskError) : (fail e : Routine α).KeepsTo ok I := fun _ h => h

theorem keepsTo_crash (message : String) : (crash message : Routine α).KeepsTo ok I :=
  fun _ h => h

theorem keepsTo_held : held.KeepsTo ok I := fun _ h => h

theorem keepsTo_modify {f : Job → Job} (hf : ∀ job, I job → I (f job)) :
    (modify f).KeepsTo ok I := fun job h => hf job h

theorem keepsTo_ask {q : Request} (hq : ok q) : (ask q).KeepsTo ok I :=
  fun _ h => ⟨hq, h, fun _ _ h => h⟩

/-- Routines that follow one another keep to what both of them keep to. -/
theorem keepsTo_bind {m : Routine α} {f : α → Routine β} (hm : m.KeepsTo ok I)
    (hf : ∀ a, (f a).KeepsTo ok I) : (m >>= f).KeepsTo ok I := by
  have haux : ∀ p : Program α, p.KeepsTo ok I →
      (p.andThen fun job a => f a job).KeepsTo ok I := by
    intro p hp
    induction p with
    | finish held result =>
      cases result with
      | ok a => exact hf a held hp
      | error e => exact hp
    | crash | stall => exact hp
    | ask held q next ih => exact ⟨hp.1, hp.2.1, fun job a hjob => ih job a (hp.2.2 job a hjob)⟩
  exact fun job hjob => haux _ (hm job hjob)

theorem keepsTo_ofExcept (x : Except TaskError α) : (ofExcept x).KeepsTo ok I := by
  cases x with
  | ok a => exact keepsTo_pure a
  | error e => exact keepsTo_fail e

theorem keepsTo_ofFault (x : Except Fault α) : (ofFault x).KeepsTo ok I := by
  rcases x with (e | message) | a
  · exact keepsTo_fail e
  · exact keepsTo_crash message
  · exact keepsTo_pure a

theorem keepsTo_call {c : Call} (hc : ok (.call c)) : (call c).KeepsTo ok I :=
  keepsTo_bind (keepsTo_ask hc) keepsTo_ofExcept

theorem keepsTo_setStatus {status : Status}
    (h : ∀ job, I job → I { job with status := status }) : (setStatus status).KeepsTo ok I :=
  keepsTo_modify h

/-- Storing the job asks for nothing but what belongs to it. -/
theorem keepsTo_persist (hok : ∀ q : Request, q.isAside = false → ok q) :
    persist.KeepsTo ok I := by
  refine keepsTo_bind (keepsTo_bind (keepsTo_ask (hok _ rfl)) keepsTo_ofExcept) fun stored => ?_
  refine keepsTo_bind (keepsTo_ask (hok _ rfl)) fun _ => ?_
  refine keepsTo_bind (keepsTo_bind (keepsTo_ask (hok _ rfl)) keepsTo_ofExcept) fun _ => ?_
  exact keepsTo_bind (keepsTo_ask (hok _ rfl)) keepsTo_ofExcept

/-- Setting the job to done, and storing it. -/
theorem keepsTo_finish (hok : ∀ q : Request, q.isAside = false → ok q)
    (hI : ∀ job, I job → I { job with status := .done }) :
    (do
      setStatus .done
      persist : Routine Unit).KeepsTo ok I :=
  keepsTo_bind (keepsTo_setStatus hI) fun _ => keepsTo_persist hok

/-- What holds of the world and of the job wherever a program ends is all that is left to use. -/
theorem meets_of_drive {s : Services σ} {r : Session} {w : World σ} {job : Job} {m : Routine α}
    {Q : World σ → Job → Prop} {D : World σ → Job → α → Prop} {H : World σ → Job → Halt → Prop}
    (hQ : Q (drive s r (m job) w).world (drive s r (m job) w).held)
    (hhalt : ∀ w' job' h, Q w' job' → H w' job' h) (hdone : ∀ w' job' a, Q w' job' → D w' job' a) :
    m.Meets s r w job D H := by
  unfold Meets
  revert hQ
  rcases drive s r (m job) w with ⟨w', held, outcome⟩
  intro hQ
  rcases outcome with (e | a) | message | _
  · exact hhalt _ _ _ hQ
  · exact hdone _ _ _ hQ
  · exact hhalt _ _ _ hQ
  · exact hhalt _ _ _ hQ

end Routine

end WalletTasks
