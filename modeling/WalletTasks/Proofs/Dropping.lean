import WalletTasks.Proofs.Books
import WalletTasks.Proofs.Keeping
import WalletTasks.Proofs.Resumption

/-!
# When a run is dropped

A run is dropped at its backstop, where it waits for something that it cannot be interrupted at.
That is always the store or a charge: if these answer in time, no run is dropped. The last thing
that an executor does is to store its job as done, and no charge is owed for that. So a run that has
stored its job as done has nothing left to wait for but the store's own answer.

* `isDropped_eq`: a run that is dropped waits for the store or for a charge.
* `Executor.standard_endsOnDone`: all executors wait for nothing once they have stored their job as
  done.
* `run_completes`: a run that is dropped has not stored its job as done, unless it is the store that
  it waits for.
-/

namespace WalletTasks

variable {σ α β : Type}

namespace Request

/-- Whether a request writes the job to the store. -/
def isStore : Request → Bool
  | store => true
  | _ => false

/-- Whether a request charges for the job. -/
def isCharge : Request → Bool
  | charge _ => true
  | _ => false

/-- Whether a request asks the store for something, or charges for the job. -/
def isRecord : Request → Bool
  | reread | note _ | store | charge _ | audit _ => true
  | _ => false

/-- Whether a request is a rest that cannot be interrupted. -/
def isPause : Request → Bool
  | pause _ => true
  | _ => false

/-- A follow-up never rests. -/
theorem isPause_of_isFollowUp {q : Request} (h : q.isFollowUp = true) : q.isPause = false := by
  cases q <;> first | rfl | cases h

theorem isPause_of_isAside {q : Request} (h : q.isAside = false) : q.isPause = false := by
  cases q <;> first | rfl | cases h

end Request

namespace Program

/-- Whether a program is dropped while it waits for a request of a class. -/
def isDroppedAt (c : Request → Bool) (s : Services σ) (r : Session) : Program α → World σ → Bool
  | finish _ _, _ | crash _ _, _ | stall _, _ => false
  | ask held q next, w =>
    match w.perform s r held q with
    | (w, held, some (.answer a)) => (next held a).isDroppedAt c s r (w.hear q a)
    | (_, _, some (.crash _)) => false
    | (_, _, none) => c q

/-- A program that has stored its job as done does nothing more but ask for a charge. -/
def IsOver : Program α → Prop
  | finish _ _ | crash _ _ => True
  | stall _ => False
  | ask held q next =>
    held.status = .done ∧ q.isCharge = true ∧ ∀ a, (next held a).IsOver

/-- A program is over once it has stored its job as done. -/
def EndsOnDone : Program α → Prop
  | finish _ _ | crash _ _ | stall _ => True
  | ask held q next => ∀ job a, job.status = held.status →
    if q.isStore = true ∧ held.status = .done then (next job a).IsOver
    else (next job a).EndsOnDone

end Program

/-! ## What a dropped program waits for -/

section

variable {s : Services σ} {r : Session} {w : World σ} {p : Program α}

/-- A request that can be interrupted is never waited for up to the backstop. -/
theorem World.perform_interruptible {held : Job} {q : Request} (hq : q.isInterruptible = true) :
    ∃ v, (w.perform s r held q).2.2 = some v := by
  have hanswer : ∃ interrupted : TaskError → q.Answer,
      ∀ e, q.interrupted? e = some (interrupted e) := by
    cases q with
    | call c => exact ⟨fun e => .error e, fun e => rfl⟩
    | sleep duration => exact ⟨fun e => .error e, fun e => rfl⟩
    | _ => cases hq
  obtain ⟨interrupted, hanswer⟩ := hanswer
  unfold perform
  rcases w.consult s r q with ⟨w₁, stopAt⟩
  simp only
  rcases w₁.start s r held q with ⟨w₂, held', v | ⟨due, v⟩⟩
  · exact ⟨v, rfl⟩
  · obtain ⟨w', v', hw, -⟩ := await_eq (r := r) (w := w₂) interrupted hanswer stopAt due v
    simp only [hw]
    exact ⟨v', rfl⟩

/-- Only a rest, or what the store or a charge keeps it waiting for, can drop a program. -/
theorem World.perform_eq_none {held : Job} {q : Request} (hq : q.isPause = false)
    (h : (w.perform s r held q).2.2 = none) : q.isRecord = true := by
  cases hi : q.isInterruptible with
  | true =>
    obtain ⟨v, hv⟩ : ∃ v, (w.perform s r held q).2.2 = some v := perform_interruptible hi
    rw [hv] at h
    cases h
  | false =>
    cases q with
    | reread | note | store | charge | audit => rfl
    | pause => cases hq
    | call | sleep => cases hi
    | clock | draw | remaining | isCancelled =>
      rw [perform_eq_of_uninterruptible hi] at h
      cases h

/-- **A program that is dropped** waits for the store or for a charge, if it only rests where it can
be interrupted. -/
theorem drive_isDropped {I : Job → Prop} (hI : ∀ job t, I job → I (job.stamped t))
    (hp : p.KeepsTo (fun q => q.isPause = false) I) :
    (drive s r p w).outcome.isDropped = p.isDroppedAt Request.isRecord s r w := by
  induction p generalizing w with
  | finish | crash => rfl
  | stall => cases hp
  | ask held q next ih =>
    obtain ⟨hq, hheld, hnext⟩ := hp
    have hheld' : I (w.perform s r held q).2.1 := World.holds_perform hI hheld q
    have hnone : (w.perform s r held q).2.2 = none → q.isRecord = true :=
      World.perform_eq_none hq
    simp only [drive, Program.isDroppedAt]
    rcases hw : w.perform s r held q with ⟨w', held', _ | a | message⟩
    all_goals
      rw [hw] at hnone hheld'
      simp only
    -- no answer, an answer, a crash
    · exact (hnone rfl).symm
    · exact ih held' a (hnext held' a hheld')
    · rfl

end

/-! ## What a dropped program has stored -/

section

variable {s : Services σ} {r : Session} {w : World σ} {p : Program α} {id : Identifier}

/-- No charge is owed for a job that is done, so there is nothing to wait for. -/
theorem World.perform_charge_of_done {held : Job} (hdone : held.status = .done) (before : Status) :
    w.perform s r held (.charge before) = (w, held, some (.answer (.ok ()))) := by
  rw [perform_eq_of_uninterruptible rfl]
  simp [startRequest, hdone, BillingPolicy.chargeOwed_done]

/-- A program that is over is not dropped. -/
theorem drive_of_isOver (hp : p.IsOver) : (drive s r p w).outcome.isDropped = false := by
  induction p generalizing w with
  | finish | crash => rfl
  | stall => cases hp
  | ask held q next ih =>
    obtain ⟨hdone, hcharge, hnext⟩ := hp
    cases q with
    | charge before =>
      simp only [drive, World.perform_charge_of_done hdone]
      exact ih held _ (hnext _)
    | _ => cases hcharge

/-- Storing the job writes it as it is held. -/
theorem World.perform_store_logsOnly (held : Job) :
    LogsOnly (fun e => ∃ t, e = .updated (held.stamped t)) w (w.perform s r held .store).1 := by
  obtain ⟨w₀, -, hlog₀, w', held', v, hp, ⟨-, hlog, -⟩ | ⟨-, hlog, -⟩⟩ :=
    perform_eq_start (s := s) (r := r) (w := w) held .store
  · rw [hp]
    exact .of_eq hlog
  · rw [hp]
    have := (updateJob_logsOnly (s := s) (w := w₀) (w₀.stamp s held)).mono
      fun e he => (⟨_, he⟩ : ∃ t, e = .updated (held.stamped t))
    unfold LogsOnly at *
    rw [hlog, ← hlog₀]
    exact this

/-- Only storing a job as done completes it. -/
theorem World.perform_completes {held : Job} {q : Request}
    (h : q.isStore = true → held.status ≠ .done) :
    LogsOnly (fun e => e.written? id ≠ some .done) w (w.perform s r held q).1 := by
  cases q with
  | store =>
    refine (perform_store_logsOnly held).mono ?_
    rintro e ⟨t, rfl⟩ hwritten
    simp only [Event.written?] at hwritten
    split at hwritten
    · exact h rfl (Option.some.inj hwritten)
    · cases hwritten
  | _ =>
    refine (perform_logsOnly held _).mono ?_
    intro e he hwritten
    cases e <;> first | cases hwritten | cases he

/-- Hearing an answer writes nothing. -/
theorem World.hear_completes (q : Request) (a : q.Answer) :
    LogsOnly (fun e => e.written? id ≠ some .done) w (w.hear q a) := by
  cases q with
  | call c => exact .single rfl (by simp [Event.written?])
  | _ => exact .of_eq rfl

/-- **Where a program is dropped**, it has not stored its job as done, unless it is the store that
it waits for. -/
theorem drive_completes (hp : p.EndsOnDone) (hcut : p.isDroppedAt Request.isStore s r w = false)
    (hdropped : (drive s r p w).outcome.isDropped = true) :
    World.LogsOnly (fun e => e.written? id ≠ some .done) w (drive s r p w).world := by
  induction p generalizing w with
  | finish | crash => cases hdropped
  | stall => exact .of_eq rfl
  | ask held q next ih =>
    have hstatus : (w.perform s r held q).2.1.status = held.status :=
      World.holds_perform (I := fun job => job.status = held.status) (fun _ _ h => h) rfl q
    have hperform : (q.isStore = true → held.status ≠ .done) →
        World.LogsOnly (fun e => e.written? id ≠ some .done) w (w.perform s r held q).1 :=
      World.perform_completes
    simp only [drive, Program.isDroppedAt] at hcut hdropped ⊢
    rcases hw : w.perform s r held q with ⟨w', held', _ | a | message⟩
    all_goals
      rw [hw] at hcut hdropped hperform hstatus
      simp only at hcut hdropped hperform hstatus ⊢
    · -- the program is dropped here
      exact hperform fun hstore => by rw [hcut] at hstore; cases hstore
    · have hnext := hp held' a hstatus
      split at hnext
      · rw [drive_of_isOver hnext] at hdropped
        cases hdropped
      · rename_i hstore
        exact ((hperform fun h hdone => hstore ⟨h, hdone⟩).trans (World.hear_completes q a)).trans
          (ih held' a hnext hcut hdropped)
    · cases hdropped

end

/-! ## The executors -/

namespace Routine

/-- A routine is over once it has stored its job as done, if it takes over a job that is not. -/
def EndsOnDone (m : Routine α) : Prop := ∀ job, job.status ≠ .done → (m job).EndsOnDone

/-- If the first routine does not hold a job that is done, then only the second one has to end on
it. -/
theorem endsOnDone_bind {m : Routine α} {f : α → Routine β}
    (hm : m.KeepsTo (fun _ => True) fun job => job.status ≠ .done) (hf : ∀ a, (f a).EndsOnDone) :
    (m >>= f).EndsOnDone := by
  have haux : ∀ p : Program α, p.KeepsTo (fun _ => True) (fun job => job.status ≠ .done) →
      (p.andThen fun job a => f a job).EndsOnDone := by
    intro p hp
    induction p with
    | finish held result =>
      cases result with
      | ok a => exact hf a held hp
      | error e => trivial
    | crash | stall => trivial
    | ask held q next ih =>
      intro job a hstatus
      have hopen : job.status ≠ .done := by rw [hstatus]; exact hp.2.1
      rw [if_neg fun h => hp.2.1 h.2]
      exact ih job a (hp.2.2 job a hopen)
  exact fun job hjob => haux _ (hm job hjob)

theorem endsOnDone_pure (a : α) : (pure a : Routine α).EndsOnDone := fun _ _ => trivial

/-- The job is stored as done in the end. -/
theorem endsOnDone_finish : (do
    setStatus .done
    persist : Routine Unit).EndsOnDone := by
  intro job _ held₁ stored h₁
  rw [if_neg (by simp [Request.isStore])]
  rcases stored with e | stored
  · trivial
  intro held₂ _ h₂
  rw [if_neg (by simp [Request.isStore])]
  -- the job is written here; only its charge is left to ask for
  intro held₃ reply h₃
  have hdone : held₂.status = .done := h₂.trans h₁
  rw [if_pos ⟨rfl, hdone⟩]
  rcases reply with e | _
  · trivial
  · refine ⟨h₃.trans hdone, rfl, fun charged => ?_⟩
    cases charged <;> trivial

end Routine

namespace Executor

open Routine

theorem mock_endsOnDone (kind : Kind) (info : RunInfo) : ((mock kind).run info).EndsOnDone := by
  refine endsOnDone_bind keepsTo_held fun job => ?_
  split
  · exact endsOnDone_pure ()
  · exact endsOnDone_bind (keepsTo_ofExcept _) fun _ => endsOnDone_finish

/-- A delay ends once it has stored that it is done. -/
theorem delay_endsOnDone (info : RunInfo) : (delay.run info).EndsOnDone := by
  refine endsOnDone_bind keepsTo_held fun job => ?_
  split
  · exact endsOnDone_pure ()
  refine endsOnDone_bind (keepsTo_ofExcept _) fun payload => ?_
  split
  · refine endsOnDone_bind (keepsTo_waitUntil trivial (fun _ _ => trivial) fun _ _ h => h)
      fun t => ?_
    refine endsOnDone_bind (keepsTo_setStatus fun _ _ => by simp) fun _ => ?_
    refine endsOnDone_bind (keepsTo_persist fun _ _ => trivial) fun _ => ?_
    refine endsOnDone_bind (keepsTo_ask trivial) fun now => ?_
    refine endsOnDone_bind (keepsTo_ask trivial) fun slept => ?_
    exact endsOnDone_bind (keepsTo_ofExcept _) fun _ => endsOnDone_finish
  · exact endsOnDone_pure ()

/-- A vote ends once it has stored that it is done. -/
theorem vote_endsOnDone (info : RunInfo) : (vote.run info).EndsOnDone := by
  refine endsOnDone_bind keepsTo_held fun job => ?_
  split
  · exact endsOnDone_pure ()
  refine endsOnDone_bind (keepsTo_ofExcept _) fun payload => ?_
  split
  · refine endsOnDone_bind (keepsTo_setStatus fun _ _ => by simp) fun _ => ?_
    refine endsOnDone_bind (keepsTo_persist fun _ _ => trivial) fun _ => ?_
    split
    · exact endsOnDone_bind (keepsTo_castVote (fun _ => trivial) fun _ _ h => h)
        fun _ => endsOnDone_finish
    · exact endsOnDone_finish
  · exact endsOnDone_pure ()

theorem settle_endsOnDone : settle.EndsOnDone := by
  refine endsOnDone_bind keepsTo_held fun job => ?_
  split
  · exact endsOnDone_finish
  · exact endsOnDone_pure ()

/-- A transaction ends once it has been stored as done. -/
theorem lifecycle_endsOnDone (kind : Kind) (info : RunInfo) :
    ((lifecycle kind).run info).EndsOnDone := by
  refine endsOnDone_bind keepsTo_held fun job => ?_
  split
  · exact endsOnDone_pure ()
  refine endsOnDone_bind (keepsTo_ofExcept _) fun payload => ?_
  split
  · refine endsOnDone_bind (keepsTo_setStatus fun _ _ => by simp) fun _ => ?_
    refine endsOnDone_bind (keepsTo_persist fun _ _ => trivial) fun _ => ?_
    refine endsOnDone_bind (Attempt.keepsTo_reach fun _ _ => trivial) fun ⟨attempt, settings⟩ => ?_
    -- the job is set to done in the last step alone
    have hconclude : (attempt.wait info.pollInterval >>= fun _ => settle).EndsOnDone :=
      endsOnDone_bind (Attempt.keepsTo_wait (fun _ _ _ h => h) fun _ _ => trivial)
        fun _ => settle_endsOnDone
    dsimp only
    split
    · exact endsOnDone_bind (Attempt.keepsTo_submit (fun _ _ _ h => h) (fun _ _ => trivial)
        fun _ _ => trivial) fun _ => hconclude
    · exact hconclude
  · exact endsOnDone_pure ()

/-! No executor rests otherwise than by sleeping. -/

section

variable (kind : Kind) (info : RunInfo)

theorem mock_keepsTo :
    ((mock kind).run info).KeepsTo (fun q => q.isPause = false) (fun _ => True) := by
  refine keepsTo_bind keepsTo_held fun job => ?_
  split
  · exact keepsTo_pure ()
  exact keepsTo_bind (keepsTo_ofExcept _) fun _ =>
    keepsTo_finish (fun _ => Request.isPause_of_isAside) fun _ h => h

/-- A delay rests in a way that can be interrupted. -/
theorem delay_keepsTo : (delay.run info).KeepsTo (fun q => q.isPause = false) (fun _ => True) := by
  refine keepsTo_bind keepsTo_held fun job => ?_
  split
  · exact keepsTo_pure ()
  refine keepsTo_bind (keepsTo_ofExcept _) fun payload => ?_
  split
  · refine keepsTo_bind (keepsTo_waitUntil (by rfl) (fun _ _ => rfl) fun _ _ h => h) fun t => ?_
    refine keepsTo_bind (keepsTo_setStatus fun _ h => h) fun _ => ?_
    refine keepsTo_bind (keepsTo_persist fun _ => Request.isPause_of_isAside) fun _ => ?_
    refine keepsTo_bind (keepsTo_ask (by rfl)) fun now => ?_
    refine keepsTo_bind (keepsTo_ask (by rfl)) fun slept => ?_
    exact keepsTo_bind (keepsTo_ofExcept _) fun _ =>
      keepsTo_finish (fun _ => Request.isPause_of_isAside) fun _ h => h
  · exact keepsTo_pure ()

theorem vote_keepsTo : (vote.run info).KeepsTo (fun q => q.isPause = false) (fun _ => True) := by
  refine keepsTo_bind keepsTo_held fun job => ?_
  split
  · exact keepsTo_pure ()
  refine keepsTo_bind (keepsTo_ofExcept _) fun payload => ?_
  split
  · refine keepsTo_bind (keepsTo_setStatus fun _ h => h) fun _ => ?_
    refine keepsTo_bind (keepsTo_persist fun _ => Request.isPause_of_isAside) fun _ => ?_
    have hfinish : (setStatus .done >>= fun _ => persist).KeepsTo (fun q => q.isPause = false)
        (fun _ => True) := keepsTo_finish (fun _ => Request.isPause_of_isAside) fun _ h => h
    split
    · exact keepsTo_bind (keepsTo_castVote (fun _ => rfl) fun _ _ h => h) fun _ => hfinish
    · exact hfinish
  · exact keepsTo_pure ()

/-- A transaction rests only in ways that can be interrupted. -/
theorem lifecycle_keepsTo :
    ((lifecycle kind).run info).KeepsTo (fun q => q.isPause = false) (fun _ => True) := by
  have hok : ∀ q : Request, q.isFollowUp = true → q.isPause = false :=
    fun _ => Request.isPause_of_isFollowUp
  have hrecording : ∀ q : Request, q.isRecording = true → q.isPause = false :=
    fun q hq => hok q (Request.isFollowUp_of_isRecording hq)
  refine keepsTo_bind keepsTo_held fun job => ?_
  split
  · exact keepsTo_pure ()
  refine keepsTo_bind (keepsTo_ofExcept _) fun payload => ?_
  split
  · refine keepsTo_bind (keepsTo_setStatus fun _ h => h) fun _ => ?_
    refine keepsTo_bind (keepsTo_persist fun _ => Request.isPause_of_isAside) fun _ => ?_
    refine keepsTo_bind (Attempt.keepsTo_reach fun _ _ => rfl) fun ⟨attempt, settings⟩ => ?_
    have hconclude : (attempt.wait info.pollInterval >>= fun _ => settle).KeepsTo
        (fun q => q.isPause = false) (fun _ => True) :=
      keepsTo_bind (Attempt.keepsTo_wait (fun _ _ _ h => h) hok)
        fun _ => keepsTo_settle hrecording fun _ h => h
    dsimp only
    split
    · exact keepsTo_bind (Attempt.keepsTo_submit (fun _ _ _ h => h) hrecording fun _ _ => rfl)
        fun _ => hconclude
    · exact hconclude
  · exact keepsTo_pure ()

/-- No standard executor rests in a way that cannot be interrupted. -/
theorem standard_keepsTo :
    ((standard kind).run info).KeepsTo (fun q => q.isPause = false) (fun _ => True) := by
  obtain h | h | h | h := standard_cases kind
  · rw [h]
    exact delay_keepsTo info
  · rw [h]
    exact mock_keepsTo kind info
  · rw [h]
    exact vote_keepsTo info
  · rw [h]
    exact lifecycle_keepsTo kind info

end

/-- **All executors** store a job as done in the end. -/
theorem standard_endsOnDone (kind : Kind) (info : RunInfo) :
    ((standard kind).run info).EndsOnDone := by
  obtain h | h | h | h := standard_cases kind
  · rw [h]
    exact delay_endsOnDone info
  · rw [h]
    exact mock_endsOnDone kind info
  · rw [h]
    exact vote_endsOnDone info
  · rw [h]
    exact lifecycle_endsOnDone kind info

end Executor

/-! ## Whole runs -/

/-- Whether a run is dropped while it waits for a request of a class. -/
def isDroppedAt (c : Request → Bool) (s : Services σ) (registry : Registry) (user : Account)
    (job : Job) (w : World σ) : Bool :=
  match beginRun s registry user job w with
  | (_, .over _) => false
  | (w, .underway session program) => program.isDroppedAt c s session w

section

variable {s : Services σ}

/-- **A run that is dropped** waits for the store or for a charge. -/
theorem isDropped_eq (user : Account) (job : Job) (w : World σ) :
    isDropped s .standard user job w = isDroppedAt Request.isRecord s .standard user job w := by
  unfold isDropped isDroppedAt
  obtain ⟨w', result, hbegin, -⟩ | ⟨w', r, events, hbegin, -⟩ :=
    beginRun_cases (s := s) user job w
  · rw [hbegin]
  · rw [hbegin]
    exact drive_isDropped (fun _ _ h => h)
      (Executor.standard_keepsTo job.task.kind (r.info s.limits) job trivial)

/-- What a run that is dropped leaves in the log: the question for the funds, what its program
leaves there, and at last the job stored as failed. -/
theorem run_of_isDropped {user : Account} {job : Job} {w : World σ} (id : Identifier)
    (hdropped : isDropped s .standard user job w = true) :
    ∃ w₁ r, beginRun s .standard user job w =
        (w₁, .underway r ((Executor.standard job.task.kind).run (r.info s.limits) job)) ∧
      job.status.isTerminal = false ∧ w₁.store = w.store ∧
      World.LogsOnly (fun e => e.written? id = none) w w₁ ∧
      World.LogsOnly (fun e => e.written? id = none ∨ e.written? id = some .error)
        (drive s r ((Executor.standard job.task.kind).run (r.info s.limits) job) w₁).world
        (run s .standard user job w).1 := by
  cases hterm : job.status.isTerminal with
  | true =>
    unfold isDropped beginRun at hdropped
    rw [if_pos hterm] at hdropped
    cases hdropped
  | false =>
    have hbegins := beginRun_begins (s := s) (w := w) .standard user hterm
    unfold isDropped at hdropped
    unfold run
    rcases hb : beginRun s .standard user job w with ⟨w₁, opening⟩
    rw [hb] at hbegins hdropped
    cases hbegins with
    | busy | unknown | refused | crashed => cases hdropped
    | @underway _ events r executor hexec hgate hstore hlog =>
      rw [executor_standard] at hexec
      cases hexec
      refine ⟨w₁, r, rfl, rfl, hstore, ⟨events, hlog, ?_⟩, ?_⟩
      · cases hgate <;> simp [Event.written?]
      dsimp only at hdropped ⊢
      generalize drive s r ((Executor.standard job.task.kind).run (r.info s.limits) job) w₁ = e at *
      rcases e with ⟨w₂, held, result | message | _⟩
      · cases hdropped
      · cases hdropped
      -- the job is stored as failed in the end
      have hfailed := failRun_world (s := s) (w := w₂) r.user held (.deadlineExceeded r.timeout)
      show World.LogsOnly _ w₂ ((failRun s r.user held _ w₂).1.release r.lease)
      rw [hfailed]
      refine (World.reconcile_logsOnly ..).mono ?_
      rintro e (⟨t, rfl⟩ | ⟨charge, rfl⟩)
      · simp only [Event.written?]
        split <;> simp [Job.stamped]
      · exact .inl rfl

/-- **A run that is dropped** has not stored its job as done, unless it is the store that it waits
for. -/
theorem run_completes {user : Account} {job : Job} {w : World σ}
    (hcut : isDroppedAt Request.isStore s .standard user job w = false)
    (hdropped : isDropped s .standard user job w = true) (id : Identifier) :
    World.LogsOnly (fun e => e.written? id ≠ some .done) w (run s .standard user job w).1 := by
  obtain ⟨w₁, r, hbegin, hterm, -, hasked, hfailed⟩ := run_of_isDropped id hdropped
  unfold isDroppedAt at hcut
  unfold isDropped at hdropped
  rw [hbegin] at hcut hdropped
  have hopen : job.status ≠ .done := by
    intro hdone
    rw [hdone] at hterm
    cases hterm
  have hprogram : World.LogsOnly (fun e => e.written? id ≠ some .done) w₁
      (drive s r ((Executor.standard job.task.kind).run (r.info s.limits) job) w₁).world :=
    drive_completes (Executor.standard_endsOnDone job.task.kind (r.info s.limits) job hopen) hcut
      hdropped
  refine ((hasked.mono ?_).trans hprogram).trans (hfailed.mono ?_)
  · rintro e he
    rw [he]
    nofun
  · rintro e (he | he) <;> rw [he] <;> nofun

end

/-- Services that do what they are asked to, but keep a run waiting for each operation of the store,
and for each charge, as long as they are told to. -/
def Services.sluggish : Services (List Nat) where
  limits := .standard
  billing := ⟨.prod⟩
  wallClock _ := .epoch
  respond c lags := (lags, (Services.willing.respond c ⟨[], 0⟩).2)
  funds _ lags := (lags, .value .one)
  accept _ lags := (lags, .value ())
  draw least _ lags := (lags, least)
  patience lags := (lags, none)
  lag lags := (lags.tail, lags.headD 0)
  fault? _ lags := (lags, none)

theorem Services.storeSucceeds_sluggish : Services.sluggish.StoreSucceeds := fun _ _ => rfl

/-- Some operations that are over at once, and then one that takes an hour. -/
def hourAfter (n : Nat) : List Nat := List.replicate n 0 ++ [(Span.ofSeconds 3600).nanos]

/-! ## Runs one after the other -/

/-- Whether a run of the stored job is dropped while it waits for a request of a class. -/
def World.isRerunDroppedAt (c : Request → Bool) (s : Services σ) (id : Identifier) (turn : Turn)
    (w : World σ) : Bool :=
  match w.store.get? id with
  | some job => isDroppedAt c s .standard turn.user job (w.waitUntil turn.start)
  | none => false

/-- The requests of a class are always answered in time: no run of a sequence is dropped while it
waits for one of them. -/
def World.Answers (c : Request → Bool) (s : Services σ) (id : Identifier) :
    List Turn → World σ → Prop
  | [], _ => True
  | turn :: turns, w =>
    w.isRerunDroppedAt c s id turn = false ∧ (w.rerun s id turn).1.Answers c s id turns

/-- A run is dropped at a request that records something, if at all. -/
theorem World.isRerunDropped_eq {s : Services σ} {id : Identifier} {turn : Turn} {w : World σ} :
    w.isRerunDropped s id turn = w.isRerunDroppedAt Request.isRecord s id turn := by
  unfold isRerunDropped isRerunDroppedAt
  cases w.store.get? id with
  | some job => exact isDropped_eq ..
  | none => rfl

end WalletTasks
