import WalletTasks.Proofs.Interleaving

/-!
# What requests take

A question for the clock, for a number or for the time that is left is answered at once. A rest that
is not cut short ends exactly when it is over, and in front of the deadline. No request takes a
program back in time, so that whatever a program stores carries a time between its start and its
end.

* `Routine.meets_clock_iff`, `meets_draw_iff`, `meets_remaining_iff`: the answers at once.
* `World.perform_sleep_calm`, `perform_call_calm`: what can be interrupted and is not.
* `now_le_drive`: a program does not go back in time.
* `Routine.meets_rest`: a rest.
* `Routine.meets_persist_due`, `meets_persist_in_time`: when a job is stored.
-/

namespace WalletTasks

variable {σ α : Type}

/-- How an executor ends that halts. -/
def Halt.outcome : Halt → Outcome α
  | .failed e => .returned (.error e)
  | .crashed message => .crashed message
  | .dropped => .dropped

/-- What a program comes to is said of its ending as a whole. -/
theorem Routine.of_meets {m : Routine α} {s : Services σ} {r : Session} {w : World σ} {job : Job}
    {P : Ending σ α → Prop}
    (h : m.Meets s r w job (fun w' held a => P ⟨w', held, .returned (.ok a)⟩)
      fun w' held e => P ⟨w', held, e.outcome⟩) : P (drive s r (m job) w) := by
  unfold Routine.Meets at h
  rcases hd : drive s r (m job) w with ⟨w', held, (e | a) | message | _⟩
  all_goals
    rw [hd] at h
    exact h

/-! ## Answers at once -/

namespace World

variable {s : Services σ} {r : Session} {w w' : World σ} {held held' : Job}

/-- A request that is over when it starts, and that is not interrupted, takes no time. -/
theorem perform_over {q : Request} {v : Verdict q.Answer} (hq : q.isInterruptible = false)
    (h : w.startRequest s r held q = (w', held', .over v)) :
    w.perform s r held q = (w', held', some v) := by
  rw [perform_eq_of_uninterruptible hq, h]

end World

namespace Routine

variable {s : Services σ} {r : Session} {w : World σ} {job : Job}
  {H : World σ → Job → Halt → Prop}

theorem meets_clock_iff {D : World σ → Job → Instant → Prop} :
    (ask .clock).Meets s r w job D H ↔ D w job (s.wallClock w.now) := by
  rw [meets_ask, World.perform_over (q := .clock) rfl rfl]
  rfl

theorem meets_draw_iff {least most : UInt64} {D : World σ → Job → UInt64 → Prop} :
    (ask (.draw least most)).Meets s r w job D H ↔
      D { w with outside := (s.draw least most w.outside).1 } job
        (s.draw least most w.outside).2 := by
  rw [meets_ask, World.perform_over (q := .draw least most) rfl rfl]
  rfl

theorem meets_remaining_iff {D : World σ → Job → Nat → Prop} :
    (ask .remaining).Meets s r w job D H ↔ D w job (r.deadline - w.now) := by
  rw [meets_ask, World.perform_over (q := .remaining) rfl rfl]
  rfl

end Routine

/-! ## Requests that can be interrupted -/

namespace World

variable {s : Services σ} {r : Session} {w : World σ} {held : Job}

/-- Nobody is about to ask the run to stop. -/
theorem consult_calm {x : σ} {q : Request} (hq : q.isInterruptible = true)
    (hcalm : s.patience w.outside = (x, none)) :
    w.consult s r q = ({ w with outside := x }, none) := by
  simp [consult, hq, hcalm]

/-- A rest that is neither kept from starting nor stopped: it is over, or the deadline comes
first. -/
theorem perform_sleep_calm {x : σ} {duration : Nat} (hcalm : s.patience w.outside = (x, none))
    (hfree : w.interruption? r = none) (hpos : 0 < duration) :
    w.perform s r held (.sleep duration) =
      if w.now + duration < r.deadline then
        ({ w with outside := x, now := w.now + duration }, held, some (.answer (.ok ())))
      else
        ({ w with outside := x, now := r.deadline }, held,
          some (.answer (.error (.deadlineExceeded r.timeout)))) := by
  have hdeadline := (interruption?_eq_none_iff.1 hfree).2
  have hfree' : ({ w with outside := x } : World σ).interruption? r = none := hfree
  unfold perform
  rw [consult_calm rfl hcalm]
  simp only [start, hfree', Option.bind_none, startRequest, Started.after,
    if_neg (Nat.ne_of_gt hpos), await, Request.interrupted?, Option.filter_none, waitUntil]
  by_cases hover : w.now + duration < r.deadline
  · rw [if_neg (Nat.not_le.2 hover), if_pos hover, Nat.min_eq_left (Nat.le_of_lt hover),
      Nat.max_eq_right (Nat.le_add_right _ _)]
  · rw [if_pos (Nat.le_of_not_lt hover), if_neg hover,
      Nat.min_eq_right (Nat.le_of_not_lt hover), Nat.max_eq_right (Nat.le_of_lt hdeadline)]

/-- A call that is neither kept from starting nor stopped, and is answered at once. -/
theorem perform_call_calm {x y : σ} {c : Call} {reply : Reply c.Failure c.Answer}
    (hcalm : s.patience w.outside = (x, none)) (hfree : w.interruption? r = none)
    (hreply : s.respond c x = (y, ⟨0, reply⟩)) :
    w.perform s r held (.call c) =
      ({ w with outside := y, log := .called w.now c ⟨0, reply⟩ :: w.log }, held,
        some (.ofReply c reply)) := by
  have hfree' : ({ w with outside := x } : World σ).interruption? r = none := hfree
  unfold perform
  rw [consult_calm rfl hcalm]
  simp only [start, hfree', Option.bind_none, startRequest, startCall, hreply, Started.after,
    if_true]

theorem now_consult (q : Request) : (w.consult s r q).1.now = w.now := by
  unfold consult
  split
  · simp only
    split <;> rfl
  · rfl

/-- A rest is cut short by an interruption, or it ends when it is over, in front of the deadline. -/
theorem perform_sleep_cases (held : Job) (duration : Nat) :
    (∃ w' e, e.IsInterruption ∧
        w.perform s r held (.sleep duration) = (w', held, some (.answer (.error e))) ∧
        w'.store = w.store ∧ w'.log = w.log) ∨
      ∃ w', w.perform s r held (.sleep duration) = (w', held, some (.answer (.ok ()))) ∧
        w'.store = w.store ∧ w'.log = w.log ∧ w'.now = w.now + duration ∧
        w'.now < r.deadline := by
  obtain ⟨w₁, stopAt, hc, hstore, hlog⟩ := consult_eq (s := s) (r := r) (w := w) (.sleep duration)
  have hnow : w₁.now = w.now := by
    rw [← now_consult (s := s) (r := r) (w := w) (.sleep duration), hc]
  unfold perform
  rw [hc]
  simp only [start]
  cases hi : w₁.interruption? r with
  | some e => exact .inl ⟨w₁, e, isInterruption_of_interruption? hi, rfl, hstore, hlog⟩
  | none =>
    have hdeadline := (interruption?_eq_none_iff.1 hi).2
    simp only [Option.bind_none, startRequest, Started.after]
    -- a rest of no time is over as it starts
    by_cases hzero : duration = 0
    · simp only [hzero, if_true]
      exact .inr ⟨w₁, rfl, hstore, hlog, hnow, hdeadline⟩
    · simp only [hzero, if_false, await, Request.interrupted?]
      cases stopAt.filter (· ≤ min (w₁.now + duration) r.deadline) with
      | some time => exact .inl ⟨_, .cancelled, .inl rfl, rfl, hstore, hlog⟩
      | none =>
        simp only
        by_cases hover : r.deadline ≤ w₁.now + duration
        · rw [if_pos hover]
          exact .inl ⟨_, _, .inr ⟨_, rfl⟩, rfl, hstore, hlog⟩
        · rw [if_neg hover]
          refine .inr ⟨_, rfl, hstore, hlog, ?_, ?_⟩ <;> simp only [waitUntil] <;> omega

/-! ## No way back -/

/-- The wait for what can be interrupted does not go back in time. -/
theorem now_le_await {q : Request} (stopAt : Option Nat) (due : Nat) (v : Verdict q.Answer) :
    w.now ≤ (w.await r stopAt q due v).1.now := by
  unfold await
  split
  · simp only
    rcases stopAt.filter (· ≤ min due r.deadline) with _ | time <;> exact Nat.le_max_left _ _
  · split <;> exact Nat.le_max_left _ _

/-- Starting a request takes no time. -/
theorem now_start (held : Job) (q : Request) : (w.start s r held q).1.now = w.now := by
  unfold start
  split
  · rfl
  · exact now_startRequest r held q

/-- Time does not run back. -/
theorem now_le_perform (held : Job) (q : Request) : w.now ≤ (w.perform s r held q).1.now := by
  have hconsult := now_consult (s := s) (r := r) (w := w) q
  unfold perform
  rcases hc : w.consult s r q with ⟨w₁, stopAt⟩
  have hstart := now_start (s := s) (r := r) (w := w₁) held q
  rcases hs : w₁.start s r held q with ⟨w₂, held', v | ⟨due, v⟩⟩
  all_goals
    rw [hc] at hconsult
    rw [hs] at hstart
    have hnow : w.now = w₂.now := (hstart.trans hconsult).symm
    simp only [hs, hnow]
  · exact Nat.le_refl _
  · exact now_le_await stopAt due v

theorem now_hear (q : Request) (a : q.Answer) : (w.hear q a).now = w.now := by
  cases q <;> rfl

end World

/-- **A program does not go back in time.** -/
theorem now_le_drive {s : Services σ} {r : Session} (p : Program α) (w : World σ) :
    w.now ≤ (drive s r p w).world.now := by
  induction p generalizing w with
  | finish | crash => exact Nat.le_refl _
  | stall => exact Nat.le_max_left _ _
  | ask held q next ih =>
    have hperform := World.now_le_perform (s := s) (r := r) (w := w) held q
    simp only [drive]
    rcases hp : w.perform s r held q with ⟨w', held', _ | a | message⟩
    all_goals rw [hp] at hperform
    · exact hperform
    · exact Nat.le_trans hperform (World.now_hear (w := w') q a ▸ ih held' a (w'.hear q a))
    · exact hperform

theorem now_checkFunds {s : Services σ} {w : World σ} (user : Account) (kind : Kind) :
    (checkFunds s user kind w).1.now = w.now := by
  unfold checkFunds
  split
  · rcases s.funds user.login w.outside with ⟨outside, (funds | e | message)⟩
    · simp only
      split <;> rfl
    · rfl
    · rfl
  · rfl

/-- The executor of a run is driven from the start of the run on. -/
theorem now_beginRun {s : Services σ} {w w' : World σ} {registry : Registry} {user : Account}
    {job : Job} {r : Session} {p : Program Unit}
    (h : beginRun s registry user job w = (w', .underway r p)) : w'.now = w.now := by
  -- neither the gate nor the lease takes time, and the program has not started
  have hopen : ∀ v : World σ, openRun s registry user job v = (w', .underway r p) →
      w'.now = v.now := by
    intro v hv
    have hfunds := now_checkFunds (s := s) (w := v) user job.task.kind
    unfold openRun at hv
    split at hv
    · cases hv
    · split at hv
      · cases hv
      · cases hv
      · rename_i heq
        rw [heq] at hfunds
        cases hv
        exact hfunds
  unfold beginRun at h
  split at h
  · cases h
  split at h
  · cases h
  rename_i leases _
  split at h
  · cases h
  · rename_i heq
    cases h
    exact hopen { w with leases } heq

/-! ## In a program -/

namespace World

variable {s : Services σ} {r : Session} {w w₁ : World σ} {held held₁ : Job}

/-- A request that cannot be interrupted is answered when it is over, or its program is dropped if
that is behind the backstop. -/
theorem perform_due {q : Request} {delay : Nat} {v : Verdict q.Answer}
    (hq : q.isInterruptible = false)
    (hstart : w.startRequest s r held q = (w₁, held₁, .after w.now delay v)) :
    w.perform s r held q = ({ w₁ with now := w.now + delay }, held₁, some v) ∨
      r.backstop < w.now + delay ∧
        w.perform s r held q = (w₁.waitUntil r.backstop, held₁, none) := by
  have hnow : w₁.now = w.now := by
    rw [← now_startRequest (s := s) (w := w) r held q, hstart]
  simp only [perform_eq_of_uninterruptible hq, hstart, Started.after]
  by_cases hzero : delay = 0
  · refine .inl ?_
    simp only [hzero, if_true, Nat.add_zero, ← hnow]
  simp only [hzero, if_false]
  by_cases htime : w.now + delay ≤ r.backstop
  · refine .inl ?_
    simp only [if_pos htime, waitUntil, hnow, Nat.max_eq_right (Nat.le_add_right w.now delay)]
  · refine .inr ⟨Nat.lt_of_not_le htime, ?_⟩
    simp only [if_neg htime]

/-- A history write that succeeds is answered when the store has taken its time. -/
theorem startRequest_note_due (hs : s.StoreSucceeds) (r : Session) (before : Status) (job : Job) :
    ∃ w' delay, w.startRequest s r job (.note before) =
        (w', job, .after w.now delay (.answer ())) ∧
      w'.store = w.store.noted before job (s.wallClock w.now) ∧ w'.log = w.log := by
  by_cases hsame : before = job.status
  · refine ⟨w, 0, ?_, ?_, rfl⟩
    · simp only [startRequest, hsame, if_true]
      rfl
    · rw [Store.noted, if_pos hsame]
  · obtain ⟨outside, h⟩ := recordStatus_eq (w := w) hs before job
    refine ⟨{ w with
      outside := (s.lag outside).1
      store := w.store.noted before job (s.wallClock w.now) }, (s.lag outside).2, ?_, rfl, rfl⟩
    simp only [startRequest, hsame, if_false, h]
    rfl

/-- A charge that is accepted is answered like one that is not owed. -/
theorem startRequest_charge_due {before : Status} (r : Session) (job : Job)
    (haccepts : s.billing.chargeOwed before job.status job.task.kind = true →
      ∀ charge x, (s.accept charge x).2 = .value ()) :
    ∃ w' delay, w.startRequest s r job (.charge before) =
        (w', job, .after w.now delay (.answer (.ok ()))) ∧
      w'.store = w.store ∧
      w'.log = s.billing.chargeEvents r.user.login before job ++ w.log := by
  unfold BillingPolicy.chargeEvents
  by_cases howed : s.billing.chargeOwed before job.status job.task.kind = true
  · obtain ⟨outside, haccept⟩ :
        ∃ x, s.accept (.ofJob job r.user.login) w.outside = (x, .value ()) :=
      ⟨_, Prod.ext rfl (haccepts howed _ _)⟩
    refine ⟨{ w with
      outside := (s.lag outside).1
      log := .charged (.ofJob job r.user.login) :: w.log }, (s.lag outside).2, ?_, rfl, ?_⟩
    · simp only [startRequest, howed, if_true, settleCharge, haccept]
      rfl
    · rw [if_pos howed]
      rfl
  · refine ⟨w, 0, ?_, rfl, ?_⟩
    · simp only [startRequest, howed]
      rfl
    · rw [if_neg howed]
      rfl

end World

namespace Routine

variable {s : Services σ} {r : Session} {w w₁ : World σ} {job job₁ stored : Job} {lag : Nat}
  {H : World σ → Job → Halt → Prop}

/-- A request that nothing interrupts is over after its delay, or dropped at the backstop. -/
theorem meets_ask_due {q : Request} {delay : Nat} {v : Verdict q.Answer}
    {D : World σ → Job → q.Answer → Prop} (hq : q.isInterruptible = false)
    (hstart : w.startRequest s r job q = (w₁, job₁, .after w.now delay v))
    (hdrop : ∀ w', r.backstop < w.now + delay → H w' job₁ .dropped)
    (hover : ∀ w', w'.store = w₁.store → w'.log = w₁.log → w'.now = w.now + delay →
      match v with
      | .answer a => D w' job₁ a
      | .crash message => H w' job₁ (.crashed message)) :
    (ask q).Meets s r w job D H := by
  rw [meets_ask]
  obtain hp | ⟨hlate, hp⟩ := World.perform_due hq hstart
  · rw [hp]
    have := hover { w₁ with now := w.now + delay } rfl rfl rfl
    cases v with
    | answer a => cases q <;> first | exact this | cases hq
    | crash message => exact this
  · rw [hp]
    exact hdrop _ hlate

/-- What is over in front of the backstop is answered. -/
theorem meets_ask_in_time {q : Request} {delay : Nat} {v : Verdict q.Answer}
    {D : World σ → Job → q.Answer → Prop} (hq : q.isInterruptible = false)
    (hstart : w.startRequest s r job q = (w₁, job₁, .after w.now delay v))
    (htime : w.now + delay ≤ r.backstop)
    (hover : ∀ w', w'.store = w₁.store → w'.log = w₁.log → w'.now = w.now + delay →
      match v with
      | .answer a => D w' job₁ a
      | .crash message => H w' job₁ (.crashed message)) :
    (ask q).Meets s r w job D H :=
  meets_ask_due hq hstart (fun _ hlate => absurd htime (Nat.not_le_of_lt hlate)) hover

theorem drive_ask_bind {β : Type} (q : Request) (f : q.Answer → Routine β) :
    drive s r ((ask q >>= f) job) w =
      match w.perform s r job q with
      | (w, job, some (.answer a)) => drive s r (f a job) (w.hear q a)
      | (w, job, some (.crash message)) => ⟨w, job, .crashed message⟩
      | (w, job, none) => ⟨w, job, .dropped⟩ := by
  have h : (ask q >>= f) job = .ask job q fun job a => f a job := rfl
  rewrite [h, drive]
  rcases w.perform s r job q with ⟨w', job', _ | a | message⟩ <;> rfl

/-- A rest is cut short, or it takes its time. -/
theorem meets_rest {duration : Nat} {D : World σ → Job → Except TaskError Unit → Prop}
    (hcut : ∀ w' e, w'.store = w.store → w'.log = w.log → e.IsInterruption →
      D w' job (.error e))
    (hslept : ∀ w', w'.store = w.store → w'.log = w.log → w'.now = w.now + duration →
      w'.now < r.deadline → D w' job (.ok ())) :
    (ask (.sleep duration)).Meets s r w job D H := by
  rw [meets_ask]
  obtain ⟨w', e, he, hp, hstore, hlog⟩ | ⟨w', hp, hstore, hlog, hnow, hdeadline⟩ :=
    World.perform_sleep_cases (s := s) (r := r) (w := w) job duration
  · rw [hp]
    exact hcut w' e hstore hlog he
  · rw [hp]
    exact hslept w' hstore hlog hnow hdeadline

/-- A job that is stored with its status already is stored in time, if the store is fast enough for
the time that is left. -/
theorem meets_persist_in_time (hs : s.StoreSucceeds) (hlag : ∀ x, (s.lag x).2 ≤ lag)
    (hj : w.store.get? job.id = some stored) (hsame : stored.status = job.status)
    (htime : w.now + 2 * lag ≤ r.backstop) {D : World σ → Job → Unit → Prop}
    (hdone : ∀ w' t₁ t₂, World.Stores s r.user.login stored job t₁ t₂ w w' →
      w'.now ≤ w.now + 2 * lag → D w' (job.stamped t₂) ()) :
    persist.Meets s r w job D H := by
  have hlagged : ∀ v : World σ, (v.lag s).2 ≤ lag := fun v => hlag v.outside
  have hover : ∀ (v : World σ) (n : Nat), n + lag ≤ r.backstop → n + (v.lag s).2 ≤ r.backstop :=
    fun v n hn => Nat.le_trans (Nat.add_le_add_left (hlagged v) n) hn
  unfold persist
  simp only [meets_bind, meets_ofExcept]
  obtain ⟨o₁, hget⟩ := World.getJob_eq hs hj
  refine meets_ask_in_time (q := .reread) rfl (by simp only [World.startRequest, hget]; rfl)
    (hover _ _ (by omega)) ?_
  intro w₁ hstore₁ hlog₁ hnow₁
  have hle₁ : w₁.now ≤ w.now + lag := hnow₁ ▸ Nat.add_le_add_left (hlagged _) _
  -- the status is that of the stored copy, so there is nothing to note and no charge
  refine (meets_ask (q := .note stored.status)).2 ?_
  rw [World.perform_over (q := .note stored.status) rfl
    (by simp only [World.startRequest, hsame, if_true]; rfl)]
  simp only [World.hear]
  have hj₁ : w₁.store.get? job.id = some stored := by rw [hstore₁]; exact hj
  obtain ⟨o₂, hupdate⟩ := World.updateJob_eq (w := w₁) hs (w₁.stamp s job) hj₁
  refine meets_ask_in_time (q := .store) rfl (by simp only [World.startRequest, hupdate]; rfl)
    (hover _ _ (by omega)) ?_
  intro w₂ hstore₂ hlog₂ hnow₂
  have hle₂ : w₂.now ≤ w₁.now + lag := hnow₂ ▸ Nat.add_le_add_left (hlagged _) _
  have hfree : s.billing.chargeOwed stored.status job.status job.task.kind = false :=
    hsame ▸ s.billing.chargeOwed_self _ _
  have hcharge : w₂.perform s r (job.stamped (s.wallClock w₁.now)) (.charge stored.status) =
      (w₂, job.stamped (s.wallClock w₁.now), some (.answer (.ok ()))) :=
    World.perform_over rfl (if_neg (by rw [Bool.not_eq_true]; exact hfree))
  refine (meets_ask (q := .charge stored.status)).2 ?_
  rw [show w₁.stamp s job = job.stamped (s.wallClock w₁.now) from rfl, hcharge]
  refine hdone w₂ (s.wallClock w.now) (s.wallClock w₁.now) ⟨?_, ?_⟩ (by omega)
  · rw [hstore₂, Store.noted, if_pos hsame, hstore₁]
    rfl
  · rw [hlog₂, BillingPolicy.chargeEvents, hfree, hlog₁]
    rfl

/-- A job is stored somewhere between the start of its program and the end, with the time of that
moment, or the program is dropped; a charge that is accepted is no reason to halt. -/
theorem meets_persist_due (hs : s.StoreSucceeds) (hj : w.store.get? job.id = some stored)
    (haccepts : s.billing.chargeOwed stored.status job.status job.task.kind = true →
      ∀ charge x, (s.accept charge x).2 = .value ())
    {D : World σ → Job → Unit → Prop} (hdrop : ∀ w' held, H w' held .dropped)
    (hdone : ∀ w' t u, w.now ≤ u → u ≤ w'.now →
      World.Stores s r.user.login stored job t (s.wallClock u) w w' →
      D w' (job.stamped (s.wallClock u)) ()) :
    persist.Meets s r w job D H := by
  unfold persist
  simp only [meets_bind, meets_ofExcept]
  obtain ⟨o₁, hget⟩ := World.getJob_eq hs hj
  refine meets_ask_due (q := .reread) rfl (by simp only [World.startRequest, hget]; rfl)
    (fun w' _ => hdrop w' _) ?_
  intro w₁ hstore₁ hlog₁ hnow₁
  obtain ⟨v₁, delay₁, hnote, hstorev₁, hlogv₁⟩ :=
    World.startRequest_note_due (w := w₁) hs r stored.status job
  refine meets_ask_due (q := .note stored.status) rfl hnote (fun w' _ => hdrop w' _) ?_
  intro w₂ hstore₂ hlog₂ hnow₂
  rw [hstorev₁, hstore₁] at hstore₂
  rw [hlogv₁, hlog₁] at hlog₂
  have hj₂ : w₂.store.get? job.id = some stored := by
    rw [hstore₂, Store.get?_noted]
    exact hj
  obtain ⟨o₂, hupdate⟩ := World.updateJob_eq (w := w₂) hs (w₂.stamp s job) hj₂
  refine meets_ask_due (q := .store) rfl (by simp only [World.startRequest, hupdate]; rfl)
    (fun w' _ => hdrop w' _) ?_
  intro w₃ hstore₃ hlog₃ hnow₃
  obtain ⟨v₃, delay₃, hcharge, hstorev₃, hlogv₃⟩ :=
    World.startRequest_charge_due (w := w₃) r (w₂.stamp s job) haccepts
  refine meets_ask_due (q := .charge stored.status) rfl hcharge (fun w' _ => hdrop w' _) ?_
  intro w₄ hstore₄ hlog₄ hnow₄
  refine hdone w₄ (s.wallClock w₁.now) w₂.now (by omega) (by omega) ⟨?_, ?_⟩
  · rw [hstore₄, hstorev₃, hstore₃, hstore₂]
    rfl
  · rw [hlog₄, hlogv₃, hlog₃, hlog₂]
    rfl

end Routine

end WalletTasks
