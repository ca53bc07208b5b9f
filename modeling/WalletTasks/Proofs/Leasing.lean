import WalletTasks.Proofs.Keeping

/-!
# Who looks at the leases

Of all that runs do, only the start of a run, its end and a stop change the leases, and only the
question for an interruption looks at them. Everything else comes to the same with other leases: the
operations of the store, charges, the question for the funds, calls, and what the runner does behind
an executor.

* `IgnoresLeases`: an operation that comes to the same with other leases.
* `World.startRequest_leases`: no request changes the leases.
* `drive_withLeases`: a program that only puts things on record is not affected by a stop.
-/

namespace WalletTasks

variable {σ α β : Type}

/-- The same world with other leases. -/
def World.withLeases (l : Leases) (w : World σ) : World σ := { w with leases := l }

/-- An operation on worlds neither looks at the leases nor changes them. -/
def IgnoresLeases (f : World σ → World σ × α) : Prop :=
  ∀ w l, f (w.withLeases l) = ((f w).1.withLeases l, (f w).2)

/-- What ignores the leases keeps them. -/
theorem IgnoresLeases.leases_eq {f : World σ → World σ × α} (h : IgnoresLeases f) (w : World σ) :
    (f w).1.leases = w.leases :=
  congrArg (fun p : World σ × α => p.1.leases) (h w w.leases)

/-! ## The operations of the store -/

namespace World

variable {s : Services σ}

theorem getJob_ignoresLeases (id : Identifier) : IgnoresLeases (getJob s id) := by
  intro w l
  simp only [getJob, fault?, withLeases]
  rcases hx : s.fault? .get w.outside with ⟨outside, _ | e⟩ <;> simp only [hx]
  cases w.store.get? id <;> rfl

theorem updateJob_ignoresLeases (job : Job) : IgnoresLeases (updateJob s job) := by
  intro w l
  simp only [updateJob, fault?, withLeases]
  rcases hx : s.fault? .update w.outside with ⟨outside, _ | e⟩ <;> simp only [hx]
  cases w.store.update? job <;> rfl

theorem recordStatus_withLeases (before : Status) (job : Job) (w : World σ) (l : Leases) :
    (w.withLeases l).recordStatus s before job = (w.recordStatus s before job).withLeases l := by
  simp only [recordStatus, fault?, withLeases]
  split
  · rfl
  · rcases hx : s.fault? .history w.outside with ⟨outside, _ | e⟩ <;> simp only [hx]

theorem recordTransaction_withLeases (entry : AuditEntry) (w : World σ) (l : Leases) :
    (w.withLeases l).recordTransaction s entry = (w.recordTransaction s entry).withLeases l := by
  simp only [recordTransaction, fault?, withLeases]
  rcases hx : s.fault? .audit w.outside with ⟨outside, _ | e⟩ <;> simp only [hx]

theorem settleCharge_ignoresLeases (login : String) (before : Status) (job : Job) :
    IgnoresLeases (settleCharge s login before job) := by
  intro w l
  simp only [settleCharge, withLeases]
  split
  · rcases hx : s.accept (.ofJob job login) w.outside with ⟨outside, ⟨⟩ | e | message⟩ <;>
      simp only [hx]
  · rfl

/-- Reconciling does not look at the leases. -/
theorem reconcile_ignoresLeases (login : String) (job : Job) :
    IgnoresLeases (reconcile s login job) := by
  intro w l
  simp only [reconcile]
  rw [getJob_ignoresLeases job.id w l]
  rcases w.getJob s job.id with ⟨w₁, e | stored⟩
  · rfl
  simp only [recordStatus_withLeases]
  generalize w₁.recordStatus s stored.status job = w₂
  have hstamp : (w₂.withLeases l).stamp s job = w₂.stamp s job := rfl
  rw [hstamp, updateJob_ignoresLeases (w₂.stamp s job) w₂ l]
  rcases w₂.updateJob s (w₂.stamp s job) with ⟨w₃, e | ⟨⟨⟩⟩⟩
  · rfl
  · simp only [settleCharge_ignoresLeases login stored.status (w₂.stamp s job) w₃ l]

/-! ## Requests -/

/-- A request that only puts things on record does not look at the leases. -/
theorem startRequest_ignoresLeases {r : Session} {held : Job} {q : Request}
    (hq : q.isRecording = true) : IgnoresLeases fun w => startRequest s r held w q := by
  intro w l
  -- requests of the store and the clock; everything else is excluded
  cases q with
  | reread =>
    simp only [startRequest, getJob_ignoresLeases held.id w l]
    rfl
  | note before =>
    simp only [startRequest, recordStatus_withLeases]
    split <;> rfl
  | store =>
    have hstamp : (w.withLeases l).stamp s held = w.stamp s held := rfl
    simp only [startRequest, hstamp, updateJob_ignoresLeases (w.stamp s held) w l]
    rfl
  | charge before =>
    simp only [startRequest, settleCharge_ignoresLeases r.user.login before held w l]
    split <;> rfl
  | audit entry =>
    simp only [startRequest, recordTransaction_withLeases]
    rfl
  | clock => rfl
  | _ => cases hq

/-- No request changes the leases. -/
theorem startRequest_leases (r : Session) (held : Job) (q : Request) (w : World σ) :
    (w.startRequest s r held q).1.leases = w.leases := by
  cases hq : q.isRecording with
  | true => exact (startRequest_ignoresLeases hq).leases_eq w
  | false => cases q <;> first | rfl | cases hq

theorem hear_withLeases (q : Request) (a : q.Answer) (w : World σ) (l : Leases) :
    (w.withLeases l).hear q a = (w.hear q a).withLeases l := by
  cases q <;> rfl

/-- A request that only puts things on record comes to the same whatever the leases say, and
whatever the deadline. -/
theorem perform_withLeases {r : Session} {q : Request} (hq : q.isRecording = true) (held : Job)
    (w : World σ) (l : Leases) :
    (w.withLeases l).perform s r held q =
      ((w.perform s r held q).1.withLeases l, (w.perform s r held q).2) := by
  have hfirm := Request.isInterruptible_of_isRecording hq
  simp only [perform_eq_of_uninterruptible hfirm, startRequest_ignoresLeases hq w l]
  rcases w.startRequest s r held q with ⟨w₁, held₁, v | ⟨due, v⟩⟩
  · rfl
  · dsimp only
    split <;> rfl

end World

/-- **A stop makes no difference** to a program that only puts things on record. -/
theorem drive_withLeases {s : Services σ} {r : Session} {p : Program α} {I : Job → Prop}
    (hI : ∀ job t, I job → I (job.stamped t)) (hp : p.KeepsTo (·.isRecording = true) I)
    (w : World σ) (l : Leases) :
    drive s r p (w.withLeases l) =
      { drive s r p w with world := (drive s r p w).world.withLeases l } := by
  induction p generalizing w with
  | finish | crash => rfl
  | stall => cases hp
  | ask held q next ih =>
    obtain ⟨hq, hheld, hnext⟩ := hp
    have hheld' : I (w.perform s r held q).2.1 := World.holds_perform hI hheld q
    simp only [drive, World.perform_withLeases hq held w l]
    rcases hw : w.perform s r held q with ⟨w', held', _ | a | message⟩
    · rfl
    · rw [hw] at hheld'
      simp only [World.hear_withLeases]
      exact ih held' a (hnext held' a hheld') _
    · rfl

/-! ## The runner -/

section

variable {s : Services σ}

theorem failRun_ignoresLeases (user : Account) (job : Job) (e : TaskError) :
    IgnoresLeases (failRun s user job e) := by
  intro w l
  simp only [failRun, World.reconcile_ignoresLeases user.login
    { job with status := .error, error := some e.message } w l]
  rcases w.reconcile s user.login { job with status := .error, error := some e.message } with
    ⟨w', job', _ | c | message⟩ <;> rfl

/-- The gate does not look at the leases. -/
theorem checkFunds_ignoresLeases (user : Account) (kind : Kind) :
    IgnoresLeases (checkFunds s user kind) := by
  intro w l
  simp only [checkFunds, World.withLeases]
  split
  · rcases hx : s.funds user.login w.outside with ⟨outside, funds | e | message⟩ <;> simp only [hx]
    split <;> rfl
  · rfl

/-- Closing a run does not look at the leases. -/
theorem closeRun_ignoresLeases (r : Session) (held : Job) (outcome : Outcome Unit) :
    IgnoresLeases fun w => closeRun s r ⟨w, held, outcome⟩ := by
  intro w l
  rcases outcome with (c | ⟨⟨⟩⟩) | message | _
  · simp only [closeRun]
    split
    · rw [World.getJob_ignoresLeases held.id w l]
      rcases w.getJob s held.id with ⟨w', e | job⟩ <;> rfl
    · exact failRun_ignoresLeases r.user held c w l
  · simp only [closeRun]
    rw [World.reconcile_ignoresLeases r.user.login { held with error := none } w l]
    rcases w.reconcile s r.user.login { held with error := none } with
      ⟨w', job', ⟨⟩ | c | message⟩ <;> rfl
  · exact failRun_ignoresLeases r.user held _ w l
  · exact failRun_ignoresLeases r.user held _ w l

end

end WalletTasks
