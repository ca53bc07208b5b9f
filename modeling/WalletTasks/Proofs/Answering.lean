import WalletTasks.Proofs.Dropping

/-!
# Programs whose requests are answered in time

A program can be dropped wherever it waits for the store or for a charge. `Routine.Answered` says
what a program comes to as long as it is not dropped while it waits for a request of some class; it
is taken apart along the program in the same way as `Routine.Meets`. A job whose status is stored
already is stored without a charge, so that it is only the store that such a program waits for.

* `Routine.answered_bind`: a program in `do` notation is taken apart at its binds.
* `Routine.answered_persist`: a job is stored, if the store answers and no charge is owed.
-/

namespace WalletTasks

variable {σ α β : Type}

/-- Whether a request asks the store for something. -/
def Request.asksStore : Request → Bool
  | reread | note _ | store | audit _ => true
  | _ => false

/-- A program is dropped in its first part, or in what follows it. -/
theorem Program.isDroppedAt_andThen (c : Request → Bool) (s : Services σ) (r : Session)
    (p : Program α) (f : Job → α → Program β) (w : World σ) :
    (p.andThen f).isDroppedAt c s r w =
      (p.isDroppedAt c s r w ||
        match drive s r p w with
        | ⟨w, held, .returned (.ok a)⟩ => (f held a).isDroppedAt c s r w
        | _ => false) := by
  induction p generalizing w with
  | finish held result => cases result <;> rfl
  | crash | stall => rfl
  | ask held q next ih =>
    simp only [andThen, isDroppedAt, drive]
    rcases w.perform s r held q with ⟨w', held', _ | a | message⟩
    · simp
    · exact ih held' a (w'.hear q a)
    · rfl

namespace Routine

/-- One condition holds where the program ends with a value, another one where it halts, as long as
it is not dropped while it waits for a request of a class. -/
def Answered (c : Request → Bool) (m : Routine α) (s : Services σ) (r : Session) (w : World σ)
    (job : Job) (done : World σ → Job → α → Prop) (halted : World σ → Job → Halt → Prop) : Prop :=
  (m job).isDroppedAt c s r w = false → m.Meets s r w job done halted

variable {c : Request → Bool} {s : Services σ} {r : Session} {w : World σ} {job stored : Job}
  {D : World σ → Job → α → Prop} {H : World σ → Job → Halt → Prop}

/-- What holds whether or not the requests are answered in time holds if they are. -/
theorem answered_of_meets {m : Routine α} (h : m.Meets s r w job D H) :
    m.Answered c s r w job D H := fun _ => h

@[simp] theorem answered_pure (a : α) :
    (pure a : Routine α).Answered c s r w job D H ↔ D w job a :=
  ⟨fun h => h rfl, fun h _ => h⟩

@[simp] theorem answered_held {D : World σ → Job → Job → Prop} :
    held.Answered c s r w job D H ↔ D w job job :=
  ⟨fun h => h rfl, fun h _ => h⟩

@[simp] theorem answered_modify {D : World σ → Job → Unit → Prop} (f : Job → Job) :
    (modify f).Answered c s r w job D H ↔ D w (f job) () :=
  ⟨fun h => h rfl, fun h _ => h⟩

@[simp] theorem answered_setStatus {D : World σ → Job → Unit → Prop} (t : Status) :
    (setStatus t).Answered c s r w job D H ↔ D w { job with status := t } () :=
  ⟨fun h => h rfl, fun h _ => h⟩

@[simp] theorem answered_ofExcept (x : Except TaskError α) :
    (ofExcept x).Answered c s r w job D H ↔
      match x with
      | .ok a => D w job a
      | .error e => H w job (.failed e) := by
  cases x <;> exact ⟨fun h => h rfl, fun h _ => h⟩

/-- Routines that follow one another are answered one after the other. -/
@[simp] theorem answered_bind {D : World σ → Job → β → Prop} (m : Routine α)
    (f : α → Routine β) :
    (m >>= f).Answered c s r w job D H ↔
      m.Answered c s r w job (fun w job a => (f a).Answered c s r w job D H) H := by
  have h : (m >>= f) job = (m job).andThen fun job a => f a job := rfl
  unfold Answered
  rw [h, Program.isDroppedAt_andThen, meets_bind, Bool.or_eq_false_iff]
  unfold Meets
  -- only where the first part ends with a value is there a second one to be dropped
  rcases drive s r (m job) w with ⟨w', held, (e | a) | message | _⟩
  · exact ⟨fun h hm => h ⟨hm, rfl⟩, fun h hm => h hm.1⟩
  · exact ⟨fun h hm hf => h ⟨hm, hf⟩, fun h hm => h hm.1 hm.2⟩
  · exact ⟨fun h hm => h ⟨hm, rfl⟩, fun h hm => h hm.1⟩
  · exact ⟨fun h hm => h ⟨hm, rfl⟩, fun h hm => h hm.1⟩

/-- A request of the class does not drop the program. -/
theorem answered_ask {q : Request} {D : World σ → Job → q.Answer → Prop} (hq : c q = true)
    (h : (ask q).Meets s r w job D fun w' job' e => e.isDropped = false → H w' job' e) :
    (ask q).Answered c s r w job D H := by
  intro hanswered
  rw [meets_ask] at h ⊢
  simp only [ask, Program.isDroppedAt] at hanswered
  rcases hp : w.perform s r job q with ⟨w', job', _ | a | message⟩
  all_goals
    rw [hp] at h hanswered
    simp only at h hanswered ⊢
  · rw [hq] at hanswered
    cases hanswered
  · exact h
  · exact h rfl

/-- Storing a job that nothing is owed for gets through to its end if the store answers in time. -/
theorem answered_persist (hs : s.StoreSucceeds) (hj : w.store.get? job.id = some stored)
    (hfree : s.billing.chargeOwed stored.status job.status job.task.kind = false)
    {D : World σ → Job → Unit → Prop}
    (hdone : ∀ w' t₁ t₂, World.Stores s r.user.login stored job t₁ t₂ w w' →
      D w' (job.stamped t₂) ()) :
    persist.Answered Request.asksStore s r w job D H := by
  unfold persist
  simp only [answered_bind, answered_ofExcept]
  -- the four requests of a write, each of which is answered
  refine answered_ask rfl (meets_reread hs hj (fun _ _ _ h => by cases h) ?_)
  intro w₁ hstore₁ hlog₁
  refine answered_ask rfl (meets_note hs (fun _ _ _ _ h => by cases h) ?_)
  intro w₂ t₁ hstore₂ hlog₂
  have hj₂ : w₂.store.get? job.id = some stored := by
    rw [hstore₂, Store.get?_noted, hstore₁, hj]
  refine answered_ask rfl (meets_store hs hj₂ (fun _ _ _ _ h => by cases h) ?_)
  intro w₃ t₂ hstore₃ hlog₃
  -- the charge is asked for all the same, but as none is owed it cannot keep the job waiting
  have hfree' : s.billing.chargeOwed stored.status (job.stamped t₂).status
      (job.stamped t₂).task.kind = false := hfree
  refine answered_of_meets (meets_charge (fun howed => ?_) ?_)
  · rw [hfree'] at howed
    cases howed
  rintro w₄ a hstore₄ hlog₄ (rfl | ⟨howed, -⟩)
  · refine hdone w₄ t₁ t₂ ⟨?_, ?_⟩
    · rw [hstore₄, hstore₃, hstore₂, hstore₁]
    · rw [hlog₄, hlog₃, hlog₂, hlog₁]
      rfl
  · rw [hfree'] at howed
    cases howed

end Routine

end WalletTasks
