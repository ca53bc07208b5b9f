import WalletTasks.Proofs.Conclusion

/-!
# How far a run takes a job

A run is given a copy of a job, which need not be the stored one. Behind the run the stored job is
still the one from before, or it is at least as far as the copy. At most one transaction has been
submitted, and none if the copy had left something on chain; and if one has been submitted, the
stored job has ended or has it on record.

* `run_advances`: this holds behind every run of the standard registry.
-/

namespace WalletTasks

variable {σ : Type}

/-- The course of a run: what it may have made of the store and of the log. -/
structure Course (stored₀ copy : Job) (n₀ : Nat) (st : Store) (log : List Event) : Prop where
  stored : ∃ j, st.get? copy.id = some j ∧ (j = stored₀ ∨ copy.Grows j)
  submissions_le : submissionsIn log ≤ n₀ + 1
  spent : copy.isSpent = true → submissionsIn log = n₀

/-- A course at whose end a submission is on record. -/
structure Advance (stored₀ copy : Job) (n₀ : Nat) (st : Store) (log : List Event) : Prop
    extends Course stored₀ copy n₀ st log where
  onRecord : submissionsIn log = n₀ ∨ ∃ j, st.get? copy.id = some j ∧ j.isSealed = true

section

variable {s : Services σ} {r : Session} {login : String} {stored₀ copy stored job held : Job}
  {n₀ : Nat} {t₁ t₂ : Instant} {w w' : World σ}

namespace Course

theorem congr (h : Course stored₀ copy n₀ w.store w.log) (hstore : w'.store = w.store)
    (hsub : submissionsIn w'.log = submissionsIn w.log) :
    Course stored₀ copy n₀ w'.store w'.log := by
  refine ⟨by rw [hstore]; exact h.stored, by rw [hsub]; exact h.submissions_le, ?_⟩
  intro hspent
  rw [hsub, h.spent hspent]

/-- A job that has left nothing on chain is submitted. -/
theorem submitted (h : Course stored₀ copy n₀ w.store w.log) (hn : submissionsIn w.log = n₀)
    (hfresh : copy.isSpent = false) {events : List Event} (hstore : w'.store = w.store)
    (hlog : w'.log = events ++ w.log) (hle : submissionsIn events ≤ 1) :
    Course stored₀ copy n₀ w'.store w'.log := by
  refine ⟨by rw [hstore]; exact h.stored, ?_, ?_⟩
  · rw [hlog, submissionsIn_append]
    omega
  · intro hspent
    rw [hfresh] at hspent
    cases hspent

/-- A write of the held job keeps a run on its course. -/
theorem of_stores (h : Course stored₀ copy n₀ w.store w.log) (hgrows : copy.Grows job)
    (hst : World.Stores s login stored job t₁ t₂ w w') :
    Course stored₀ copy n₀ w'.store w'.log := by
  have hsub := hst.submissionsIn_eq
  have hget := hst.get?
  rw [hgrows.id_eq] at hget
  refine ⟨⟨_, hget, .inr (hgrows.of_task_eq rfl rfl)⟩, by rw [hsub]; exact h.submissions_le, ?_⟩
  intro hspent
  rw [hsub, h.spent hspent]

/-- A run that stores its job as failed keeps to the course, whatever is stored. -/
theorem failsTo_of_get? (hj : w.store.get? held.id = some stored) (hgrows : copy.Grows held)
    (hle : submissionsIn w.log ≤ n₀ + 1) (hspent : copy.isSpent = true → submissionsIn w.log = n₀)
    (dropped : Bool) (e : TaskError) :
    FailsTo (fun _ st log _ => Advance stored₀ copy n₀ st log) s login dropped w held e := by
  refine ⟨stored, hj, ?_⟩
  intro w' t result hst _
  have hsub := hst.submissionsIn_eq
  have hgrows' : copy.Grows (held.failed e) := hgrows.of_task_eq rfl rfl
  have hget := hst.get?
  rw [hgrows'.id_eq] at hget
  refine ⟨⟨⟨_, hget, .inr (hgrows'.of_task_eq rfl rfl)⟩, by rw [hsub]; exact hle, ?_⟩,
    .inr ⟨_, hget, rfl⟩⟩
  intro h
  rw [hsub, hspent h]

/-- A write that is broken off keeps a run on its course as well. -/
theorem of_storing (h : Course stored₀ copy n₀ w.store w.log) (hgrows : copy.Grows job)
    (hj : w.store.get? job.id = some stored) (hst : World.Storing s login stored job w w' held) :
    Course stored₀ copy n₀ w'.store w'.log := by
  have hsub := hst.submissionsIn_eq
  have hget := hst.get? hj
  rw [hgrows.id_eq] at hget hj
  refine ⟨?_, by rw [hsub]; exact h.submissions_le, fun hspent => by rw [hsub, h.spent hspent]⟩
  rcases hget with hget | ⟨t, hget⟩
  · obtain ⟨j, hj', hcourse⟩ := h.stored
    rw [hj] at hj'
    cases hj'
    exact ⟨_, hget, hcourse⟩
  · exact ⟨_, hget, .inr (hgrows.of_task_eq rfl rfl)⟩

/-- A run on its course has advanced, if it is stored with what keeps it from submitting again. -/
theorem advance (h : Course stored₀ copy n₀ w.store w.log)
    (hget : w.store.get? copy.id = some job)
    (hsealed : submissionsIn w.log = n₀ ∨ job.isSealed = true) :
    Advance stored₀ copy n₀ w.store w.log := by
  refine ⟨h, ?_⟩
  rcases hsealed with hsub | hsealed
  · exact .inl hsub
  · exact .inr ⟨job, hget, hsealed⟩

/-- A run on its course may fail: the failed job keeps the transaction on record. -/
theorem failsTo (h : Course stored₀ copy n₀ w.store w.log) (hgrows : copy.Grows held)
    (dropped : Bool) (e : TaskError) :
    FailsTo (fun _ st log _ => Advance stored₀ copy n₀ st log) s login dropped w held e := by
  obtain ⟨j, hj, -⟩ := h.stored
  rw [← hgrows.id_eq] at hj
  exact failsTo_of_get? hj hgrows h.submissions_le h.spent dropped e

theorem closesHalted (h : Course stored₀ copy n₀ w.store w.log) (hgrows : copy.Grows held)
    {halt : Halt} (hretry : halt.isRetryable = false) :
    ClosesHalted (fun _ st log _ => Advance stored₀ copy n₀ st log) s r w held halt := by
  refine ⟨?_, fun _ => h.failsTo hgrows _ _⟩
  intro htrue
  rw [hretry] at htrue
  cases htrue

end Course

namespace Advance

theorem congr (h : Advance stored₀ copy n₀ w.store w.log) (hstore : w'.store = w.store)
    (hsub : submissionsIn w'.log = submissionsIn w.log) :
    Advance stored₀ copy n₀ w'.store w'.log := by
  refine ⟨h.toCourse.congr hstore hsub, ?_⟩
  rw [hstore, hsub]
  exact h.onRecord

theorem audit (h : Advance stored₀ copy n₀ w.store w.log) {entry : AuditEntry}
    (hstore : w'.store = w.store.audit entry) (hlog : w'.log = w.log) :
    Advance stored₀ copy n₀ w'.store w'.log := by
  rw [hstore, hlog]
  exact ⟨⟨h.stored, h.submissions_le, h.spent⟩, h.onRecord⟩

theorem closesHalted (h : Advance stored₀ copy n₀ w.store w.log) (hgrows : copy.Grows held)
    (halt : Halt) :
    ClosesHalted (fun _ st log _ => Advance stored₀ copy n₀ st log) s r w held halt := by
  refine ⟨fun _ => ?_, fun _ => h.toCourse.failsTo hgrows _ _⟩
  obtain ⟨j, hj, -⟩ := h.stored
  exact ⟨j, by rw [hgrows.id_eq, hj], h⟩

theorem closesDone (h : Advance stored₀ copy n₀ w.store w.log) (hgrows : copy.Grows held)
    (hsealed : submissionsIn w.log = n₀ ∨ held.isSealed = true) :
    ClosesDone (fun _ st log _ => Advance stored₀ copy n₀ st log) s r w held () := by
  obtain ⟨j, hj, -⟩ := h.stored
  refine ⟨j, by rw [hgrows.id_eq, hj], ?_⟩
  intro w' t result hst _
  have hgrows' : copy.Grows held.cleared := hgrows.of_task_eq rfl rfl
  have hget := hst.get?
  rw [hgrows'.id_eq] at hget
  refine (h.toCourse.of_stores hgrows' hst).advance hget ?_
  rw [hst.submissionsIn_eq]
  exact hsealed

end Advance

/-- A job is stored in the course of a run. -/
theorem Routine.meets_persist_course (hs : s.StoreSucceeds) {D : World σ → Job → Unit → Prop}
    (h : Course stored₀ copy n₀ w.store w.log) (hgrows : copy.Grows job)
    (hsealed : submissionsIn w.log = n₀ ∨ job.isSealed = true)
    (hdone : ∀ w' t, Advance stored₀ copy n₀ w'.store w'.log →
      submissionsIn w'.log = submissionsIn w.log →
      w'.store.get? job.id = some (job.stamped t) → D w' (job.stamped t) ()) :
    persist.Meets s r w job D
      (ClosesHalted (fun _ st log _ => Advance stored₀ copy n₀ st log) s r) := by
  obtain ⟨j, hj, -⟩ := h.stored
  rw [← hgrows.id_eq] at hj
  refine meets_persist hs hj ?_ ?_
  -- the write breaks off, before or after the job was stamped
  · intro w' held halt hst hh
    have hgrows' : copy.Grows held := by
      rcases hst.held_eq with rfl | ⟨t, rfl⟩
      · exact hgrows
      · exact hgrows.of_task_eq rfl rfl
    exact (h.of_storing hgrows hj hst).closesHalted hgrows' hh.isRetryable
  · intro w' t₁ t₂ hst
    have hget := hst.get?
    have hget' := hget
    rw [hgrows.id_eq] at hget'
    refine hdone w' t₂ ((h.of_stores hgrows hst).advance hget' ?_) hst.submissionsIn_eq hget
    rw [hst.submissionsIn_eq]
    exact hsealed

end

end WalletTasks
