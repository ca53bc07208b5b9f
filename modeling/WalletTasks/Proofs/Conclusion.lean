import WalletTasks.Proofs.Growth
import WalletTasks.Proofs.Lifecycle

/-!
# How a submitted job is concluded

A run of a job whose transaction is on record and not yet confirmed waits for the decision. If the
transaction is confirmed, the job is stored with the confirmation, written to the audit list, and
stored as done; if there is no decision in time, the stored job comes back as it is; and anything
else is stored as a failure.

* `Attempt.meets_conclude`: the ends of such a run from the wait on.
-/

namespace WalletTasks

variable {σ : Type}

/-- Completing a payload completes the transaction on record. -/
theorem Payload.footprint?_complete {p : Payload} {f : Footprint} (h : p.footprint? = some f) :
    p.complete.footprint? = some { f with completed := true } := by
  cases p with
  | chain action footprint =>
    cases h
    rfl
  | _ => cases h

/-- The job with its transaction confirmed. -/
def Job.confirmed (job : Job) : Job := job.mapPayload .complete Payload.shape_complete

namespace Executor.Attempt

open Routine

/-- A confirmed job is stored with the confirmation, written to the audit list, stored as done, and
stored once more by the runner. -/
inductive Concludes (s : Services σ) (login : String) (a : Attempt) (f : Footprint) (job : Job)
    (w w' : World σ) : Job → Prop
  | intro {w₁ w₂ w₃ : World σ} {t₁ t₂ t₃ t₄ t₅ t₆ : Instant}
    (h₁ : World.Stores s login job job.confirmed t₁ t₂ w w₁)
    (haudit : w₂.store =
      w₁.store.audit (a.entry (job.confirmed.stamped t₂) f.txId .primary f.gas t₃))
    (hlog : w₂.log = w₁.log)
    (h₂ : World.Stores s login (job.confirmed.stamped t₂) (job.confirmed.stamped t₂).done t₄ t₅
      w₂ w₃)
    (h₃ : World.Stores s login ((job.confirmed.stamped t₂).done.stamped t₅)
      ((job.confirmed.stamped t₂).done.stamped t₅).cleared t₆ t₆ w₃ w') :
    Concludes s login a f job w w'
      (((job.confirmed.stamped t₂).done.stamped t₅).cleared.stamped t₆)

section

variable {s : Services σ} {login : String} {a : Attempt} {f : Footprint} {job held : Job}
  {w w' : World σ}

theorem Concludes.get? (h : Concludes s login a f job w w' held) :
    w'.store.get? job.id = some held := by
  cases h with
  | intro h₁ haudit hlog h₂ h₃ => exact h₃.get?

theorem Concludes.grows (h : Concludes s login a f job w w' held) : job.Grows held := by
  have hgrows : job.Grows job.confirmed := (Job.Grows.refl job).mapPayload (.complete _)
  cases h with
  | intro h₁ haudit hlog h₂ h₃ => exact hgrows.of_task_eq rfl rfl

/-- A conclusion leaves the job done. -/
theorem Concludes.status_eq (h : Concludes s login a f job w w' held) : held.status = .done := by
  cases h
  rfl

/-- What storing does not log is not logged by a conclusion. -/
theorem Concludes.traceOf_eq {α : Type} (h : Concludes s login a f job w w' held)
    {g : Event → Option α} (hg : NotOfStoring g) : traceOf g w'.log = traceOf g w.log := by
  cases h with
  | intro h₁ haudit hlog h₂ h₃ =>
    rw [h₃.traceOf_eq hg, h₂.traceOf_eq hg, hlog, h₁.traceOf_eq hg]

end

variable {s : Services σ} {r : Session} {w : World σ} {job : Job}
  {P : Bool → Store → List Event → Except Fault Job → Prop}

/-- **The ends of a run of a submitted job, from the wait on.** -/
theorem meets_conclude (hs : s.StoreSucceeds) {a : Attempt} {interval : Span} {f : Footprint}
    (hj : w.store.get? job.id = some job)
    (hf : job.task.payload.footprint? = some f) (hopen : f.completed = false)
    (hpending : ∀ (w' : World σ) events undecided, w'.store = w.store → w'.log = events ++ w.log →
      Polling events undecided → (∀ p ∈ undecided, IsUndecided p) →
      P false w'.store w'.log (.ok job))
    (hhalt : ∀ (w' : World σ) events h, w'.store = w.store → w'.log = events ++ w.log →
      WaitHalts s a f.txId events h → h.isRetryable = false → h.isDropped = false →
      FailsTo P s r.user.login false w' job (h.cause r.timeout))
    (hdrop : ∀ (w' : World σ) held j, w'.store.get? held.id = some j → job.Grows held →
      traceOf Event.request? w'.log = traceOf Event.request? w.log →
      FailsTo P s r.user.login true w' held (.deadlineExceeded r.timeout))
    (hdone : ∀ (w₁ w' : World σ) events undecided held, w₁.store = w.store →
      w₁.log = events ++ w.log →
      Polling events (undecided ++ [.ok .confirmed]) → (∀ p ∈ undecided, IsUndecided p) →
      Concludes s r.user.login a f job w₁ w' held → P false w'.store w'.log (.ok held)) :
    (do a.wait interval; settle : Routine Unit).Meets s r w job
      (ClosesDone P s r) (ClosesHalted P s r) := by
  have hdropped : ∀ w' held j, w'.store.get? held.id = some j → job.Grows held →
      traceOf Event.request? w'.log = traceOf Event.request? w.log →
      ClosesHalted P s r w' held .dropped := by
    intro w' held j hj' hgrows hreq
    exact ⟨by simp [Halt.isRetryable], fun _ => hdrop w' held j hj' hgrows hreq⟩
  unfold wait settle
  simp only [meets_bind, meets_held]
  rw [hf]
  simp only [hopen, Bool.false_eq_true, if_false, meets_bind]
  refine meets_remaining ?_
  intro w₀ remaining hstore₀ hlog₀
  refine meets_awaitDecision _ ?_ ?_
  · intro w' events h hstore hlog hw
    rw [hstore₀] at hstore
    rw [hlog₀] at hlog
    refine ⟨?_, ?_⟩
    · intro hretry
      cases hw with
      | failed | crashed => cases hretry
      | pending undecided hpolls hall =>
        exact ⟨job, by rw [hstore, hj], hpending w' events undecided hstore hlog hpolls hall⟩
    · intro hretry
      have hnot : h.isDropped = false := by cases hw <;> rfl
      rw [hnot]
      exact hhalt w' events h hstore hlog hw hretry hnot
  intro w₁ events undecided hstore₁ hlog₁ hpolls hall
  rw [hstore₀] at hstore₁
  rw [hlog₀] at hlog₁
  have hreq₁ := World.traceOf_of_silent hlog₁ hpolls.request
  simp only [meets_modify]
  have hj₁ : w₁.store.get? job.confirmed.id = some job := by rw [hstore₁]; exact hj
  have hgrows : job.Grows job.confirmed := (Job.Grows.refl job).mapPayload (.complete _)
  -- storing a job that has grown can only be cut off at the backstop, and costs no submission
  have hcut : ∀ {w₁ w' : World σ} {stored j held : Job} {h : Halt},
      World.Storing s r.user.login stored j w₁ w' held → w₁.store.get? j.id = some stored →
      job.Grows j → traceOf Event.request? w₁.log = traceOf Event.request? w.log → h = .dropped →
      ClosesHalted P s r w' held h := by
    rintro w₁ w' stored j held h hst hget hgrows hreq rfl
    have hreq' := (hst.traceOf_eq Event.request?_notOfStoring).trans hreq
    have hgrows' : job.Grows held := by
      rcases hst.held_eq with rfl | ⟨t, rfl⟩
      · exact hgrows
      · exact hgrows.of_task_eq rfl rfl
    obtain ⟨stored', hget'⟩ := hst.exists_get? hget
    exact hdropped w' held stored' hget' hgrows' hreq'
  refine meets_persist hs hj₁ ?_ ?_
  · intro w' held h hst hh
    refine hcut hst hj₁ hgrows hreq₁ (hh.eq_dropped ?_)
    have : (Job.mapPayload .complete Payload.shape_complete job).status = job.status := rfl
    rw [this]
    exact s.billing.chargeOwed_self _ _
  intro w₂ t₁ t₂ hst₂
  have hget₂ := hst₂.get?
  have hreq₂ := (hst₂.traceOf_eq Event.request?_notOfStoring).trans hreq₁
  have hgrows₂ : job.Grows (job.confirmed.stamped t₂) := hgrows.of_task_eq rfl rfl
  refine meets_auditing hs ?_ ?_
  · intro w' t hstore hlog
    refine hdropped w' _ (job.confirmed.stamped t₂) ?_ hgrows₂ (by rw [hlog, hreq₂])
    rw [hstore, Store.get?_audit]
    exact hget₂
  intro w₃ t₃ hstore₃ hlog₃
  have hconfirmed : (Job.stamped (job.mapPayload .complete Payload.shape_complete)
      t₂).task.payload.footprint? = some { f with completed := true } :=
    Payload.footprint?_complete hf
  simp only [hconfirmed, Option.any_some, if_true, meets_bind, meets_setStatus]
  have hget₃ : w₃.store.get? (job.confirmed.stamped t₂).done.id =
      some (job.confirmed.stamped t₂) := by
    rw [hstore₃, Store.get?_audit]
    exact hget₂
  refine meets_persist hs hget₃ ?_ ?_
  · intro w' held h hst hh
    exact hcut hst hget₃ (hgrows₂.of_task_eq rfl rfl) (by rw [hlog₃, hreq₂])
      (hh.eq_dropped (BillingPolicy.chargeOwed_done ..))
  intro w₄ t₄ t₅ hst₄
  refine closesDone_of_stored hst₄.get? ?_
  intro w' t hst
  exact hdone w₁ w' events undecided _ hstore₁ hlog₁ hpolls hall
    (.intro hst₂ hstore₃ hlog₃ hst₄ hst)

end Executor.Attempt

end WalletTasks
