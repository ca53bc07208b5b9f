import WalletTasks.Proofs.Course

/-!
# Every executor keeps to the course

Each of the four executors, and so every run of the standard registry, keeps to the course of a run
wherever it ends.

* `run_advances`: what is left behind a run, of any copy of a job and in any world.
-/

namespace WalletTasks

variable {σ : Type}

/-- What a run leaves: the course with a submission on record. -/
abbrev Advances (stored₀ copy : Job) (n₀ : Nat) :
    Bool → Store → List Event → Except Fault Job → Prop :=
  fun _ st log _ => Advance stored₀ copy n₀ st log

section

variable {s : Services σ} {r : Session} {stored₀ copy job : Job} {n₀ : Nat} {w : World σ}

theorem Task.eq_of_payloadAs {t : Task} {shape : Shape} {payload : Payload}
    (h : t.payloadAs shape = .ok payload) : payload = t.payload := by
  unfold Task.payloadAs at h
  split at h
  · exact (Except.ok.inj h).symm
  · cases h

/-- A job with a transaction on record has been submitted. -/
theorem Job.isSpent_of_footprint {f : Footprint} (h : job.task.payload.footprint? = some f) :
    job.isSpent = true := by
  unfold Job.isSpent
  rw [h]
  rfl

/-- A job that has been submitted is not submitted again. -/
theorem Job.isSealed_of_isSpent (h : job.isSpent = true) : job.isSealed = true := by
  unfold Job.isSealed
  rw [h, Bool.or_true]

namespace Executor

open Routine

/-- A mock submits nothing and only stores that the job is done. -/
theorem mock_advances (hs : s.StoreSucceeds) {kind : Kind} {info : RunInfo}
    (hcourse : Advance stored₀ job n₀ w.store w.log) (hn : submissionsIn w.log = n₀) :
    ((mock kind).run info).Meets s r w job (ClosesDone (Advances stored₀ job n₀) s r)
      (ClosesHalted (Advances stored₀ job n₀) s r) := by
  simp only [mock, meets_bind, meets_held]
  split
  · exact hcourse.closesDone (.refl _) (.inl hn)
  simp only [meets_bind, meets_ofExcept]
  cases job.task.payloadAs .mock with
  | error e => exact hcourse.closesHalted (.refl _) _
  | ok payload =>
    simp only [meets_setStatus]
    -- nothing has been submitted, so that whatever is stored here is on course
    refine meets_persist_course hs hcourse.toCourse ((Job.Grows.refl job).of_task_eq rfl rfl)
      (.inl hn) ?_
    intro w' t hadvance hsub _
    exact hadvance.closesDone ((Job.Grows.refl job).of_task_eq rfl rfl) (.inl (hsub.trans hn))

theorem isOfFigures_of_bounds {d : Delay} {e : TaskError} (h : d.bounds = .error e) :
    e.isOfFigures = true := by
  unfold Delay.bounds at h
  split at h
  · split at h
    · cases h
      rfl
    · cases h
  · cases h

/-- An instant that the calendar does not have is the fault of the figures of the job. -/
theorem isOfFigures_of_endOf {seconds : UInt64} {now : Instant} {e : TaskError}
    (h : Delay.endOf seconds now = .error (.error e)) : e.isOfFigures = true := by
  unfold Delay.endOf at h
  split at h
  · cases h
    rfl
  · split at h <;> cases h

/-- The instant at which a delay ends is fixed without a trace: it stands in the job already, or it
is put there. -/
theorem meets_waitUntil {d : Delay} {D : World σ → Job → Instant → Prop}
    {H : World σ → Job → Halt → Prop}
    (hhalt : ∀ w' h, w'.store = w.store → w'.log = w.log → h.isRetryable = false → H w' job h)
    (hdone : ∀ w' job' t, w'.store = w.store → w'.log = w.log →
      (d.waitUntil = some t ∧ job' = job ∨
        job' = job.mapPayload (.withWaitUntil t) (Payload.shape_withWaitUntil t)) →
      D w' job' t) :
    (waitUntil d).Meets s r w job D H := by
  unfold waitUntil
  split
  · rename_i t hfixed
    exact hdone w job t rfl rfl (.inl ⟨hfixed, rfl⟩)
  simp only [meets_bind, meets_ofExcept]
  split
  · rename_i range hrange
    have hfix : ∀ w' seconds, w'.store = w.store → w'.log = w.log →
        (do
          let now ← ask .clock
          let t ← ofFault (Delay.endOf seconds now)
          modify (Job.mapPayload (.withWaitUntil t) (Payload.shape_withWaitUntil t))
          pure t : Routine Instant).Meets s r w' job D H := by
      intro w' seconds hstore hlog
      simp only [meets_bind]
      refine meets_clock ?_
      intro w'' now hstore' hlog'
      rw [hstore] at hstore'
      rw [hlog] at hlog'
      simp only [meets_ofFault]
      split
      · simp only [meets_modify, meets_pure]
        exact hdone w'' _ _ hstore' hlog' (.inr rfl)
      · rename_i hend
        exact hhalt w'' _ hstore' hlog'
          (TaskError.isRetryable_of_isOfFigures (isOfFigures_of_endOf hend))
      · exact hhalt w'' _ hstore' hlog' rfl
    cases range with
    | some range =>
      rw [meets_bind]
      refine meets_draw ?_
      intro w' seconds hstore hlog
      exact hfix w' seconds hstore hlog
    | none =>
      rw [meets_bind]
      exact hfix w d.seconds rfl rfl
  · rename_i hbounds
    exact hhalt w _ rfl rfl (TaskError.isRetryable_of_isOfFigures (isOfFigures_of_bounds hbounds))

/-- A delay submits nothing: what it stores is the end of the delay and the status. -/
theorem delay_advances (hs : s.StoreSucceeds) {info : RunInfo}
    (hcourse : Advance stored₀ job n₀ w.store w.log) (hn : submissionsIn w.log = n₀) :
    (delay.run info).Meets s r w job (ClosesDone (Advances stored₀ job n₀) s r)
      (ClosesHalted (Advances stored₀ job n₀) s r) := by
  simp only [delay, meets_bind, meets_held]
  split
  · exact hcourse.closesDone (.refl _) (.inl hn)
  simp only [meets_bind, meets_ofExcept]
  cases job.task.payloadAs .delay with
  | error e => exact hcourse.closesHalted (.refl _) _
  | ok payload =>
    cases payload with
    | delay d =>
      simp only [meets_bind]
      refine meets_waitUntil ?_ ?_
      · intro w₁ h hstore hlog _
        exact (hcourse.congr hstore (by rw [hlog])).closesHalted (.refl _) h
      intro w₁ job₁ t hstore₁ hlog₁ hend
      -- the end has either been fixed before, or it is fixed now; the job grows in both cases
      have hgrows : job.Grows job₁ := by
        obtain ⟨-, rfl⟩ | rfl := hend
        · exact .refl _
        · exact (Job.Grows.refl job).mapPayload (.withWaitUntil _ _)
      have hcourse₁ : Advance stored₀ job n₀ w₁.store w₁.log :=
        hcourse.congr hstore₁ (by rw [hlog₁])
      simp only [meets_setStatus]
      refine meets_persist_course hs hcourse₁.toCourse (hgrows.of_task_eq rfl rfl)
        (.inl (by rw [hlog₁, hn])) ?_
      intro w₂ t₂ hcourse₂ hsub₂ _
      have hgrows₂ : job.Grows (Job.stamped { job₁ with status := .running } t₂) :=
        hgrows.of_task_eq rfl rfl
      have hn₂ : submissionsIn w₂.log = n₀ := by rw [hsub₂, hlog₁, hn]
      refine meets_clock ?_
      intro w₃ now hstore₃ hlog₃
      -- neither the clock nor the rest touches the store or submits anything
      refine meets_ask_sleep ?_
      intro w₄ slept hstore₄ hlog₄ _
      have hsub₄ : submissionsIn w₄.log = submissionsIn w₂.log := by rw [hlog₄, hlog₃]
      have hcourse₄ : Advance stored₀ job n₀ w₄.store w₄.log :=
        hcourse₂.congr (by rw [hstore₄, hstore₃]) hsub₄
      simp only [meets_ofExcept]
      split
      · refine meets_persist_course hs hcourse₄.toCourse (hgrows₂.of_task_eq rfl rfl)
          (.inl (hsub₄.trans hn₂)) ?_
        intro w₅ t₅ hcourse₅ hsub₅ _
        exact hcourse₅.closesDone (hgrows₂.of_task_eq rfl rfl)
          (.inl (by rw [hsub₅, hsub₄, hn₂]))
      · exact hcourse₄.closesHalted hgrows₂ _
    | _ => exact hcourse.closesDone (.refl _) (.inl hn)

/-- A vote is cast once, if it is cast at all. -/
theorem meets_castVote {original : Job} {v : Vote} {D : World σ → Job → Unit → Prop}
    {H : World σ → Job → Halt → Prop}
    (hhalt : ∀ w' events h, w'.store = w.store → w'.log = events ++ w.log →
      Attempt.SubmissionHalts events h → H w' job h)
    (hdone : ∀ w' events receipt, w'.store = w.store → w'.log = events ++ w.log →
      submissionsIn events ≤ 1 →
      D w' (job.mapPayload (.withReceipt receipt) (Payload.shape_withReceipt receipt)) ()) :
    (castVote original v).Meets s r w job D H := by
  unfold castVote
  simp only [meets_bind]
  refine Attempt.meets_submission_call rfl rfl rfl rfl (.of_silent .nil) hhalt ?_
  intro w₁ e₁ events₁ profile hstore₁ hlog₁ ht₁ _
  refine Attempt.meets_submission_call rfl rfl hstore₁ hlog₁ ht₁ hhalt ?_
  intro w₂ e₂ events₂ settings hstore₂ hlog₂ ht₂ _
  refine Attempt.meets_submission_call rfl rfl hstore₂ hlog₂ ht₂ hhalt ?_
  intro w₃ e₃ events₃ client hstore₃ hlog₃ ht₃ _
  refine Attempt.meets_submission_call rfl rfl hstore₃ hlog₃ ht₃ hhalt ?_
  intro w₄ e₄ events₄ submission hstore₄ hlog₄ ht₄ _
  split
  · exact hhalt w₄ _ _ hstore₄ hlog₄ (.of_tells ht₄ (Nat.le_refl 1) rfl)
  · refine hdone w₄ _ submission.txId hstore₄ hlog₄ ?_
    rw [ht₄.submissionsIn_eq]
    exact Nat.le_refl 1

/-- A vote is submitted once, and only if it has no receipt yet. -/
theorem vote_advances (hs : s.StoreSucceeds) {info : RunInfo}
    (hcourse : Advance stored₀ job n₀ w.store w.log) (hn : submissionsIn w.log = n₀) :
    (vote.run info).Meets s r w job (ClosesDone (Advances stored₀ job n₀) s r)
      (ClosesHalted (Advances stored₀ job n₀) s r) := by
  simp only [vote, meets_bind, meets_held]
  split
  · exact hcourse.closesDone (.refl _) (.inl hn)
  simp only [meets_bind, meets_ofExcept]
  cases hp : job.task.payloadAs .vote with
  | error e => exact hcourse.closesHalted (.refl _) _
  | ok payload =>
    have hpayload := Task.eq_of_payloadAs hp
    cases payload with
    | vote v =>
      simp only [meets_bind, meets_setStatus]
      refine meets_persist_course hs hcourse.toCourse ((Job.Grows.refl job).of_task_eq rfl rfl)
        (.inl hn) ?_
      intro w₁ t₁ hcourse₁ hsub₁ _
      have hn₁ : submissionsIn w₁.log = n₀ := hsub₁.trans hn
      -- The vote is done when it is stored, so that its receipt need not be looked at again.
      have hfinish : ∀ w₂ job₂, Course stored₀ job n₀ w₂.store w₂.log → job.Grows job₂ →
          (do
            setStatus .done
            persist : Routine Unit).Meets s r w₂ job₂ (ClosesDone (Advances stored₀ job n₀) s r)
            (ClosesHalted (Advances stored₀ job n₀) s r) := by
        intro w₂ job₂ hcourse₂ hgrows₂
        simp only [meets_bind, meets_setStatus]
        refine meets_persist_course hs hcourse₂ (hgrows₂.of_task_eq rfl rfl) (.inr rfl) ?_
        intro w₃ t₃ hcourse₃ _ _
        exact hcourse₃.closesDone (hgrows₂.of_task_eq rfl rfl) (.inr rfl)
      have hgrows₁ : job.Grows (Job.stamped { job with status := .running } t₁) :=
        (Job.Grows.refl job).of_task_eq rfl rfl
      split
      · rename_i hnone
        have hreceipt : job.task.payload.receipt? = none := by
          rw [← hpayload]
          exact Option.isNone_iff_eq_none.1 hnone
        have hfresh : job.isSpent = false := by
          unfold Job.isSpent
          rw [hreceipt, ← hpayload]
          rfl
        rw [meets_bind]
        -- the receipt is not stored before the job is done, so that a vote that is cast has to be
        -- counted here
        refine meets_castVote ?_ ?_
        · intro w₂ events h hstore₂ hlog₂ hx
          exact (hcourse₁.toCourse.submitted hn₁ hfresh hstore₂ hlog₂
            hx.submissionsIn_le).closesHalted hgrows₁ hx.isRetryable
        · intro w₂ events receipt hstore₂ hlog₂ hle
          exact hfinish w₂ _ (hcourse₁.toCourse.submitted hn₁ hfresh hstore₂ hlog₂ hle)
            (hgrows₁.mapPayload (.withReceipt receipt hreceipt))
      · exact hfinish w₁ _ hcourse₁.toCourse hgrows₁
    | _ => exact hcourse.closesDone (.refl _) (.inl hn)

theorem conclude_advances (hs : s.StoreSucceeds) {a : Attempt} {interval : Span}
    (hcourse : Advance stored₀ copy n₀ w.store w.log) (hgrows : copy.Grows job)
    (hj : w.store.get? job.id = some job)
    (hsealed : submissionsIn w.log = n₀ ∨ job.isSealed = true) :
    (do a.wait interval; settle : Routine Unit).Meets s r w job
      (ClosesDone (Advances stored₀ copy n₀) s r)
      (ClosesHalted (Advances stored₀ copy n₀) s r) := by
  cases hf : job.task.payload.footprint? with
  | none =>
    unfold Attempt.wait settle
    simp only [meets_bind, meets_held]
    rw [hf]
    simp only [meets_pure, hf]
    exact hcourse.closesDone hgrows hsealed
  | some f =>
    cases hopen : f.completed with
    | true =>
      unfold Attempt.wait settle
      simp only [meets_bind, meets_held]
      rw [hf]
      simp only [hopen, if_true, meets_pure, hf, Option.any_some, meets_bind, meets_setStatus]
      refine meets_persist_course hs hcourse.toCourse (hgrows.of_task_eq rfl rfl) (.inr rfl) ?_
      intro w₁ t hcourse₁ _ _
      exact hcourse₁.closesDone (hgrows.of_task_eq rfl rfl) (.inr rfl)
    | false =>
      -- the wait only polls: what is left is how it ends, by a halt or by a decision that is stored
      refine Attempt.meets_conclude hs hj hf hopen ?_ ?_ ?_ ?_
      · intro w' events undecided hstore hlog hpolls _
        exact hcourse.congr hstore (by rw [hlog, hpolls.submissionsIn_eq])
      · intro w' events h hstore hlog hw _ _
        obtain ⟨polls, hpolls⟩ := hw.polling
        exact (hcourse.toCourse.congr hstore
          (by rw [hlog, hpolls.submissionsIn_eq])).failsTo hgrows _ _
      · intro w' held j hj' hheld hreq
        have hsub := submissionsIn_congr hreq
        refine Course.failsTo_of_get? hj' (hgrows.trans hheld) ?_ ?_ _ _
        · rw [hsub]
          exact hcourse.submissions_le
        · intro hspent
          rw [hsub, hcourse.spent hspent]
      · intro w₁ w' events undecided held hstore hlog hpolls _ hconcludes
        have hsub : submissionsIn w'.log = submissionsIn w.log := by
          rw [submissionsIn_congr (hconcludes.traceOf_eq Event.request?_notOfStoring), hlog,
            hpolls.submissionsIn_eq]
        have hget := hconcludes.get?
        rw [hgrows.id_eq] at hget
        have hheld := hgrows.trans hconcludes.grows
        refine Course.advance ⟨⟨held, hget, .inr hheld⟩, ?_, ?_⟩ hget (.inr ?_)
        · rw [hsub]
          exact hcourse.submissions_le
        · intro hspent
          rw [hsub, hcourse.spent hspent]
        · rw [Job.isSealed, hconcludes.status_eq]
          rfl

/-- The submission is the only place at which something is submitted. Behind it the transaction is
on record, if storing it did not halt the run. -/
theorem submit_advances (hs : s.StoreSucceeds) {a : Attempt} {settings : NetworkSettings}
    {D : World σ → Job → Unit → Prop} (hcourse : Course stored₀ copy n₀ w.store w.log)
    (hgrows : copy.Grows job) (hn : submissionsIn w.log = n₀) (hfresh : copy.isSpent = false)
    {action : Action} (hchain : job.task.payload = .chain action none)
    (hdone : ∀ w' job', Advance stored₀ copy n₀ w'.store w'.log → copy.Grows job' →
      w'.store.get? job'.id = some job' → job'.isSpent = true → D w' job' ()) :
    (a.submit settings).Meets s r w job D (ClosesHalted (Advances stored₀ copy n₀) s r) := by
  unfold Attempt.submit
  simp only [meets_bind]
  refine Attempt.meets_broadcast ?_ ?_
  · intro w₁ events h hstore₁ hlog₁ hx
    exact (hcourse.submitted hn hfresh hstore₁ hlog₁ hx.submissionsIn_le).closesHalted hgrows
      hx.isRetryable
  intro w₁ events t hstore₁ hlog₁ htells _ _
  have hle : submissionsIn events ≤ 1 := by
    rw [htells.submissionsIn_eq]
    exact Nat.le_refl 1
  have hcourse₁ : Course stored₀ copy n₀ w₁.store w₁.log :=
    hcourse.submitted hn hfresh hstore₁ hlog₁ hle
  refine meets_clock ?_
  intro w₂ now hstore₂ hlog₂
  have hcourse₂ : Course stored₀ copy n₀ w₂.store w₂.log :=
    hcourse₁.congr hstore₂ (by rw [hlog₂])
  simp only [meets_modify]
  -- which footprint it is does not matter, but that the job has none yet
  generalize hfootprint : (⟨t.submission.txId, t.submission.approveTxId, some t.plan, false,
    now⟩ : Footprint) = footprint
  have hgrows₂ : copy.Grows (job.mapPayload (.withFootprint footprint)
      (Payload.shape_withFootprint footprint)) :=
    hgrows.mapPayload (.withFootprint footprint (by rw [hchain]; rfl))
  have hspent₂ : (job.mapPayload (.withFootprint footprint)
      (Payload.shape_withFootprint footprint)).isSpent = true := by
    apply Job.isSpent_of_footprint
    simp only [Job.mapPayload, hchain]
    rfl
  -- from this write on the job is sealed
  refine meets_persist_course hs hcourse₂ hgrows₂ (.inr (Job.isSealed_of_isSpent hspent₂)) ?_
  intro w₃ t₃ hcourse₃ _ hget₃
  have hgrows₃ : copy.Grows (Job.stamped (job.mapPayload (.withFootprint footprint)
      (Payload.shape_withFootprint footprint)) t₃) := hgrows₂.of_task_eq rfl rfl
  split
  · refine Attempt.meets_auditing hs ?_ ?_
    · intro w' now' hstore hlog
      exact (hcourse₃.audit hstore hlog).closesHalted hgrows₃ _
    · intro w' now' hstore hlog
      refine hdone w' _ (hcourse₃.audit hstore hlog) hgrows₃ ?_ hspent₂
      rw [hstore, Store.get?_audit]
      exact hget₃
  · exact hdone w₃ _ hcourse₃ hgrows₃ hget₃ hspent₂

/-- A transaction is submitted only if there is none on record, and from then on only waited for. -/
theorem lifecycle_advances (hs : s.StoreSucceeds) {kind : Kind} {info : RunInfo}
    (hcourse : Advance stored₀ job n₀ w.store w.log) (hn : submissionsIn w.log = n₀) :
    ((lifecycle kind).run info).Meets s r w job (ClosesDone (Advances stored₀ job n₀) s r)
      (ClosesHalted (Advances stored₀ job n₀) s r) := by
  simp only [lifecycle, meets_bind, meets_held]
  split
  · exact hcourse.closesDone (.refl _) (.inl hn)
  simp only [meets_bind, meets_ofExcept]
  cases hp : job.task.payloadAs kind.shape with
  | error e => exact hcourse.closesHalted (.refl _) _
  | ok payload =>
    have hpayload := Task.eq_of_payloadAs hp
    cases payload with
    | chain action footprint =>
      simp only [meets_bind, meets_setStatus]
      refine meets_persist_course hs hcourse.toCourse ((Job.Grows.refl job).of_task_eq rfl rfl)
        (.inl hn) ?_
      intro w₁ t₁ hcourse₁ hsub₁ hget₁
      have hn₁ : submissionsIn w₁.log = n₀ := hsub₁.trans hn
      have hgrows₁ : job.Grows (Job.stamped { job with status := .running } t₁) :=
        (Job.Grows.refl job).of_task_eq rfl rfl
      -- reaching the chain asks for the profile, the settings and the client, and submits nothing
      refine Attempt.meets_reach ?_ ?_
      · intro w₂ events h hstore₂ hlog₂ hx
        refine (hcourse₁.toCourse.congr hstore₂ ?_).closesHalted hgrows₁ hx.isRetryable
        rw [hlog₂, submissionsIn_append, hx.submissionsIn_eq]
        omega
      intro w₂ events a settings hstore₂ hlog₂ ho _
      have hsub₂ : submissionsIn w₂.log = submissionsIn w₁.log := by
        rw [hlog₂, submissionsIn_append, ho.submissionsIn_eq]
        omega
      have hcourse₂ : Advance stored₀ job n₀ w₂.store w₂.log := hcourse₁.congr hstore₂ hsub₂
      have hget₂ : w₂.store.get? job.id =
          some (Job.stamped { job with status := .running } t₁) := by
        rw [hstore₂]
        exact hget₁
      split
      · rename_i hnone
        have hchain : job.task.payload = .chain action none := by
          rw [← hpayload, Option.isNone_iff_eq_none.1 hnone]
        have hfresh : job.isSpent = false := by
          unfold Job.isSpent
          rw [hchain]
          rfl
        rw [meets_bind]
        refine submit_advances hs hcourse₂.toCourse hgrows₁ (hsub₂.trans hn₁) hfresh hchain ?_
        intro w₃ job₃ hcourse₃ hgrows₃ hget₃ hspent₃
        exact conclude_advances hs hcourse₃ hgrows₃ hget₃ (.inr (Job.isSealed_of_isSpent hspent₃))
      -- there is a transaction on record already, and it is only waited for
      · exact conclude_advances hs hcourse₂ hgrows₁ hget₂ (.inl (hsub₂.trans hn₁))
    | _ => exact hcourse.closesDone (.refl _) (.inl hn)

/-- The executor of a kind is one of four. -/
theorem standard_cases (kind : Kind) :
    standard kind = delay ∨ standard kind = mock kind ∨ standard kind = vote ∨
      standard kind = lifecycle kind := by
  cases kind <;> simp [standard, Kind.shape]

/-- Whatever the kind, the standard executor submits at most once. -/
theorem standard_advances (hs : s.StoreSucceeds) {kind : Kind} {info : RunInfo}
    (hcourse : Advance stored₀ job n₀ w.store w.log) (hn : submissionsIn w.log = n₀) :
    ((standard kind).run info).Meets s r w job (ClosesDone (Advances stored₀ job n₀) s r)
      (ClosesHalted (Advances stored₀ job n₀) s r) := by
  obtain h | h | h | h := standard_cases kind
  · rw [h]
    exact delay_advances hs hcourse hn
  · rw [h]
    exact mock_advances hs hcourse hn
  · rw [h]
    exact vote_advances hs hcourse hn
  · rw [h]
    exact lifecycle_advances hs hcourse hn

end Executor

/-- **How far a run takes a job**, whatever copy of it the run is given. -/
theorem run_advances (hs : s.StoreSucceeds) (user : Account)
    (hj : w.store.get? job.id = some stored₀) :
    Advance stored₀ job (submissionsIn w.log) (run s .standard user job w).1.store
      (run s .standard user job w).1.log := by
  have hstart : ∀ (w' : World σ) events, submissionsIn events = 0 → w'.store = w.store →
      w'.log = events ++ w.log →
      Advance stored₀ job (submissionsIn w.log) w'.store w'.log ∧
        submissionsIn w'.log = submissionsIn w.log := by
    intro w' events hnone hstore hlog
    have hsub : submissionsIn w'.log = submissionsIn w.log := by
      rw [hlog, submissionsIn_append, hnone]
      omega
    rw [← hstore] at hj
    exact ⟨⟨⟨⟨stored₀, hj, .inl rfl⟩, by omega, fun _ => hsub⟩, .inl hsub⟩, hsub⟩
  -- the ways in which a run ends: refused, without an executor, crashed or failed at the gate, or
  -- run
  refine run_of_meets (P := Advances stored₀ job (submissionsIn w.log)) hs ?_ ?_ ?_ ?_ ?_
  · intro _
    exact (hstart w [] rfl rfl rfl).1
  · intro _
    exact (hstart w [] rfl rfl rfl).1
  · intro events message hgate
    exact (hstart { w with log := events ++ w.log } events hgate.silent.submissionsIn_eq rfl rfl).1
  · intro events e w' _ hgate hstore hlog
    obtain ⟨hcourse, -⟩ := hstart w' events hgate.silent.submissionsIn_eq hstore hlog
    exact hcourse.toCourse.failsTo (.refl _) _ _
  · intro events w' r _ hgate hstore hlog _ _ _
    obtain ⟨hcourse, hn⟩ := hstart w' events hgate.silent.submissionsIn_eq hstore hlog
    exact Executor.standard_advances hs hcourse hn

end

end WalletTasks
