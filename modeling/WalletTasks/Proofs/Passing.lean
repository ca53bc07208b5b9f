import WalletTasks.Proofs.Keeping
import WalletTasks.Proofs.Passage
import WalletTasks.Proofs.Resumption

/-!
# Every run passes through allowed changes of status

Each of the four executors, and so every run of the standard registry, moves its job along allowed
changes of status, keeps the books of the job in agreement, and reports what it leaves.

* `run_ends`: what a run of the stored copy leaves and reports.
* `reruns_reaches`: what runs of the stored job, one after the other, make of its books.
-/

namespace WalletTasks

variable {σ : Type}

/-- A payload is given out only for the shape that the kind carries. -/
theorem Task.shape_of_payloadAs {t : Task} {shape : Shape} {payload : Payload}
    (h : t.payloadAs shape = .ok payload) : t.kind.shape = shape := by
  unfold Task.payloadAs at h
  split at h
  · rename_i hshape
    rw [← hshape]
    exact t.shape_payload.symm
  · cases h

namespace Executor

open Routine

variable {s : Services σ} {r : Session} {copy held : Job} {b : Books} {w : World σ}
  {status : Status}

/-- The job is stored as done, which ends its run. -/
theorem meets_finish (hs : s.StoreSucceeds) (h : Passage s copy b w status)
    (hmove : status.mayMove copy.task.kind .done = true) (hheld : copy.Resembles status held) :
    (do
      setStatus .done
      persist : Routine Unit).Meets s r w held (ClosesDone (RunEnds s copy b) s r)
      (ClosesHalted (RunEnds s copy b) s r) := by
  simp only [meets_bind, meets_setStatus]
  refine meets_persist_passage hs h (hheld.setStatus .done) (.inr hmove) (by simp) ?_
  intro w₁ held₁ h₁ hheld₁
  exact h₁.closesDone (by simp) hheld₁

/-- The job is stored as running. -/
theorem meets_begin (hs : s.StoreSucceeds) {D : World σ → Job → Unit → Prop}
    (h : Passage s copy b w copy.status) (hopen : copy.status.isTerminal = false)
    (hshape : copy.task.kind.shape ≠ .mock) (hheld : copy.Resembles copy.status held)
    (hdone : ∀ w' held', Passage s copy b w' .running → copy.Resembles .running held' →
      D w' held' ()) :
    (do
      setStatus .running
      persist : Routine Unit).Meets s r w held D (ClosesHalted (RunEnds s copy b) s r) := by
  simp only [meets_bind, meets_setStatus]
  exact meets_persist_passage hs h (hheld.setStatus .running)
    (Status.mayMove_running hopen hshape) (by simp) hdone

section

variable (hs : s.StoreSucceeds) (h : Passage s copy b w copy.status)
  (hopen : copy.status.isTerminal = false)

include hs h hopen

theorem mock_passes {kind : Kind} {info : RunInfo} :
    ((mock kind).run info).Meets s r w copy (ClosesDone (RunEnds s copy b) s r)
      (ClosesHalted (RunEnds s copy b) s r) := by
  simp only [mock, meets_bind, meets_held, hopen, Bool.false_eq_true, if_false, meets_ofExcept]
  cases hp : copy.task.payloadAs .mock with
  | error e => exact h.closesHalted hopen (.refl copy) _
  | ok payload =>
    rw [← meets_bind]
    exact meets_finish hs h (Status.mayMove_done_of_mock hopen (Task.shape_of_payloadAs hp))
      (.refl copy)

/-- A delay goes from ready to running and on to done, if it does not fail. -/
theorem delay_passes {info : RunInfo} :
    (delay.run info).Meets s r w copy (ClosesDone (RunEnds s copy b) s r)
      (ClosesHalted (RunEnds s copy b) s r) := by
  simp only [delay, meets_bind, meets_held, hopen, Bool.false_eq_true, if_false, meets_ofExcept]
  cases hp : copy.task.payloadAs .delay with
  | error e => exact h.closesHalted hopen (.refl copy) _
  | ok payload =>
    have hshape : copy.task.kind.shape ≠ .mock := by
      rw [Task.shape_of_payloadAs hp]
      simp
    cases payload with
    | delay d =>
      simp only [meets_bind]
      -- nothing is stored between the write that begins the run and the one that ends it
      refine meets_aside (keepsTo_waitUntil rfl (fun _ _ => rfl)
        fun t job hjob => hjob.mapPayload _ _) h hopen (.refl copy) ?_
      intro w₁ held₁ t h₁ hheld₁
      rw [← meets_bind]
      refine meets_begin hs h₁ hopen hshape hheld₁ ?_
      intro w₂ held₂ h₂ hheld₂
      refine meets_aside (keepsTo_ask rfl) h₂ rfl hheld₂ ?_
      intro w₃ held₃ now h₃ hheld₃
      refine meets_aside (keepsTo_ask rfl) h₃ rfl hheld₃ ?_
      intro w₄ held₄ slept h₄ hheld₄
      refine meets_aside (keepsTo_ofExcept _) h₄ rfl hheld₄ ?_
      intro w₅ held₅ _ h₅ hheld₅
      rw [← meets_bind]
      exact meets_finish hs h₅ rfl hheld₅
    | _ => exact h.closesDone (fun herror => by rw [herror] at hopen; cases hopen) (.refl copy)

/-- A vote goes from ready to running and on to done, if it does not fail. -/
theorem vote_passes {info : RunInfo} :
    (vote.run info).Meets s r w copy (ClosesDone (RunEnds s copy b) s r)
      (ClosesHalted (RunEnds s copy b) s r) := by
  simp only [vote, meets_bind, meets_held, hopen, Bool.false_eq_true, if_false, meets_ofExcept]
  cases hp : copy.task.payloadAs .vote with
  | error e => exact h.closesHalted hopen (.refl copy) _
  | ok payload =>
    have hshape : copy.task.kind.shape ≠ .mock := by
      rw [Task.shape_of_payloadAs hp]
      simp
    cases payload with
    | vote v =>
      simp only [meets_bind]
      rw [← meets_bind]
      refine meets_begin hs h hopen hshape (.refl copy) ?_
      intro w₁ held₁ h₁ hheld₁
      split
      · simp only [meets_bind]
        refine meets_aside (keepsTo_castVote (fun _ => rfl) fun receipt job hjob =>
          hjob.mapPayload _ _) h₁ rfl hheld₁ ?_
        intro w₂ held₂ _ h₂ hheld₂
        rw [← meets_bind]
        exact meets_finish hs h₂ rfl hheld₂
      · exact meets_finish hs h₁ rfl hheld₁
    | _ => exact h.closesDone (fun herror => by rw [herror] at hopen; cases hopen) (.refl copy)

omit h hopen in
/-- From the submission on, a run that is running stays so, or ends with the job done. -/
theorem conclude_passes {a : Attempt} {interval : Span} (h : Passage s copy b w .running)
    (hheld : copy.Resembles .running held) :
    (do
      a.wait interval
      settle : Routine Unit).Meets s r w held (ClosesDone (RunEnds s copy b) s r)
      (ClosesHalted (RunEnds s copy b) s r) := by
  -- what is settled is decided by the job that is held then
  have hsettle : ∀ w₁ held₁, Passage s copy b w₁ .running → copy.Resembles .running held₁ →
      settle.Meets s r w₁ held₁ (ClosesDone (RunEnds s copy b) s r)
        (ClosesHalted (RunEnds s copy b) s r) := by
    intro w₁ held₁ h₁ hheld₁
    unfold settle
    simp only [meets_bind, meets_held]
    split
    · exact meets_finish hs h₁ rfl hheld₁
    · exact h₁.closesDone (by simp) hheld₁
  unfold Attempt.wait
  simp only [meets_bind, meets_held]
  split
  · exact hsettle w held h hheld
  · split
    · exact hsettle w held h hheld
    · simp only [meets_bind]
      refine meets_aside (keepsTo_ask rfl) h rfl hheld ?_
      intro w₁ held₁ remaining h₁ hheld₁
      refine meets_aside (Attempt.keepsTo_awaitDecision (by rfl) (by rfl) _) h₁ rfl hheld₁ ?_
      intro w₂ held₂ _ h₂ hheld₂
      simp only [meets_modify]
      refine meets_persist_passage hs h₂ (hheld₂.mapPayload _ _) (.inl rfl) (by simp) ?_
      intro w₃ held₃ h₃ hheld₃
      refine meets_aside (Attempt.keepsTo_audit rfl fun _ => rfl) h₃ rfl hheld₃ ?_
      intro w₄ held₄ _ h₄ hheld₄
      exact hsettle w₄ held₄ h₄ hheld₄

omit h hopen in
/-- A submission writes the job as running, over and over if need be. -/
theorem submit_passes {a : Attempt} {settings : NetworkSettings}
    {D : World σ → Job → Unit → Prop} (h : Passage s copy b w .running)
    (hheld : copy.Resembles .running held)
    (hdone : ∀ w' held', Passage s copy b w' .running → copy.Resembles .running held' →
      D w' held' ()) :
    (a.submit settings).Meets s r w held D (ClosesHalted (RunEnds s copy b) s r) := by
  unfold Attempt.submit
  simp only [meets_bind]
  refine meets_aside (Attempt.keepsTo_broadcast fun _ _ => rfl) h rfl hheld ?_
  rintro w₁ held₁ ⟨plan, submission⟩ h₁ hheld₁
  refine meets_aside (keepsTo_ask rfl) h₁ rfl hheld₁ ?_
  intro w₂ held₂ now h₂ hheld₂
  simp only [meets_modify]
  refine meets_persist_passage hs h₂ (hheld₂.mapPayload _ _) (.inl rfl) (by simp) ?_
  intro w₃ held₃ h₃ hheld₃
  split
  · exact meets_aside (Attempt.keepsTo_audit rfl fun _ => rfl) h₃ rfl hheld₃
      fun w' held' _ h' hheld' => hdone w' held' h' hheld'
  · exact hdone w₃ held₃ h₃ hheld₃

/-- A transaction goes from ready to running and on to done, if it does not fail. -/
theorem lifecycle_passes {info : RunInfo} :
    ((lifecycle copy.task.kind).run info).Meets s r w copy (ClosesDone (RunEnds s copy b) s r)
      (ClosesHalted (RunEnds s copy b) s r) := by
  simp only [lifecycle, meets_bind, meets_held, hopen, Bool.false_eq_true, if_false,
    meets_ofExcept]
  cases hp : copy.task.payloadAs copy.task.kind.shape with
  | error e => exact h.closesHalted hopen (.refl copy) _
  | ok payload =>
    have hpayload := Task.eq_of_payloadAs hp
    cases payload with
    | chain action footprint =>
      have hshape : copy.task.kind.shape ≠ .mock := by
        rw [← copy.task.shape_payload, ← hpayload]
        cases action <;> simp [Payload.shape, Action.shape]
      simp only [meets_bind]
      rw [← meets_bind]
      refine meets_begin hs h hopen hshape (.refl copy) ?_
      intro w₁ held₁ h₁ hheld₁
      refine meets_aside (Attempt.keepsTo_reach fun _ _ => rfl) h₁ rfl hheld₁ ?_
      rintro w₂ held₂ ⟨attempt, settings⟩ h₂ hheld₂
      -- submitted first, or only waited for
      split
      · simp only [meets_bind]
        refine submit_passes hs h₂ hheld₂ ?_
        intro w₃ held₃ h₃ hheld₃
        rw [← meets_bind]
        exact conclude_passes hs h₃ hheld₃
      · exact conclude_passes hs h₂ hheld₂
    | _ => exact h.closesDone (fun herror => by rw [herror] at hopen; cases hopen) (.refl copy)

/-- Whatever the kind, the books are passed on as the kind allows. -/
theorem standard_passes {info : RunInfo} :
    ((standard copy.task.kind).run info).Meets s r w copy (ClosesDone (RunEnds s copy b) s r)
      (ClosesHalted (RunEnds s copy b) s r) := by
  obtain h' | h' | h' | h' := standard_cases copy.task.kind
  · rw [h']
    exact delay_passes hs h hopen
  · rw [h']
    exact mock_passes hs h hopen
  · rw [h']
    exact vote_passes hs h hopen
  · rw [h']
    exact lifecycle_passes hs h hopen

end

end Executor

/-! ## Whole runs -/

section

variable {s : Services σ} {user : Account} {job : Job} {w : World σ}

/-- The question for the funds is not in the books. -/
theorem Gate.booksOf_eq {login : String} {kind : Kind} {events : List Event}
    {result : Except Fault Unit} (h : Gate s login kind events result) (id : Identifier)
    (st : Store) (log : List Event) : booksOf id st (events ++ log) = booksOf id st log := by
  unfold booksOf
  cases h <;> simp [Event.written?, Event.chargeFor?]

/-- **What a run leaves** of a stored job that has not ended, and what it reports. -/
theorem run_ends (hs : s.StoreSucceeds) (user : Account) (hj : w.store.get? job.id = some job)
    (hopen : job.status.isTerminal = false) (hfree : w.leases.isLive job.id = false) :
    RunEnds s job (w.books job.id) (isDropped s .standard user job w)
      (run s .standard user job w).1.store (run s .standard user job w).1.log
      (run s .standard user job w).2 := by
  have hstatus : (w.books job.id).status = some job.status := congrArg (Option.map _) hj
  have hne : job.status ≠ .error := by
    intro herror
    rw [herror] at hopen
    cases hopen
  have hstart : ∀ (w' : World σ) events result, Gate s user.login job.task.kind events result →
      w'.store = w.store → w'.log = events ++ w.log →
      Passage s job (w.books job.id) w' job.status := by
    intro w' events result hgate hstore hlog
    refine ⟨⟨job, by rw [hstore, hj], .refl job⟩, ?_⟩
    have hbooks : w'.books job.id = w.books job.id := by
      unfold World.books
      rw [hstore, hlog, hgate.booksOf_eq]
    rw [hbooks]
    exact .refl hstatus
  refine run_of_meets (P := RunEnds s job (w.books job.id)) hs ?_ ?_ ?_ ?_ ?_
  -- no end before the program but the gate is possible, and the gate leaves the books as they are
  · intro hterm
    rw [hopen] at hterm
    cases hterm
  · intro hbusy
    rw [hfree] at hbusy
    cases hbusy
  · intro events message hgate
    refine ⟨job, hj, rfl, .kept ?_, trivial, ?_⟩
    · rw [hgate.booksOf_eq]
      exact .refl hstatus
    · intro hnone
      rw [hnone]
      refine ⟨fun hsome => ?_, fun herror => absurd herror hne⟩
      cases hsome
  · intro events e w' _ hgate hstore hlog
    exact (hstart w' events _ hgate hstore hlog).failsTo hopen (.refl job) _ _
  · intro events w' r _ hgate hstore hlog _ _ _
    exact Executor.standard_passes hs (hstart w' events _ hgate hstore hlog) hopen

theorem isDropped_of_isTerminal (user : Account) (hterm : job.status.isTerminal = true) :
    isDropped s .standard user job w = false := by
  unfold isDropped beginRun
  rw [if_pos hterm]

/-- A run holds the lease of its job. -/
theorem openRun_lease {registry : Registry} {w' : World σ} {session : Session}
    {program : Program Unit}
    (h : openRun s registry user job w = (w', .underway session program)) :
    session.lease = job.id := by
  unfold openRun at h
  split at h
  · cases h
  · split at h
    · cases h
    · cases h
    · cases h
      rfl

/-- A run gives its lease back. -/
theorem isLive_run (registry : Registry) (user : Account) (hfree : w.leases.isLive job.id = false) :
    (run s registry user job w).1.leases.isLive job.id = false := by
  have hrelease : ∀ w' : World σ, (w'.release job.id).leases.isLive job.id = false := by
    intro w'
    simp [World.release, Leases.isLive_release]
  unfold run beginRun
  -- no lease is taken, or the one that is taken is given back
  cases hterm : job.status.isTerminal with
  | true => exact hfree
  | false =>
    simp only [Bool.false_eq_true, if_false]
    cases hacq : w.leases.acquire? job.id with
    | none => exact hfree
    | some leases =>
      simp only
      rcases hopen : openRun s registry user job { w with leases } with
        ⟨w', result | ⟨session, program⟩⟩
      · exact hrelease w'
      · simp only [endRun, openRun_lease hopen]
        exact hrelease _

end

/-! ## Runs one after the other -/

/-- Whether one of some runs of the stored job is dropped. -/
def World.anyDropped (s : Services σ) (id : Identifier) : List Turn → World σ → Bool
  | [], _ => false
  | turn :: turns, w =>
    w.isRerunDropped s id turn || (w.rerun s id turn).1.anyDropped s id turns

section

variable {s : Services σ} {id : Identifier} {job : Job} {w : World σ}

/-- A run of a stored job that has ended changes nothing. -/
theorem World.rerun_of_isTerminal (hj : w.store.get? id = some job)
    (hterm : job.status.isTerminal = true) (turn : Turn) :
    w.rerun s id turn = (w.waitUntil turn.start, .ok job) ∧ w.isRerunDropped s id turn = false := by
  unfold rerun isRerunDropped
  rw [hj]
  exact ⟨run_of_isTerminal turn.user hterm, isDropped_of_isTerminal turn.user hterm⟩

/-- A job that has ended is left alone by any sequence of runs. -/
theorem World.reruns_of_isTerminal (hj : w.store.get? id = some job)
    (hterm : job.status.isTerminal = true) (turns : List Turn) :
    (w.reruns s id turns).store = w.store ∧ (w.reruns s id turns).books id = w.books id ∧
      w.anyDropped s id turns = false := by
  induction turns generalizing w with
  | nil => exact ⟨rfl, rfl, rfl⟩
  | cons turn turns ih =>
    obtain ⟨hrerun, hdropped⟩ := World.rerun_of_isTerminal (s := s) hj hterm turn
    have hj' : (w.rerun s id turn).1.store.get? id = some job := by
      rw [hrerun]
      exact hj
    obtain ⟨hstore, hbooks, hrest⟩ := ih hj'
    refine ⟨hstore.trans (by rw [hrerun]; rfl), hbooks.trans (by rw [hrerun]; rfl), ?_⟩
    rw [anyDropped, hdropped, hrest]
    rfl

/-- A run of the stored job reaches other books, and leaves a job of the same kind. -/
theorem rerun_reaches (hs : s.StoreSucceeds) (hj : w.store.get? id = some job) (turn : Turn) :
    ∃ job', (w.rerun s id turn).1.store.get? id = some job' ∧ job'.task.kind = job.task.kind ∧
      Books.Reaches s.billing job.task.kind (w.books id) (w.isRerunDropped s id turn)
        ((w.rerun s id turn).1.books id) := by
  obtain rfl := Store.get?_id hj
  have hstatus : (w.books job.id).status = some job.status := congrArg (Option.map _) hj
  obtain ⟨hrerun, hdropped⟩ := World.rerun_of_get? (s := s) turn hj
  cases hterm : job.status.isTerminal with
  | true =>
    obtain ⟨hsame, hkept⟩ := World.rerun_of_isTerminal (s := s) hj hterm turn
    rw [hsame, hkept]
    exact ⟨job, hj, rfl, .kept (.refl hstatus)⟩
  | false =>
    rw [hrerun, hdropped]
    -- refused while another run works on the job, or run
    cases hbusy : w.leases.isLive job.id with
    | true =>
      obtain ⟨hsame, hkept⟩ := run_of_isLive (s := s) (w := w.waitUntil turn.start) .standard
        turn.user hterm hbusy
      rw [hsame, hkept]
      exact ⟨job, hj, rfl, .kept (.refl hstatus)⟩
    | false =>
      obtain ⟨job', hget, hkind, hreaches, -⟩ :=
        run_ends (w := w.waitUntil turn.start) hs turn.user hj hterm hbusy
      exact ⟨job', hget, hkind, hreaches⟩

/-- **Runs of the stored job**, one after the other, reach what one of them may reach: a run that is
dropped is the last one that does anything. -/
theorem reruns_reaches (hs : s.StoreSucceeds) (hj : w.store.get? id = some job)
    (turns : List Turn) :
    ∃ job', (w.reruns s id turns).store.get? id = some job' ∧ job'.task.kind = job.task.kind ∧
      Books.Reaches s.billing job.task.kind (w.books id) (w.anyDropped s id turns)
        ((w.reruns s id turns).books id) := by
  induction turns generalizing w job with
  | nil =>
    have hstatus : (w.books id).status = some job.status := congrArg (Option.map _) hj
    exact ⟨job, hj, rfl, .kept (.refl hstatus)⟩
  | cons turn turns ih =>
    obtain ⟨job₁, hj₁, hkind₁, hreaches⟩ := rerun_reaches hs hj turn
    have hrest : w.reruns s id (turn :: turns) = (w.rerun s id turn).1.reruns s id turns := rfl
    rw [hrest, World.anyDropped]
    generalize hd : w.isRerunDropped s id turn = dropped at hreaches
    -- behind a run that was dropped the job has failed, and all further runs leave it alone
    cases dropped with
    | false =>
      cases hreaches with
      | kept hpasses =>
        obtain ⟨job', hget, hkind, hreaches⟩ := ih hj₁
        rw [hkind₁] at hkind hreaches
        exact ⟨job', hget, hkind, hpasses.reaches hreaches⟩
    | true =>
      have herror : job₁.status = .error := by
        have hstatus := hreaches.status_of_dropped
        rw [World.books, booksOf, hj₁] at hstatus
        exact Option.some.inj hstatus
      obtain ⟨hstore, hbooks, -⟩ :=
        World.reruns_of_isTerminal (s := s) hj₁ (by rw [herror]; rfl) turns
      refine ⟨job₁, by rw [hstore, hj₁], hkind₁, ?_⟩
      rw [hbooks]
      exact hreaches

end

end WalletTasks
