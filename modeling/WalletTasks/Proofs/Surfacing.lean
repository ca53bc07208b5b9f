import WalletTasks.Proofs.Gating
import WalletTasks.Proofs.Placing
import WalletTasks.Rehearsal.Instruction

/-!
# What comes back as failed is on record as failed

Nothing is assumed of the executors but that they keep the identifier of their job: they may change
all else of it, store it or not, fail, crash or wait for ever. A run that gives back a cause of
failure stores the job with that cause first, and there is one way around it. An executor may end
well with a status that a charge is owed for; the job is then stored as the executor has left it,
and it is only the charge that fails.

* `drive_isStored`: no program takes a stored job out of the store.
* `surfaced_iff`: a cause that a run gives back is on record, unless it is the charge for what the
  executor has left that failed.
-/

namespace WalletTasks

variable {σ α : Type}

/-- A program holds a job of a class wherever it may end or wait. -/
def Program.Holds (I : Job → Prop) : Program α → Prop
  | finish held _ | crash held _ | stall held => I held
  | ask held _ next => I held ∧ ∀ job a, I job → (next job a).Holds I

/-- All executors of a registry keep the identifier of the job that they take over. -/
def Registry.KeepsId (registry : Registry) : Prop :=
  ∀ kind executor, registry.executor kind = .ok executor →
    ∀ info job, (executor.run info job).Holds fun held => held.id = job.id

/-- A job is stored as failed, with the text of a cause. -/
def Store.HasFailed (st : Store) (id : Identifier) (e : TaskError) : Prop :=
  ∃ failed, st.get? id = some failed ∧ failed.status = .error ∧ failed.error = some e.message

/-- An executor has ended well, but the charge for what it has left fails. -/
def Ending.isUnpaid (s : Services σ) (login : String) (e : Ending σ Unit) : Bool :=
  match e.outcome with
  | .returned (.ok ()) =>
    match e.world.reconcile s login e.held.cleared with
    | (_, _, .error (.funds _)) => true
    | _ => false
  | _ => false

/-- A run has come to an executor that ends well, but the charge for what it has left fails. -/
def isUnpaid (s : Services σ) (registry : Registry) (user : Account) (job : Job) (w : World σ) :
    Bool :=
  match beginRun s registry user job w with
  | (_, .over _) => false
  | (w, .underway r program) => (drive s r program w).isUnpaid s r.user.login

section

variable {s : Services σ} {r : Session} {user : Account} {job stored : Job} {w : World σ}
  {p : Program α} {id : Identifier} {e c : TaskError}

/-! ## What any program leaves -/

theorem Program.KeepsTo.holds {ok : Request → Prop} {I : Job → Prop} (h : p.KeepsTo ok I) :
    p.Holds I := by
  induction p with
  | finish | crash => exact h
  | stall => cases h
  | ask held q next ih => exact ⟨h.2.1, fun job a hjob => ih job a (h.2.2 job a hjob)⟩

/-- A program ends with a job of the class that it keeps to. -/
theorem drive_holds {I : Job → Prop} (hI : ∀ job t, I job → I (job.stamped t))
    (h : p.Holds I) : I (drive s r p w).held := by
  induction p generalizing w with
  | finish | crash | stall => exact h
  | ask held q next ih =>
    obtain ⟨hheld, hnext⟩ := h
    have hheld' := World.holds_perform (s := s) (r := r) (w := w) hI hheld q
    simp only [drive]
    rcases hp : w.perform s r held q with ⟨w', held', _ | a | message⟩
    all_goals rw [hp] at hheld'
    · exact hheld'
    · exact ih held' a (hnext held' a hheld')
    · exact hheld'

/-- A job has a stored copy. -/
def Store.Has (st : Store) (id : Identifier) : Prop := ∃ job, st.get? id = some job

/-- Putting a job into its place takes no other out of the store. -/
theorem Store.isUpheld_find? (id : Identifier) :
    IsUpheld fun jobs => ∃ job, jobs.find? (fun j => j.id = id) = some job := by
  rintro job t jobs hjobs
  rw [find?_place]
  split
  · exact ⟨_, rfl⟩
  · exact hjobs

/-- No program takes a stored job out of the store. -/
theorem drive_isStored (p : Program α) (h : w.store.Has id) :
    (drive s r p w).world.store.Has id :=
  drive_upholds (Store.isUpheld_find? id) p h

/-! ## What the runner leaves -/

/-- A failure that the runner stores is on record. -/
theorem failRun_surfaces (hs : s.StoreSucceeds) (hj : w.store.get? job.id = some stored)
    (h : (failRun s user job e w).2 = .error (.error c)) :
    (failRun s user job e w).1.store.HasFailed job.id c := by
  obtain hresult | ⟨charge, x, message, -, hresult⟩ := failRun_result (s := s) user job e w
  all_goals
    rw [hresult] at h
    cases h
  exact get?_failRun hs user hj e

/-- An error that a run returns is the one it stored, unless the charge of the completed job failed.
-/
theorem closeRun_surfaces (hs : s.StoreSucceeds) {ending : Ending σ Unit}
    (hj : ending.world.store.get? ending.held.id = some stored)
    (h : (closeRun s r ending).2 = .error (.error c)) :
    (ending.isUnpaid s r.user.login = false ∧
      (closeRun s r ending).1.store.HasFailed ending.held.id c) ∨
    (ending.isUnpaid s r.user.login = true ∧ ∃ f left, c = .funds f ∧
      (closeRun s r ending).1.store.get? ending.held.id = some left ∧ left.error = none) := by
  rcases ending with ⟨w, held, (cause | ⟨⟨⟩⟩) | message | _⟩
  -- an error of the executor
  · refine .inl ⟨rfl, ?_⟩
    simp only [closeRun] at h ⊢
    split at h
    · -- a job that is stored can be given back
      obtain ⟨outside, hget⟩ := World.getJob_eq hs hj
      rw [hget] at h
      cases h
    · rename_i hretry
      rw [if_neg hretry]
      exact failRun_surfaces hs hj h
  -- the executor is through, and what is left is to store the job
  · obtain ⟨w', reply, heq, hstore, -, -, hfunds⟩ :=
      World.reconcile_eq hs r.user.login held.cleared hj
    have hleft : w'.store.get? held.id = some (held.cleared.stamped (s.wallClock w.now)) := by
      rw [hstore]
      exact Store.get?_overwritten_self ..
    unfold Job.cleared at heq
    simp only [closeRun, heq] at h ⊢
    simp only [Ending.isUnpaid, Job.cleared, heq]
    rcases reply with _ | cause | message
    · cases h
    · -- with a store that succeeds it is the charge that has failed
      cases h
      obtain ⟨f, rfl⟩ := hfunds _ rfl
      exact .inr ⟨rfl, f, _, rfl, hleft, rfl⟩
    · cases h
  · exact .inl ⟨rfl, failRun_surfaces hs hj h⟩
  · exact .inl ⟨rfl, failRun_surfaces hs hj h⟩

/-- **Whether what a run gives back as failed is on record.** A run of a stored job that has not
ended gives back a cause; it is not that the job is under way. Then the job is stored as failed with
the text of that cause, unless the run has come to an executor that ends well and only the charge
for what it has left fails. That charge's failure is given back then, and no cause is stored. -/
theorem surfaced_iff (hs : s.StoreSucceeds) {registry : Registry} (hkeeps : registry.KeepsId)
    (user : Account) (hopen : job.status.isTerminal = false)
    (hj : w.store.get? job.id = some stored)
    (h : (run s registry user job w).2 = .error (.error e)) (he : ∀ id, e ≠ .alreadyRunning id) :
    ((run s registry user job w).1.store.HasFailed job.id e ↔
      isUnpaid s registry user job w = false) ∧
    (isUnpaid s registry user job w = true → ∃ f left, e = .funds f ∧
      (run s registry user job w).1.store.get? job.id = some left ∧ left.error = none) := by
  have key : isUnpaid s registry user job w = false ∧
        (run s registry user job w).1.store.HasFailed job.id e ∨
      isUnpaid s registry user job w = true ∧ ∃ f left, e = .funds f ∧
        (run s registry user job w).1.store.get? job.id = some left ∧ left.error = none := by
    have hbegins := beginRun_begins (s := s) (w := w) registry user hopen
    unfold isUnpaid run at *
    rcases hb : beginRun s registry user job w with ⟨w', opening⟩
    rw [hb] at hbegins h
    cases hbegins with
    | busy =>
      cases h
      exact absurd rfl (he job.id)
    | unknown _ hstore | refused _ hstore =>
      rw [← hstore] at hj
      exact .inl ⟨rfl, failRun_surfaces hs hj h⟩
    | crashed => cases h
    | @underway _ _ r executor hexec _ hstore _ huser =>
      -- whatever the executor does, it ends with its job, and the job is still stored
      rw [← hstore] at hj
      have hid : (drive s r (executor.run (r.info s.limits) job) w').held.id = job.id :=
        drive_holds (fun _ _ h => h) (hkeeps _ _ hexec _ job)
      obtain ⟨stored', hj'⟩ := drive_isStored (s := s) (r := r)
        (executor.run (r.info s.limits) job) ⟨stored, hj⟩
      rw [← hid] at hj' ⊢
      exact closeRun_surfaces (r := r) hs hj' h
  rcases key with ⟨hpaid, hfailed⟩ | ⟨hunpaid, f, left, hf, hleft, hnone⟩
  · refine ⟨⟨fun _ => hpaid, fun _ => hfailed⟩, fun hunpaid => ?_⟩
    rw [hpaid] at hunpaid
    cases hunpaid
  · refine ⟨⟨?_, fun hpaid => ?_⟩, fun _ => ⟨f, left, hf, hleft, hnone⟩⟩
    · rintro ⟨failed, hget, -, herror⟩
      rw [hleft] at hget
      cases hget
      rw [hnone] at herror
      cases herror
    · rw [hunpaid] at hpaid
      cases hpaid

end

/-- The registry whose only executor follows instructions for the sample job. -/
def Registry.rehearsed (instructions : List Rehearsal.Instruction) : Registry :=
  ⟨[Rehearsal.scripted .deployStarkNetAccount instructions]⟩

/-- No instruction changes the identifier of the job. -/
theorem Rehearsal.Instruction.keepsTo_follow (info : RunInfo) (id : Identifier)
    (i : Instruction) :
    (i.follow info).KeepsTo (fun _ => True) (fun held => held.id = id) := by
  cases i with
  | setStatus status => exact Routine.keepsTo_setStatus fun _ h => h
  | setError error => exact Routine.keepsTo_modify fun _ h => h
  | persist => exact Routine.keepsTo_persist fun _ _ => trivial
  | sleep duration =>
    exact Routine.keepsTo_bind (Routine.keepsTo_ask trivial) Routine.keepsTo_ofExcept
  | pause duration => exact Routine.keepsTo_ask trivial
  | noteCancelled =>
    exact Routine.keepsTo_bind (Routine.keepsTo_ask trivial) fun _ =>
      Routine.keepsTo_modify fun _ h => h
  | expectShape shape =>
    exact Routine.keepsTo_bind Routine.keepsTo_held fun _ =>
      Routine.keepsTo_bind (Routine.keepsTo_ofExcept _) fun _ => Routine.keepsTo_pure ()
  | fail e => exact Routine.keepsTo_fail e
  | crash message => exact Routine.keepsTo_crash message

theorem Rehearsal.keepsTo_followAll (info : RunInfo) (id : Identifier)
    (instructions : List Instruction) :
    (followAll info instructions).KeepsTo (fun _ => True) (fun held => held.id = id) := by
  induction instructions with
  | nil => exact Routine.keepsTo_pure ()
  | cons i is ih => exact Routine.keepsTo_bind (i.keepsTo_follow info id) fun _ => ih

theorem Registry.keepsId_rehearsed (instructions : List Rehearsal.Instruction) :
    (rehearsed instructions).KeepsId := by
  intro kind executor h info job
  have hexec : executor = Rehearsal.scripted .deployStarkNetAccount instructions := by
    cases kind <;> first | exact (Except.ok.inj h).symm | cases h
  rw [hexec]
  exact (Rehearsal.keepsTo_followAll info job.id instructions job rfl).holds

/-- During an outage the sample job is set to running. If its executor fails then, the cause is on
record; if it ends well, the failure of the charge is not. -/
theorem sample_surfaced_iff :
    let w := World.seeded ⟨[], 9⟩ Job.sample
    let after (instructions : List Rehearsal.Instruction) :=
      run .outage (.rehearsed instructions) .sample .sample w
    (after [.setStatus .running, .fail .cancelled]).1.store.HasFailed default .cancelled ∧
      ¬(after [.setStatus .running]).1.store.HasFailed default (.funds (.unavailable "down")) := by
  intro w after
  have hfailed := surfaced_iff (w := w) Services.storeSucceeds_outage
    (Registry.keepsId_rehearsed [.setStatus .running, .fail .cancelled]) .sample rfl
    (get?_seeded _ Job.sample) rfl (by simp)
  have hunpaid := surfaced_iff (w := w) Services.storeSucceeds_outage
    (Registry.keepsId_rehearsed [.setStatus .running]) .sample rfl
    (get?_seeded _ Job.sample) rfl (by simp)
  refine ⟨hfailed.1.2 (by decide +kernel), fun h => ?_⟩
  have hpaid := hunpaid.1.1 h
  revert hpaid
  decide +kernel

/-- The run of the sample job fails over its charge, and the job stays on record as running, without
a cause. -/
theorem sample_failure_not_on_record :
    let w := World.seeded ⟨[], 1⟩ Job.sample
    let after := run .outage (.rehearsed [.setStatus .running]) .sample .sample w
    (∃ e, after.2 = .error (.error (.funds e))) ∧
      (after.1.store.get? default).map (fun job => (job.status, job.error)) =
        some (.running, none) :=
  ⟨⟨_, rfl⟩, by decide +kernel⟩

end WalletTasks
