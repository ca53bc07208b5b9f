import WalletTasks.Proofs.Books
import WalletTasks.Proofs.Closing
import WalletTasks.Proofs.Frame

/-!
# What a run makes of the books of its job

A run is given the stored copy of a job that has not ended. Whatever its executor stores moves the
status of the job along the few changes that are allowed, and keeps the books of the job in
agreement; what an executor does otherwise leaves them alone. Storing the job can be cut off in the
middle only if the run is dropped, and then the job is stored as failed.

* `Status.mayMove`: the changes of status that a run may make.
* `Routine.meets_aside`, `Routine.meets_persist_passage`: the two kinds of steps that an executor is
  made of.
-/

namespace WalletTasks

variable {σ α : Type}

/-- Whether a run may change the status of a job of a kind. A job is done behind its running, but
for mock tasks, which are done at once and never run. -/
def Status.mayMove (kind : Kind) : Status → Status → Bool
  | .ready, .running | .retry, .running => kind.shape ≠ .mock
  | .running, .done => true
  | .ready, .done | .retry, .done => kind.shape = .mock
  | .ready, .error | .retry, .error | .running, .error => true
  | _, _ => false

namespace Status

variable {kind : Kind} {a b : Status}

/-- What may still change has not ended. -/
theorem isTerminal_of_mayMove (h : a.mayMove kind b = true) : a.isTerminal = false := by
  cases a with
  | done | error => cases b <;> cases h
  | ready | running | retry => rfl

/-- Whatever has not ended may fail. -/
theorem mayMove_error (h : a.isTerminal = false) : a.mayMove kind .error = true := by
  cases a with
  | done | error => cases h
  | ready | running | retry => rfl

/-- A job that is not a mock may be running, unless it is already. -/
theorem mayMove_running (h : a.isTerminal = false) (hshape : kind.shape ≠ .mock) :
    a = .running ∨ a.mayMove kind .running = true := by
  cases a with
  | done | error => cases h
  | ready | retry => exact .inr (decide_eq_true hshape)
  | running => exact .inl rfl

theorem mayMove_done_of_mock (h : a.isTerminal = false) (hshape : kind.shape = .mock) :
    a.mayMove kind .done = true := by
  cases a with
  | done | error => cases h
  | ready | retry => exact decide_eq_true hshape
  | running => rfl

end Status

/-! ## Books along a run -/

namespace Books

variable {p : BillingPolicy} {kind : Kind} {b b' b₁ b₂ : Books} {login : String} {before : Status}
  {job : Job} {t : Instant}

/-- A filing along a run: it changes the status, if at all, as a run may, and the history has taken
the change. -/
def IsRegular (kind : Kind) (f : Filing) : Prop :=
  (f.isChange = true → f.noted?.isSome = true) ∧
    (f.before = f.after ∨ f.before.mayMove kind f.after = true)

/-- The books of a job agree on filings along a run. -/
def Passes (p : BillingPolicy) (kind : Kind) (b b' : Books) : Prop :=
  ∃ fs, Agree p kind b fs b' ∧ ∀ f ∈ fs, IsRegular kind f

/-- The changes of status along a run are allowed ones. -/
theorem mayMove_of_mem_moves {fs : List Filing} (hall : ∀ f ∈ fs, IsRegular kind f)
    {m : Status × Status} (hm : m ∈ Filing.moves fs) : m.1.mayMove kind m.2 = true := by
  obtain ⟨f, hf, rfl⟩ := List.mem_map.1 hm
  obtain ⟨hf, hchange⟩ := List.mem_filter.1 hf
  exact (hall f hf).2.resolve_left (Filing.isChange_iff.1 hchange)

/-- The history of a run has all of its changes of status. -/
theorem Agree.entries_eq {fs : List Filing} (h : Agree p kind b fs b')
    (hall : ∀ f ∈ fs, IsRegular kind f) :
    (Filing.entries fs).map StatusChange.move = Filing.moves fs :=
  Filing.entries_eq_moves h.sound fun f hf => (hall f hf).1

theorem Passes.refl {st : Status} (h : b.status = some st) : Passes p kind b b :=
  ⟨[], .refl st h, by simp⟩

/-- Books that are passed on twice are passed on. -/
theorem Passes.trans (h : Passes p kind b b₁) (h' : Passes p kind b₁ b₂) : Passes p kind b b₂ := by
  obtain ⟨fs, hagree, hall⟩ := h
  obtain ⟨fs', hagree', hall'⟩ := h'
  exact ⟨fs ++ fs', hagree.trans hagree', List.forall_mem_append.2 ⟨hall, hall'⟩⟩

/-- A write that may be made passes the books on. -/
theorem Passes.store (h : Passes p kind b b') (login : String) (t : Instant)
    (hkind : job.task.kind = kind)
    (hstatus : b'.status = some before)
    (hmove : before = job.status ∨ before.mayMove kind job.status = true) :
    Passes p kind b (b'.store p login before job t) := by
  obtain ⟨fs, hagree, hall⟩ := h
  refine ⟨_, hagree.store hkind hstatus, List.forall_mem_append.2 ⟨hall, ?_⟩⟩
  intro f hf
  obtain rfl := List.mem_singleton.1 hf
  exact ⟨Filing.isSome_ofJob, hmove⟩

/-- How far storing a job that has not failed has come when it is cut off: nowhere, up to the
history, or up to the charge. -/
inductive Cut (kind : Kind) (b : Books) : Books → Prop
  | unnoted : Cut kind b b
  | noted {before : Status} {job : Job} (t : Instant) (hstatus : b.status = some before)
    (hmove : before = job.status ∨ before.mayMove kind job.status = true)
    (hne : job.status ≠ .error) : Cut kind b (b.note before job t)
  | written {before : Status} {job : Job} (t : Instant) (hstatus : b.status = some before)
    (hmove : before = job.status ∨ before.mayMove kind job.status = true)
    (hne : job.status ≠ .error) :
    Cut kind b ((b.note before job t).write job)

/-- What a run, or some runs one after the other, have made of the books of a job. If one of them
was dropped, it may have been cut off while it stored the job, and the job was stored as failed
then. -/
inductive Reaches (p : BillingPolicy) (kind : Kind) (b : Books) : Bool → Books → Prop
  | kept {b' : Books} (h : Passes p kind b b') : Reaches p kind b false b'
  | dropped {b₁ b₂ : Books} {login : String} {before : Status} {job : Job} {t : Instant}
    (h : Passes p kind b b₁) (hcut : Cut kind b₁ b₂) (hstatus : b₂.status = some before)
    (hkind : job.task.kind = kind) (herror : job.status = .error) :
    Reaches p kind b true (b₂.store p login before job t)

/-- What is reached from later books is reached from earlier ones. -/
theorem Passes.reaches {dropped : Bool} (h : Passes p kind b b₁)
    (h' : Reaches p kind b₁ dropped b₂) :
    Reaches p kind b dropped b₂ := by
  cases h' with
  | kept h' => exact .kept (h.trans h')
  | dropped h' hcut hstatus hkind herror => exact .dropped (h.trans h') hcut hstatus hkind herror

theorem Reaches.status_of_dropped (h : Reaches p kind b true b') : b'.status = some .error := by
  cases h with
  | dropped h hcut hstatus hkind herror => exact congrArg some herror

/-- A job is stored as failed at the end of a run. -/
theorem Passes.reaches_fail (h : Passes p kind b b₁) (hstatus : b₁.status = some before)
    (hopen : before.isTerminal = false) (hkind : job.task.kind = kind)
    (herror : job.status = .error) (dropped : Bool) :
    Reaches p kind b dropped (b₁.store p login before job t) := by
  cases dropped with
  | true => exact .dropped h .unnoted hstatus hkind herror
  | false =>
    refine .kept (h.store login t hkind hstatus (.inr ?_))
    rw [herror]
    exact Status.mayMove_error hopen

end Books

/-- What has nothing to do with storing the job is not in the books. -/
theorem World.books_eq_of_aside {w w' : World σ} (haside : World.SetsAside w w')
    (hlog : World.LogsOnly (·.isOfStoring = false) w w') (id : Identifier) :
    w'.books id = w.books id := by
  have hwritten := hlog.traceOf_eq (f := Event.written? id) fun e he => by
    cases e <;> first | rfl | cases he
  have hcharges := hlog.traceOf_eq (f := Event.chargeFor? id) fun e he => by
    cases e <;> first | rfl | cases he
  unfold books booksOf
  rw [hwritten, hcharges, haside.get?_eq, haside.historyOf_eq]

/-! ## The steps of an executor -/

/-- A job is another one but for its payload, its description and its times, and has a status. -/
structure Job.Resembles (copy : Job) (status : Status) (job : Job) : Prop where
  id_eq : job.id = copy.id
  kind_eq : job.task.kind = copy.task.kind
  error_eq : job.error = copy.error
  status_eq : job.status = status

namespace Job.Resembles

variable {copy job : Job} {status : Status}

theorem refl (copy : Job) : copy.Resembles copy.status copy := ⟨rfl, rfl, rfl, rfl⟩

theorem stamped (h : copy.Resembles status job) (t : Instant) :
    copy.Resembles status (job.stamped t) := ⟨h.id_eq, h.kind_eq, h.error_eq, h.status_eq⟩

theorem mapPayload (h : copy.Resembles status job) (f : Payload → Payload)
    (hf : ∀ p, (f p).shape = p.shape) : copy.Resembles status (job.mapPayload f hf) :=
  ⟨h.id_eq, h.kind_eq, h.error_eq, h.status_eq⟩

theorem setStatus (h : copy.Resembles status job) (after : Status) :
    copy.Resembles after { job with status := after } := ⟨h.id_eq, h.kind_eq, h.error_eq, rfl⟩

end Job.Resembles

/-- The result of a run reports what is stored behind it: the job itself, which has not failed, or
the cause for which it is stored as failed. A crash of a service reports nothing. -/
def Reports (stored : Job) : Except Fault Job → Prop
  | .ok job => stored = job ∧ job.status ≠ .error
  | .error (.error e) => stored.status = .error ∧ stored.error = some e.message
  | .error (.crash _) => True

/-- What a run leaves of a job that it was given a copy of, and what it reports. -/
def RunEnds (s : Services σ) (copy : Job) (b : Books) (dropped : Bool) (st : Store)
    (log : List Event) (result : Except Fault Job) : Prop :=
  ∃ job, st.get? copy.id = some job ∧ job.task.kind = copy.task.kind ∧
    Books.Reaches s.billing copy.task.kind b dropped (booksOf copy.id st log) ∧
    Reports job result ∧ (copy.error = none → (job.error.isSome = true ↔ job.status = .error))

/-- Where a run stands between two steps of its executor: its job is stored with a status, and its
books have passed there. -/
structure Passage (s : Services σ) (copy : Job) (b : Books) (w : World σ) (status : Status) :
    Prop where
  stored : ∃ job, w.store.get? copy.id = some job ∧ copy.Resembles status job
  passes : Books.Passes s.billing copy.task.kind b (w.books copy.id)

section

variable {s : Services σ} {r : Session} {login : String} {copy stored held : Job} {b : Books}
  {w w' : World σ} {status after : Status}

/-- The job is stored as failed, wherever the run has come to. -/
theorem failsTo_runEnds {e : TaskError} {dropped : Bool}
    (hget : w.store.get? copy.id = some stored) (hid : held.id = copy.id)
    (hkind : held.task.kind = copy.task.kind)
    (hreaches : ∀ (job : Job) t, job.status = .error → job.task.kind = copy.task.kind →
      Books.Reaches s.billing copy.task.kind b dropped
        ((w.books copy.id).store s.billing login stored.status job t)) :
    FailsTo (RunEnds s copy b) s login dropped w held e := by
  rw [← hid] at hget hreaches
  refine ⟨stored, hget, ?_⟩
  intro w' t result hst hresult
  refine ⟨(held.failed e).stamped t, ?_, hkind, ?_, ?_, ?_⟩
  · rw [← hid]
    exact hst.get?
  · have := hreaches (held.failed e) t rfl hkind
    rw [← hid]
    exact (show booksOf held.id _ _ = _ from hst.booksOf_eq) ▸ this
  · rcases hresult with rfl | ⟨-, message, rfl⟩
    · exact ⟨rfl, rfl⟩
    · trivial
  · exact fun _ => ⟨fun _ => rfl, fun _ => rfl⟩

namespace Passage

/-- The books have the status that the job is stored with. -/
theorem status_eq (h : Passage s copy b w status) : (w.books copy.id).status = some status := by
  obtain ⟨job, hget, hjob⟩ := h.stored
  have := congrArg (Option.map Job.status) hget
  rw [Option.map_some, hjob.status_eq] at this
  exact this

/-- A job that has not ended may fail. -/
theorem failsTo (h : Passage s copy b w status) (hopen : status.isTerminal = false)
    (hheld : copy.Resembles after held) (dropped : Bool) (e : TaskError) :
    FailsTo (RunEnds s copy b) s login dropped w held e := by
  obtain ⟨job, hget, hjob⟩ := h.stored
  refine failsTo_runEnds hget hheld.id_eq hheld.kind_eq fun failed t herror hkind => ?_
  rw [hjob.status_eq]
  exact h.passes.reaches_fail h.status_eq hopen hkind herror _

theorem closesHalted (h : Passage s copy b w status) (hopen : status.isTerminal = false)
    (hheld : copy.Resembles after held) (halt : Halt) :
    ClosesHalted (RunEnds s copy b) s r w held halt := by
  obtain ⟨job, hget, hjob⟩ := h.stored
  refine ⟨?_, ?_⟩
  -- asked for again, the stored job has not failed; any other halt is stored as a failure
  · intro _
    have hne : job.status ≠ .error := by
      rintro herror
      rw [← hjob.status_eq, herror] at hopen
      cases hopen
    refine ⟨job, by rw [hheld.id_eq, hget], job, hget, hjob.kind_eq, .kept h.passes, ⟨rfl, hne⟩, ?_⟩
    intro hnone
    rw [hjob.error_eq, hnone]
    refine ⟨fun hsome => ?_, fun herror => absurd herror hne⟩
    cases hsome
  · exact fun _ => h.failsTo hopen hheld _ _

/-- A run that ends with the job as it is stored closes its books. -/
theorem closesDone (h : Passage s copy b w status) (hne : status ≠ .error)
    (hheld : copy.Resembles status held) : ClosesDone (RunEnds s copy b) s r w held () := by
  obtain ⟨job, hget, hjob⟩ := h.stored
  rw [← hheld.id_eq] at hget
  refine ⟨job, hget, ?_⟩
  rintro w' t result hst (rfl | ⟨howed, -⟩)
  · have hopen : held.status ≠ .error := by rwa [hheld.status_eq]
    refine ⟨held.cleared.stamped t, ?_, hheld.kind_eq, .kept ?_, ⟨rfl, hopen⟩, fun _ => ?_⟩
    · rw [← hheld.id_eq]
      exact hst.get?
    · have hcleared : held.cleared.task.kind = copy.task.kind := hheld.kind_eq
      have := h.passes.store r.user.login t hcleared h.status_eq (.inl hheld.status_eq.symm)
      have hbooks := hst.booksOf_eq
      rw [hjob.status_eq] at hbooks
      rw [← hheld.id_eq] at this ⊢
      exact hbooks ▸ this
    · refine ⟨fun hsome => ?_, fun herror => absurd herror hopen⟩
      cases hsome
  · rw [hjob.status_eq, hheld.status_eq, BillingPolicy.chargeOwed_self] at howed
    cases howed

end Passage

/-- A step that stores nothing leaves the run where it stands. -/
theorem Routine.meets_aside {m : Routine α} {D : World σ → Job → α → Prop}
    (hm : m.KeepsTo (fun q => q.isAside = true) (copy.Resembles after))
    (h : Passage s copy b w status) (hopen : status.isTerminal = false)
    (hheld : copy.Resembles after held)
    (hdone : ∀ w' held' a, Passage s copy b w' status → copy.Resembles after held' →
      D w' held' a) :
    m.Meets s r w held D (ClosesHalted (RunEnds s copy b) s r) := by
  have hstamped : ∀ (job : Job) (t : Instant), copy.Resembles after job →
      copy.Resembles after (job.stamped t) := fun job t h => h.stamped t
  obtain ⟨hlog, hend⟩ := drive_logsOnly (s := s) (r := r) (w := w) hstamped (hm held hheld)
  have haside := drive_setsAside (s := s) (r := r) (w := w) hstamped (hm held hheld) fun _ h => h
  -- neither the stored job nor the books change, and the held job keeps its likeness
  refine meets_of_drive (Q := fun w' held' => Passage s copy b w' status ∧
    copy.Resembles after held') ⟨⟨?_, ?_⟩, hend⟩ ?_ ?_
  · rw [haside.get?_eq]
    exact h.stored
  · rw [World.books_eq_of_aside haside (hlog.mono ?_)]
    · exact h.passes
    · rintro e ⟨q, hq, he⟩
      rw [he.isOfStoring_eq, hq]
      rfl
  · rintro w' held' halt ⟨hpassage, hheld'⟩
    exact hpassage.closesHalted hopen hheld' halt
  · rintro w' held' a ⟨hpassage, hheld'⟩
    exact hdone w' held' a hpassage hheld'

/-- A write that may be made carries the passage on. -/
theorem Passage.of_stores (h : Passage s copy b w status) (hstored : copy.Resembles status stored)
    (hheld : copy.Resembles after held)
    (hmove : status = after ∨ status.mayMove copy.task.kind after = true) {t₁ t₂ : Instant}
    (hst : World.Stores s login stored held t₁ t₂ w w') : Passage s copy b w' after := by
  refine ⟨⟨held.stamped t₂, ?_, hheld.stamped t₂⟩, ?_⟩
  · rw [← hheld.id_eq]
    exact hst.get?
  · have hpasses := h.passes.store login t₁ hheld.kind_eq h.status_eq
      (by rwa [hheld.status_eq])
    have hbooks := hst.booksOf_eq
    rw [hstored.status_eq, hheld.id_eq] at hbooks
    exact (show w'.books copy.id = _ from hbooks) ▸ hpasses

/-- The run is dropped while it stores its job. -/
theorem Passage.of_storing (h : Passage s copy b w status) (hstored : copy.Resembles status stored)
    (hget : w.store.get? copy.id = some stored) {job : Job} (hjob : copy.Resembles after job)
    (hmove : status = after ∨ status.mayMove copy.task.kind after = true) (hne : after ≠ .error)
    (hst : World.Storing s login stored job w w' held) {e : TaskError} :
    FailsTo (RunEnds s copy b) s login true w' held e := by
  rw [← hjob.status_eq] at hne
  have hmove' : stored.status = job.status ∨
      stored.status.mayMove copy.task.kind job.status = true := by
    rwa [hstored.status_eq, hjob.status_eq]
  have hstatus : (w.books copy.id).status = some stored.status := by
    rw [h.status_eq, hstored.status_eq]
  -- what was stored before the drop, and how far storing the job had come then
  have hcut : ∃ b₁, Books.Passes s.billing copy.task.kind b b₁ ∧
      Books.Cut copy.task.kind b₁ (w'.books copy.id) := by
    obtain ⟨t, hbooks⟩ := hst.books_eq
    rw [hjob.id_eq] at hbooks
    rcases hbooks with hbooks | hbooks | hbooks | hbooks <;> rw [hbooks]
    · exact ⟨_, h.passes, .unnoted⟩
    · exact ⟨_, h.passes, .noted t hstatus hmove' hne⟩
    · exact ⟨_, h.passes, .written t hstatus hmove' hne⟩
    · exact ⟨_, h.passes.store login t hjob.kind_eq hstatus hmove', .unnoted⟩
  obtain ⟨b₁, hpasses, hcut⟩ := hcut
  have hkind : held.task.kind = copy.task.kind := by
    rcases hst.held_eq with rfl | ⟨t, rfl⟩ <;> exact hjob.kind_eq
  rw [← hjob.id_eq] at hget
  obtain ⟨stored', hget'⟩ := hst.exists_get? hget
  have hid : held.id = copy.id := hst.id_eq.trans hjob.id_eq
  rw [hid] at hget'
  refine failsTo_runEnds hget' hid hkind fun failed t herror hkind => ?_
  exact .dropped hpasses hcut (congrArg (Option.map Job.status) hget') hkind herror

/-- **A step that stores the job** moves the run from one status to another one. -/
theorem Routine.meets_persist_passage (hs : s.StoreSucceeds) {D : World σ → Job → Unit → Prop}
    (h : Passage s copy b w status) (hheld : copy.Resembles after held)
    (hmove : status = after ∨ status.mayMove copy.task.kind after = true) (hne : after ≠ .error)
    (hdone : ∀ w' held', Passage s copy b w' after → copy.Resembles after held' →
      D w' held' ()) :
    persist.Meets s r w held D (ClosesHalted (RunEnds s copy b) s r) := by
  obtain ⟨stored, hget, hstored⟩ := h.stored
  refine meets_persist_charging hs (by rw [hheld.id_eq]; exact hget) ?_ ?_ ?_
  · intro w' held' hst
    refine ⟨fun hretry => ?_, fun _ => h.of_storing hstored hget hheld hmove hne hst⟩
    cases hretry
  · intro howed w' t₁ t₂ halt hst _
    refine (h.of_stores hstored hheld hmove hst).closesHalted ?_ (hheld.stamped t₂) halt
    -- a charge is owed only for a status that is not done
    rw [hheld.status_eq] at howed
    cases after with
    | done => simp [BillingPolicy.chargeOwed] at howed
    | error => exact absurd rfl hne
    | ready | running | retry => rfl
  · intro w' t₁ t₂ hst
    exact hdone w' _ (h.of_stores hstored hheld hmove hst) (hheld.stamped t₂)

end

end WalletTasks
