import WalletTasks.Proofs.Books
import WalletTasks.Proofs.Frame
import WalletTasks.Proofs.Rerun

/-!
# Storing jobs keeps their books in agreement

Any jobs are stored, one after the other, over whatever is stored of them. Behind each of them the
changes of status, the history and the charges agree, for every job that is stored. The history may
lack the change of a job: not being able to write it is passed over.

* `World.noted?`: what the history takes of a job that is stored.
* `World.reconcile_written`: what storing a job comes to, whatever fails on the way.
* `reconciles_agree`: the books agree behind any sequence of jobs that have been stored.
-/

namespace WalletTasks

variable {σ : Type}

/-- Writing to the history never fails. -/
def Services.KeepsHistory (s : Services σ) : Prop := ∀ x, (s.fault? .history x).2 = none

namespace World

/-- What storing a job adds to the history: nothing if the stored copy cannot be read or has the
status of the job already, or if the history fails. -/
def noted? (s : Services σ) (job : Job) (w : World σ) : Option StatusChange :=
  match w.getJob s job.id with
  | (_, .error _) => none
  | (w, .ok stored) =>
    if stored.status = job.status ∨ (w.fault? s .history).2.isSome then none
    else some ⟨job.id, stored.status, job.status, job.error, s.wallClock w.now⟩

/-- Whether the history takes what is written to it as a job is stored. -/
def takesEntry (s : Services σ) (job : Job) (w : World σ) : Bool :=
  ((w.getJob s job.id).1.fault? s .history).2.isNone

/-- The filing of a job over its stored copy: the history takes what is written to it just then. -/
def filing? (s : Services σ) (job : Job) (w : World σ) : Option Filing :=
  (w.store.get? job.id).map fun stored => ⟨stored.status, job.status, w.noted? s job⟩

/-- The filings of the jobs of an identifier, from what was stored: each job with the world that it
was stored in. -/
def filings (s : Services σ) (id : Identifier) (calls : List (World σ × Job)) : List Filing :=
  calls.filterMap fun call => if call.2.id = id then call.1.filing? s call.2 else none

/-- Jobs have been stored one after the other, at any times and for any users, each with the kind
that belongs to its identifier. -/
inductive Reconciles (s : Services σ) (kindOf : Identifier → Kind) (w : World σ) :
    List (World σ × Job) → World σ → Prop
  | refl : Reconciles s kindOf w [] w
  | step {calls : List (World σ × Job)} {w₁ w₂ : World σ} {held : Job}
    (h : Reconciles s kindOf w calls w₁) (start : Nat) (login : String) (job : Job)
    (hkind : job.task.kind = kindOf job.id)
    (hok : (w₁.waitUntil start).reconcile s login job = (w₂, held, .value ())) :
    Reconciles s kindOf w (calls ++ [(w₁.waitUntil start, job)]) w₂

end World

section

variable {s : Services σ} {login : String} {job stored held : Job} {w w' w₁ : World σ}
  {id : Identifier} {t : Instant}

namespace World

theorem fault?_frame (s : Services σ) (c : StoreCall) (w : World σ) :
    ∃ outside, w.fault? s c = ({ w with outside }, (s.fault? c w.outside).2) := ⟨_, rfl⟩

theorem store_getJob (id : Identifier) : (w.getJob s id).1.store = w.store := by
  unfold getJob
  split
  · rename_i h
    rw [← (Prod.mk.inj h).1]
  · rename_i h
    rw [← (Prod.mk.inj h).1]
    split <;> rfl

/-- A job that is read is the stored one, and reading it changes nothing. -/
theorem getJob_ok (h : w.getJob s id = (w₁, .ok stored)) :
    w.store.get? id = some stored ∧ w₁.store = w.store ∧ w₁.log = w.log := by
  obtain ⟨outside, hf⟩ := fault?_frame s .get w
  unfold getJob at h
  rw [hf] at h
  generalize (s.fault? .get w.outside).2 = e at h
  cases e with
  | some e => cases h
  | none =>
    cases hj : w.store.get? id with
    | some job =>
      simp only [hj] at h
      cases h
      exact ⟨rfl, rfl, rfl⟩
    | none =>
      simp only [hj] at h
      cases h

/-- An update that succeeds overwrites the job and is logged. -/
theorem updateJob_ok (h : w.updateJob s job = (w₁, .ok ())) :
    w₁.store = w.store.overwritten job ∧ w₁.log = .updated job :: w.log := by
  obtain ⟨outside, hf⟩ := fault?_frame s .update w
  unfold updateJob at h
  rw [hf] at h
  generalize (s.fault? .update w.outside).2 = e at h
  cases e with
  | some e => cases h
  | none =>
    -- an update of a job that is not stored does not succeed
    cases hj : w.store.get? job.id with
    | some stored =>
      simp only [Store.update?_eq_overwritten hj] at h
      cases h
      exact ⟨rfl, rfl⟩
    | none =>
      simp only [Store.update?_eq_none_iff.2 hj] at h
      cases h

/-- A change of status is written to the history if there is one and the history does not fail. -/
theorem store_recordStatus (before : Status) (job : Job) :
    (w.recordStatus s before job).store =
      if before = job.status ∨ (w.fault? s .history).2.isSome then w.store
      else w.store.record ⟨job.id, before, job.status, job.error, s.wallClock w.now⟩ := by
  obtain ⟨outside, hf⟩ := fault?_frame s .history w
  unfold recordStatus
  by_cases hb : before = job.status
  · simp only [hb, true_or, if_true]
  · simp only [hb, if_false, false_or]
    rw [hf]
    cases (s.fault? .history w.outside).2 <;> rfl

/-- What is added to the history leads away from the status that is stored. -/
theorem get?_of_noted? {change : StatusChange} (h : w.noted? s job = some change) :
    ∃ stored, w.store.get? job.id = some stored ∧ stored.status = change.before ∧
      change.after = job.status ∧ change.before ≠ change.after := by
  unfold noted? at h
  rcases hget : w.getJob s job.id with ⟨w₁, e | stored⟩
  · rw [hget] at h
    cases h
  rw [hget] at h
  simp only at h
  split at h
  · cases h
  · rename_i hnoted
    cases h
    exact ⟨stored, (getJob_ok hget).1, rfl, rfl, fun heq => hnoted (.inl heq)⟩

/-- What storing a job adds to the history tells of the job, and of its change of status. -/
theorem noted?_sound {change : StatusChange} (h : w.noted? s job = some change) :
    change.jobId = job.id ∧ change.error = job.error := by
  unfold noted? at h
  split at h
  · cases h
  · split at h
    · cases h
    · cases h
      exact ⟨rfl, rfl⟩

/-- The history gets an entry for a change of status that it takes, and for nothing else. -/
theorem isSome_noted?_iff (hget : w.getJob s job.id = (w₁, .ok stored)) :
    (w.noted? s job).isSome = true ↔
      stored.status ≠ job.status ∧ w.takesEntry s job = true := by
  unfold noted? takesEntry
  rw [hget]
  by_cases hsame : stored.status = job.status
  · simp [hsame]
  · cases hfault : (w₁.fault? s .history).2 <;> simp [hsame, hfault]

theorem isSound_of_filing? {f : Filing} (h : w.filing? s job = some f) : f.IsSound := by
  obtain ⟨stored, hj, rfl⟩ := Option.map_eq_some_iff.1 h
  intro change hchange
  obtain ⟨stored', hj', hbefore, hafter, hne⟩ := get?_of_noted? hchange
  obtain rfl : stored = stored' := Option.some.inj (hj.symm.trans hj')
  have hmove : change.move = (stored.status, job.status) := by
    rw [StatusChange.move, hafter, hbefore]
  exact ⟨hmove, Filing.isChange_iff.2 (by rwa [hbefore, ← hafter])⟩

/-- A job that has been stored was stored before; it is stamped and written over its stored copy,
the history has what it took of it, and what is owed has been charged. It is only over a charge that
is owed that storing it can then fail. -/
theorem reconcile_written {reply : Reply TaskError Unit}
    (h : w.reconcile s login job = (w', held, reply)) (hreply : ∀ e, reply ≠ .error (.store e)) :
    ∃ w₁ stored t, w.getJob s job.id = (w₁, .ok stored) ∧ held = job.stamped t ∧
      w'.store = ({ w.store with
        history := w.store.history ++ (w.noted? s job).toList } : Store).overwritten held ∧
      w'.log = s.billing.chargeEvents login stored.status held ++ .updated held :: w.log ∧
      (s.billing.chargeOwed stored.status job.status job.task.kind = false →
        reply = .value ()) := by
  unfold reconcile at h
  unfold noted?
  rcases hget : w.getJob s job.id with ⟨w₁, e | stored⟩
  all_goals
    rw [hget] at h
    simp only at h ⊢
  · cases h
    exact absurd rfl (hreply e)
  obtain ⟨-, hstore₁, hlog₁⟩ := getJob_ok hget
  have hnoted := store_recordStatus (s := s) (w := w₁) stored.status job
  have hlog₂ := log_recordStatus (s := s) (w := w₁) stored.status job
  rw [hstore₁] at hnoted
  generalize w₁.recordStatus s stored.status job = w₂ at *
  rcases hupdate : w₂.updateJob s (w₂.stamp s job) with ⟨w₃, e | ⟨⟨⟩⟩⟩
  · rw [hupdate] at h
    cases h
    exact absurd rfl (hreply e)
  rw [hupdate] at h
  obtain ⟨hstore₃, hlog₃⟩ := updateJob_ok hupdate
  obtain ⟨outside, reply', hcharge, howed, -⟩ :=
    settleCharge_eq (s := s) (w := w₃) login stored.status (w₂.stamp s job)
  simp only [hcharge] at h
  cases h
  refine ⟨w₁, stored, s.wallClock w₂.now, rfl, rfl, ?_, ?_, howed⟩
  · show w₃.store = _
    rw [hstore₃, hnoted]
    split <;> simp [Store.record, Store.overwritten]
  · show _ ++ w₃.log = _
    rw [hlog₃, hlog₂, hlog₁]

end World

/-- What the history has taken of a job is in the books of this job. -/
theorem booksOf_entered {noted? : Option StatusChange} (h : ∀ c, noted? = some c → c.jobId = id)
    (st : Store) (log : List Event) :
    booksOf id { st with history := st.history ++ noted?.toList } log =
      { booksOf id st log with history := (booksOf id st log).history ++ noted?.toList } := by
  cases noted? with
  | none => simp [booksOf]
  | some c =>
    have hid : c.jobId = id := h c rfl
    simp [booksOf, Store.historyOf, Store.get?, hid]

/-- What the history has taken of another job is not in the books of a job. -/
theorem booksOf_entered_of_ne {noted? : Option StatusChange}
    (h : ∀ c, noted? = some c → c.jobId ≠ id) (st : Store) (log : List Event) :
    booksOf id { st with history := st.history ++ noted?.toList } log = booksOf id st log := by
  cases noted? with
  | none => simp [booksOf]
  | some c =>
    have hid : c.jobId ≠ id := h c rfl
    simp [booksOf, Store.historyOf, Store.get?, hid]

namespace World

/-- **Storing a job keeps its books in agreement**, on the one filing that it comes to. -/
theorem reconcile_agree (h : w.reconcile s login job = (w', held, .value ())) :
    ∃ f, w.filing? s job = some f ∧
      Books.Agree s.billing job.task.kind (w.books job.id) [f] (w'.books job.id) := by
  obtain ⟨w₁, stored, t, hget, rfl, hstore, hlog, -⟩ := reconcile_written h (by simp)
  obtain ⟨hj, -⟩ := getJob_ok hget
  have hfiling : w.filing? s job = some ⟨stored.status, job.status, w.noted? s job⟩ := by
    rw [filing?, hj]
    rfl
  have hstatus : (w.books job.id).status = some stored.status := congrArg (Option.map _) hj
  have hbooks : w'.books job.id =
      ((booksOf job.id { w.store with
        history := w.store.history ++ (w.noted? s job).toList } w.log).write job).charge
          s.billing login stored.status job := by
    unfold books
    rw [hstore, hlog]
    exact (booksOf_chargeEvents ..).trans (congrArg _ (booksOf_overwritten _))
  rw [booksOf_entered fun c hc => (noted?_sound hc).1] at hbooks
  rw [hbooks]
  exact ⟨_, hfiling, .of_write rfl rfl hstatus (isSound_of_filing? hfiling)⟩

/-- Reconciling a job leaves the books of all others as they are. -/
theorem reconcile_books_of_ne (h : w.reconcile s login job = (w', held, .value ()))
    (hid : job.id ≠ id) : w'.books id = w.books id := by
  obtain ⟨w₁, stored, t, -, rfl, hstore, hlog, -⟩ := reconcile_written h (by simp)
  unfold books
  rw [hstore, hlog]
  refine (booksOf_chargeEvents_of_ne _ _ (job.stamped t) hid).trans ?_
  refine (booksOf_overwritten_of_ne (job.stamped t) hid).trans ?_
  exact booksOf_entered_of_ne (fun c hc => by rwa [(noted?_sound hc).1]) _ _

/-- Each call adds the filing of its job, if it is the one that is looked at. -/
theorem filings_append (id : Identifier) (calls : List (World σ × Job)) (call : World σ × Job) :
    filings s id (calls ++ [call]) =
      filings s id calls ++ if call.2.id = id then (call.1.filing? s call.2).toList else [] := by
  unfold filings
  rw [List.filterMap_append]
  congr 1
  by_cases hid : call.2.id = id
  · cases hfiling : call.1.filing? s call.2 <;> simp [hid, hfiling]
  · simp [hid]

/-- What the history takes of the jobs that have been stored. -/
theorem Reconciles.isSome_noted?_iff {kindOf : Identifier → Kind} {calls : List (World σ × Job)}
    (h : Reconciles s kindOf w calls w') {call : World σ × Job} (hcall : call ∈ calls) :
    (call.1.noted? s call.2).isSome = true ↔
      (∃ stored, call.1.store.get? call.2.id = some stored ∧ stored.status ≠ call.2.status) ∧
        call.1.takesEntry s call.2 = true := by
  induction h with
  | refl => cases hcall
  | step h start login job hkind hok ih =>
    rcases List.mem_append.1 hcall with hcall | hcall
    · exact ih hcall
    · obtain rfl := List.mem_singleton.1 hcall
      obtain ⟨_, stored, _, hget, -⟩ := reconcile_written hok (by simp)
      rw [World.isSome_noted?_iff hget]
      obtain ⟨hj, -⟩ := getJob_ok hget
      refine and_congr_left fun _ => ⟨fun hne => ⟨stored, hj, hne⟩, ?_⟩
      rintro ⟨stored', hj', hne⟩
      obtain rfl : stored = stored' := Option.some.inj (hj.symm.trans hj')
      exact hne

/-- The books agree on what has been filed for a job that is stored; what is kept of a job that is
not stored does not change. -/
theorem Reconciles.agree {kindOf : Identifier → Kind} {calls : List (World σ × Job)}
    (h : Reconciles s kindOf w calls w') (id : Identifier) :
    (∀ job, w.store.get? id = some job →
      Books.Agree s.billing (kindOf id) (w.books id) (filings s id calls) (w'.books id)) ∧
    (w.store.get? id = none → w'.books id = w.books id) := by
  induction h with
  | refl =>
    refine ⟨fun job hj => .refl job.status ?_, fun _ => rfl⟩
    exact congrArg (Option.map _) hj
  | @step calls w₁ w₂ held h start login job hkind hok ih =>
    rw [filings_append]
    -- a call is about this job or about another one
    by_cases hid : job.id = id
    · subst hid
      obtain ⟨f, hfiling, hagree'⟩ := reconcile_agree hok
      refine ⟨?_, ?_⟩
      · intro stored hj
        rw [hkind] at hagree'
        rw [if_pos rfl, hfiling]
        exact (ih.1 stored hj).trans hagree'
      · -- a job that was not stored has not been stored since
        intro hnone
        obtain ⟨before, -, hbefore, -⟩ := hagree'.status
        have hstatus : (w₁.books job.id).status = some before := hbefore
        rw [ih.2 hnone] at hstatus
        simp only [books, booksOf, hnone] at hstatus
        cases hstatus
    · have hsame : w₂.books id = (w₁.waitUntil start).books id := reconcile_books_of_ne hok hid
      rw [hsame, if_neg hid, List.append_nil]
      exact ih

end World

/-- **Store, history and billing agree** behind any sequence of jobs that have been stored. For a
stored job, the changes of status that the calls for it have made lead from the status that was
stored at first to the one that is stored now; the history has got what it took of them, and they
have been charged. It took each change whose own entry could be written, so that it has all of them
unless writing to it failed. What is kept of a job that is not stored does not change. -/
theorem reconciles_agree {kindOf : Identifier → Kind} {calls : List (World σ × Job)}
    (h : World.Reconciles s kindOf w calls w') (id : Identifier) :
    (∀ job, w.store.get? id = some job →
      let fs := World.filings s id calls
      ∃ job', w'.store.get? id = some job' ∧
        Status.Leads job.status (Filing.moves fs) job'.status ∧
        Books.Agree s.billing (kindOf id) (w.books id) fs (w'.books id) ∧
        (s.KeepsHistory → (Filing.entries fs).map StatusChange.move = Filing.moves fs)) ∧
    (w.store.get? id = none → w'.books id = w.books id) ∧
    ∀ call ∈ calls, ((call.1.noted? s call.2).isSome = true ↔
      (∃ stored, call.1.store.get? call.2.id = some stored ∧ stored.status ≠ call.2.status) ∧
        call.1.takesEntry s call.2 = true) := by
  refine ⟨?_, (h.agree id).2, fun call hcall => h.isSome_noted?_iff hcall⟩
  intro job hj fs
  have hagree := (h.agree id).1 job hj
  obtain ⟨before, after, hbefore, hafter, hlinks⟩ := hagree.status
  obtain ⟨job', hj', rfl⟩ := Option.map_eq_some_iff.1 hafter
  have hstatus : (w.books id).status = some job.status := congrArg (Option.map _) hj
  obtain rfl : job.status = before := Option.some.inj (hstatus.symm.trans hbefore)
  refine ⟨job', hj', hlinks.leads, hagree, fun hkeeps => ?_⟩
  -- if the history is kept, then every change has taken an entry
  refine Filing.entries_eq_moves hagree.sound ?_
  intro f hf hchange
  obtain ⟨call, hcall, hfiling⟩ := List.mem_filterMap.1 hf
  split at hfiling
  · obtain ⟨stored, hstored, rfl⟩ := Option.map_eq_some_iff.1 hfiling
    refine (h.isSome_noted?_iff hcall).2 ⟨⟨stored, hstored, Filing.isChange_iff.1 hchange⟩, ?_⟩
    rw [World.takesEntry, show (World.fault? s .history _).2 = none from hkeeps _]
    rfl
  · cases hfiling

end

/-- The sample job is stored as running and then as done; both changes are in the history, and the
first one has been charged. -/
theorem sample_reconciles_agree :
    let w := World.seeded ⟨[], 0⟩ Job.sample
    let w₁ := (w.reconcile .willing "owner" Job.sample.running).1
    let w₂ := (w₁.reconcile .willing "owner" Job.sample.done).1
    let fs := World.filings .willing default [(w, Job.sample.running), (w₁, Job.sample.done)]
    Filing.moves fs = [(.ready, .running), (.running, .done)] ∧
      (w₂.books default).history.map StatusChange.move = Filing.moves fs ∧
      (w₂.books default).charges.map Charge.status = [.running] ∧
      Books.Agree ⟨.prod⟩ .deployStarkNetAccount (w.books default) fs (w₂.books default) := by
  intro w w₁ w₂ fs
  refine ⟨by decide +kernel, by decide +kernel, by decide +kernel, ?_⟩
  have h₁ : World.Reconciles .willing (fun _ => .deployStarkNetAccount) w
      [(w, Job.sample.running)] w₁ :=
    World.Reconciles.refl.step 0 "owner" Job.sample.running rfl rfl
  have h : World.Reconciles .willing (fun _ => .deployStarkNetAccount) w
      [(w, Job.sample.running), (w₁, Job.sample.done)] w₂ :=
    h₁.step 0 "owner" Job.sample.done rfl rfl
  obtain ⟨job', -, -, hagree, -⟩ := (reconciles_agree h default).1 Job.sample rfl
  exact hagree

/-- Services whose history fails. -/
def Services.forgetful : Services Outlook :=
  { Services.willing with
    fault? := fun c x => (x, if c = .history then some (.notFound "history" "") else none) }

/-- The sample job is stored as running by a service whose history fails: the history does not lead
to the status that is stored. -/
theorem sample_change_not_noted :
    let w := World.seeded ⟨[], 0⟩ Job.sample
    let w' := (w.reconcile .forgetful "owner" Job.sample.running).1
    World.Reconciles .forgetful (fun _ => .deployStarkNetAccount) w [(w, Job.sample.running)] w' ∧
      (w.books default).status = some .ready ∧ (w'.books default).status = some .running ∧
      ¬Status.Leads .ready ((w'.books default).history.map StatusChange.move) .running := by
  intro w w'
  refine ⟨World.Reconciles.refl.step 0 "owner" Job.sample.running rfl rfl, rfl,
    by decide +kernel, ?_⟩
  have hnone : (w'.books default).history = [] := by decide +kernel
  rw [hnone]
  intro h
  cases h

end WalletTasks
