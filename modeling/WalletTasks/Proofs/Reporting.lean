import WalletTasks.Proofs.Dropping
import WalletTasks.Proofs.Passing

/-!
# Status, cause of failure and result agree

A job is run over and over, whatever the services answer. It is stored with a cause of failure
exactly if it has failed, and what a run reports is what it has stored; only a run that finds
another one at work is refused, and leaves everything as it is. Each change of status that is
written to the history is an allowed one, if the store answers in time when it writes the job: a run
that is dropped while the job is written as done goes on to store it as failed.

* `Books.Reaches.onlyAllowed`: the history of a run.
* `rerun_settles`: what a run reports.
* `reruns_accord`: the agreement behind any sequence of runs.
-/

namespace WalletTasks

variable {σ : Type}

/-! ## The history of a run -/

namespace Books

variable {p : BillingPolicy} {kind : Kind} {b b' : Books} {before after : Status}

/-- How often a job has been stored as done. -/
def completions (b : Books) : Nat := b.written.count .done

/-- A job that gets to being done has been stored as such. -/
theorem Agree.completions_lt {fs : List Filing} (h : Agree p kind b fs b')
    (hbefore : b.status = some before) (hne : before ≠ .done) (hdone : b'.status = some .done) :
    b.completions < b'.completions := by
  obtain ⟨before', after, hbefore', hafter, hlinks⟩ := h.status
  obtain rfl : before' = before := Option.some.inj (hbefore'.symm.trans hbefore)
  obtain rfl : after = .done := Option.some.inj (hafter.symm.trans hdone)
  have hmem : Status.done ∈ fs.map Filing.after := hlinks.eq_or_mem.resolve_left hne.symm
  unfold completions
  rw [h.written, List.count_append]
  have := List.count_pos_iff.2 hmem
  omega

theorem Agree.completions_le {fs : List Filing} (h : Agree p kind b fs b') :
    b.completions ≤ b'.completions := by
  unfold completions
  rw [h.written, List.count_append]
  omega

/-- The history has only got entries of allowed changes since. -/
def OnlyAllowed (kind : Kind) (b b' : Books) : Prop :=
  ∃ entries, b'.history = b.history ++ entries ∧
    ∀ c ∈ entries, c.before.mayMove kind c.after = true

/-- Entries of allowed changes follow one another. -/
theorem OnlyAllowed.trans {b'' : Books} (h : OnlyAllowed kind b b') (h' : OnlyAllowed kind b' b'') :
    OnlyAllowed kind b b'' := by
  obtain ⟨entries, hhistory, hall⟩ := h
  obtain ⟨entries', hhistory', hall'⟩ := h'
  exact ⟨entries ++ entries', by rw [hhistory', hhistory, List.append_assoc],
    List.forall_mem_append.2 ⟨hall, hall'⟩⟩

/-- An allowed change may be noted, and so may no change. -/
theorem onlyAllowed_note {job : Job} {t : Instant}
    (hmove : before = job.status ∨ before.mayMove kind job.status = true) :
    OnlyAllowed kind b (b.note before job t) := by
  unfold OnlyAllowed note
  split
  · exact ⟨[], by simp, by simp⟩
  · rename_i hne
    exact ⟨_, rfl, by simpa using hmove.resolve_left hne⟩

/-- Books that are passed on get entries of allowed changes only. -/
theorem Passes.onlyAllowed (h : Passes p kind b b') : OnlyAllowed kind b b' := by
  obtain ⟨fs, hagree, hall⟩ := h
  refine ⟨_, hagree.history, fun c hc => ?_⟩
  have hmem : c.move ∈ Filing.moves fs := by
    rw [← hagree.entries_eq hall]
    exact List.mem_map_of_mem hc
  exact mayMove_of_mem_moves hall hmem

/-- A write that breaks off gets entries of allowed changes only. -/
theorem Cut.onlyAllowed (h : Cut kind b b') : OnlyAllowed kind b b' := by
  cases h with
  | unnoted => exact ⟨[], by simp, by simp⟩
  | noted t hstatus hmove => exact onlyAllowed_note hmove
  | written t hstatus hmove => exact onlyAllowed_note hmove

/-- **The history of a run**: it gets entries of allowed changes only, unless the run was dropped
once it had stored the job as done. -/
theorem Reaches.onlyAllowed {dropped : Bool} (h : Reaches p kind b dropped b')
    (hbefore : b.status = some before) (hne : before ≠ .done)
    (hkept : dropped = true → b'.completions = b.completions) : OnlyAllowed kind b b' := by
  cases h with
  | kept h => exact h.onlyAllowed
  | @dropped b₁ b₂ login last job t h hcut hstatus hkind herror =>
    have hcount : b₂.completions ≤ b.completions := by
      rw [← hkept rfl]
      simp [completions, store, charge, write, note, List.count_append]
    have hlast : last ≠ .done := by
      rintro rfl
      obtain ⟨moves, hagree, -⟩ := h
      have hle := hagree.completions_le
      -- cut off before the history, behind it, or behind the update
      cases hcut with
      | unnoted =>
        have := hagree.completions_lt hbefore hne hstatus
        omega
      | noted =>
        have := hagree.completions_lt hbefore hne hstatus
        have : b₁.completions ≤ b.completions := hcount
        omega
      | @written _ cut =>
        have hdone : cut.status = .done := Option.some.inj hstatus
        simp only [completions, write, note, List.count_append, hdone] at hcount hle
        simp at hcount
        omega
    have hlast' : last = job.status ∨ last.mayMove kind job.status = true := by
      rw [herror]
      cases last with
      | done => exact absurd rfl hlast
      | error => exact .inl rfl
      | ready | running | retry => exact .inr rfl
    exact (h.onlyAllowed.trans hcut.onlyAllowed).trans (onlyAllowed_note hlast')

end Books

/-! ## Runs one after the other -/

/-- A job is stored with a cause of failure exactly if it has failed. -/
def Job.IsSound (job : Job) : Prop := job.error.isSome = true ↔ job.status = .error

/-- What a run does to a stored job, and what it reports. If the job had not ended, the run fails
with a cause exactly if the job is then stored as failed with the text of this cause, unless a
service crashes. -/
structure Job.Settles (before : Job) (result : Except Fault Job) (after : Job) : Prop where
  returned : ∀ job, result = .ok job → after = job
  failed_iff : before.status.isTerminal = false → (∀ message, result ≠ .error (.crash message)) →
    ∀ text, (∃ e, result = .error (.error e) ∧ e.message = text) ↔
      after.status = .error ∧ after.error = some text

section

variable {s : Services σ} {id : Identifier} {w w' : World σ} {kind : Kind} {job : Job}

/-- What a run reports settles the job. -/
theorem Reports.settles {before : Job} {result : Except Fault Job} (h : Reports job result) :
    before.Settles result job := by
  rcases result with (e | message) | t
  · obtain ⟨hstatus, herror⟩ := h
    refine ⟨fun t ht => ?_, fun _ _ text => ⟨?_, ?_⟩⟩
    · cases ht
    · rintro ⟨e', he, rfl⟩
      cases he
      exact ⟨hstatus, herror⟩
    · rintro ⟨-, htext⟩
      exact ⟨e, rfl, Option.some.inj (herror.symm.trans htext)⟩
  · refine ⟨fun t ht => ?_, fun _ hcrash => absurd rfl (hcrash message)⟩
    cases ht
  · obtain ⟨rfl, hne⟩ := h
    refine ⟨fun t ht => Except.ok.inj ht, fun _ _ text => ⟨?_, fun h => absurd h.1 hne⟩⟩
    rintro ⟨e, he, -⟩
    cases he

/-- **One more run**: it settles the stored job, which is sound behind it as well. -/
theorem rerun_settles (hs : s.StoreSucceeds) (hj : w.store.get? id = some job)
    (hsound : job.IsSound) (hfree : w.leases.isLive id = false) (turn : Turn) :
    (w.rerun s id turn).1.leases.isLive id = false ∧
      ∃ job', (w.rerun s id turn).1.store.get? id = some job' ∧ job'.task.kind = job.task.kind ∧
        job'.IsSound ∧ job.Settles (w.rerun s id turn).2 job' := by
  obtain rfl := Store.get?_id hj
  obtain ⟨hrerun, -⟩ := World.rerun_of_get? (s := s) turn hj
  cases hterm : job.status.isTerminal with
  | true =>
    obtain ⟨hsame, -⟩ := World.rerun_of_isTerminal (s := s) hj hterm turn
    rw [hsame]
    refine ⟨hfree, job, hj, rfl, hsound, fun t ht => Except.ok.inj ht, ?_⟩
    intro hopen
    rw [hterm] at hopen
    cases hopen
  | false =>
    -- a job that has not ended has no cause of failure yet
    have hnone : job.error = none := by
      cases herror : job.error with
      | none => rfl
      | some text =>
        have hfailed := hsound.1 (by rw [herror]; rfl)
        rw [hfailed] at hterm
        cases hterm
    rw [hrerun]
    obtain ⟨job', hget, hkind, -, hreports, hsound'⟩ :=
      run_ends (w := w.waitUntil turn.start) hs turn.user hj hterm hfree
    exact ⟨isLive_run .standard turn.user hfree, job', hget, hkind, hsound' hnone, hreports.settles⟩

/-- A run that is dropped has not stored the job as done, if the store comes back from writing. -/
theorem completions_rerun (hj : w.store.get? id = some job) {turn : Turn}
    (hreturns : w.isRerunDroppedAt Request.isStore s id turn = false)
    (hdropped : w.isRerunDropped s id turn = true) :
    ((w.rerun s id turn).1.books id).completions = (w.books id).completions := by
  obtain ⟨hrerun, hdropped'⟩ := World.rerun_of_get? (s := s) turn hj
  rw [hdropped'] at hdropped
  simp only [World.isRerunDroppedAt, hj] at hreturns
  obtain ⟨events, hlog, hevents⟩ := run_completes hreturns hdropped id
  rw [hrerun]
  simp only [Books.completions, World.books, booksOf, hlog, traceOf_append, List.count_append]
  have hnone : (traceOf (Event.written? id) events).count .done = 0 := by
    rw [List.count_eq_zero, traceOf, List.mem_filterMap]
    rintro ⟨e, he, hdone⟩
    exact hevents e (List.mem_reverse.1 he) hdone
  rw [hnone]
  rfl

/-- Runs that follow one another leave the job sound, and nothing works on it. -/
theorem reruns_sound (hs : s.StoreSucceeds) (hj : w.store.get? id = some job)
    (hsound : job.IsSound) (hfree : w.leases.isLive id = false) (turns : List Turn) :
    (w.reruns s id turns).leases.isLive id = false ∧
      ∃ job', (w.reruns s id turns).store.get? id = some job' ∧ job'.IsSound := by
  induction turns generalizing w job with
  | nil => exact ⟨hfree, job, hj, hsound⟩
  | cons turn turns ih =>
    obtain ⟨hfree₁, job₁, hj₁, -, hsound₁, -⟩ := rerun_settles hs hj hsound hfree turn
    exact ih hj₁ hsound₁ hfree₁

/-- A run notes allowed changes only, unless it is dropped while it writes the job. -/
theorem rerun_onlyAllowed (hs : s.StoreSucceeds) (hj : w.store.get? id = some job) (turn : Turn)
    (hreturns : w.isRerunDroppedAt Request.isStore s id turn = false) :
    Books.OnlyAllowed job.task.kind (w.books id) ((w.rerun s id turn).1.books id) := by
  obtain ⟨_, -, -, hreaches⟩ := rerun_reaches hs hj turn
  have hstatus : (w.books id).status = some job.status := congrArg (Option.map _) hj
  by_cases hdone : job.status = .done
  · -- the run of a job that is done changes nothing
    obtain ⟨hsame, -⟩ := World.rerun_of_isTerminal (s := s) hj (by rw [hdone]; rfl) turn
    rw [hsame]
    exact ⟨[], (List.append_nil _).symm, by simp⟩
  · exact hreaches.onlyAllowed hstatus hdone fun hdropped => completions_rerun hj hreturns hdropped

/-- **Runs that follow one another note allowed changes only**, unless one of them is dropped while
it writes the job. -/
theorem reruns_onlyAllowed (hs : s.StoreSucceeds) (hj : w.store.get? id = some job)
    (turns : List Turn) (hreturns : w.Answers Request.isStore s id turns) :
    Books.OnlyAllowed job.task.kind (w.books id) ((w.reruns s id turns).books id) := by
  induction turns generalizing w job with
  | nil => exact ⟨[], (List.append_nil _).symm, by simp⟩
  | cons turn turns ih =>
    have hfirst := rerun_onlyAllowed hs hj turn hreturns.1
    obtain ⟨job₁, hj₁, hkind, -⟩ := rerun_reaches hs hj turn
    have hrest := ih hj₁ hreturns.2
    rw [hkind] at hrest
    exact hfirst.trans hrest

/-- A run of a job that another run works on is refused. -/
theorem World.rerun_of_isLive (hj : w.store.get? id = some job)
    (hopen : job.status.isTerminal = false) (hlive : w.leases.isLive id = true) (turn : Turn) :
    w.rerun s id turn = (w.waitUntil turn.start, .error (.error (.alreadyRunning id))) := by
  obtain rfl := Store.get?_id hj
  obtain ⟨hrerun, -⟩ := World.rerun_of_get? (s := s) turn hj
  rw [hrerun]
  exact (run_of_isLive (w := w.waitUntil turn.start) .standard turn.user hopen hlive).1

/-- While a run works on a job, other runs of it leave everything as it is. -/
theorem World.reruns_of_isLive (hj : w.store.get? id = some job)
    (hopen : job.status.isTerminal = false) (hlive : w.leases.isLive id = true)
    (turns : List Turn) :
    (w.reruns s id turns).store = w.store ∧ (w.reruns s id turns).leases = w.leases := by
  induction turns generalizing w with
  | nil => exact ⟨rfl, rfl⟩
  | cons turn turns ih =>
    have hrest : w.reruns s id (turn :: turns) = (w.waitUntil turn.start).reruns s id turns := by
      show (w.rerun s id turn).1.reruns s id turns = _
      rw [rerun_of_isLive hj hopen hlive turn]
    rw [hrest]
    exact ih (w := w.waitUntil turn.start) hj hlive

/-- **Status, cause of failure and result agree.** A stored job has neither ended nor failed. If no
run works on it, then behind any sequence of runs it is stored with a cause of failure exactly if it
has failed, and the next run gives back the job as it is stored then, or fails with the cause that
it is stored with. If a run works on it, then all other runs are refused, and leave everything as it
is. The history gets entries of allowed changes only, unless one of the runs is dropped while it
writes the job. All that is asked of the store is that it does not fail. -/
theorem reruns_accord (hs : s.StoreSucceeds) (hj : w.store.get? id = some job)
    (hopen : job.status.isTerminal = false) (hnone : job.error = none) (turns : List Turn) :
    let w' := w.reruns s id turns
    (w.leases.isLive id = false → ∃ job', w'.store.get? id = some job' ∧ job'.IsSound ∧
      ∀ turn, ∃ job'', (w'.rerun s id turn).1.store.get? id = some job'' ∧ job''.IsSound ∧
        job'.Settles (w'.rerun s id turn).2 job'') ∧
    (w.leases.isLive id = true → w'.store = w.store ∧
      ∀ turn, w'.rerun s id turn =
        (w'.waitUntil turn.start, .error (.error (.alreadyRunning id)))) ∧
    (w.Answers Request.isStore s id turns →
      ∃ entries, w'.store.historyOf id = w.store.historyOf id ++ entries ∧
        ∀ c ∈ entries, c.before.mayMove job.task.kind c.after = true) := by
  intro w'
  refine ⟨fun hfree => ?_, fun hlive => ?_, reruns_onlyAllowed hs hj turns⟩
  · have hsound : job.IsSound := by
      rw [Job.IsSound, hnone]
      refine ⟨nofun, fun herror => ?_⟩
      rw [herror] at hopen
      cases hopen
    obtain ⟨hfree', job', hget, hsound'⟩ := reruns_sound hs hj hsound hfree turns
    refine ⟨job', hget, hsound', fun turn => ?_⟩
    obtain ⟨-, job'', hget'', -, hsound'', hsettles⟩ := rerun_settles hs hget hsound' hfree' turn
    exact ⟨job'', hget'', hsound'', hsettles⟩
  · obtain ⟨hstore, hleases⟩ := World.reruns_of_isLive (s := s) hj hopen hlive turns
    refine ⟨hstore, fun turn => ?_⟩
    have hj' : w'.store.get? id = some job := by rw [hstore, hj]
    have hlive' : w'.leases.isLive id = true := by rw [hleases, hlive]
    exact World.rerun_of_isLive hj' hopen hlive' turn

end

/-- The sample job is stopped once, and its next run reports that it is done. -/
theorem sample_reruns_accord :
    let w := World.seeded .stopped .sample
    let turn : Turn := ⟨.sample, 0⟩
    let w' := w.reruns .willing default [turn]
    (w'.store.historyOf default).map StatusChange.move = [(.ready, .running)] ∧
      (w'.rerun .willing default turn).2.toOption.map Job.status = some .done ∧
      (∃ job', w'.store.get? default = some job' ∧ job'.IsSound ∧
        ∀ turn, ∃ job'', (w'.rerun .willing default turn).1.store.get? default = some job'' ∧
          job''.IsSound ∧ job'.Settles (w'.rerun .willing default turn).2 job'') ∧
      w.Answers Request.isStore .willing default [turn] ∧
      ∃ entries, w'.store.historyOf default = w.store.historyOf default ++ entries ∧
        ∀ c ∈ entries, c.before.mayMove .deployStarkNetAccount c.after = true := by
  intro w turn w'
  have hanswers : w.Answers Request.isStore .willing default [turn] := ⟨by decide +kernel, trivial⟩
  obtain ⟨hsettles, -, hallowed⟩ :=
    reruns_accord Services.storeSucceeds_willing (get?_seeded Outlook.stopped .sample) rfl rfl
      [turn]
  exact ⟨by decide +kernel, by decide +kernel, hsettles rfl, hanswers, hallowed hanswers⟩

/-- A run of the sample job is refused while another one works on it, and fails with a cause that is
not stored. A run that is dropped while the store has written that the job is done, but has not
answered yet, stores it as failed. -/
theorem sample_runs_disagree :
    let w := World.seeded (hourAfter 11) .sample
    let busy : World (List Nat) :=
      { w with store := w.store.insert Job.sample.running, leases := ⟨[⟨default, false⟩]⟩ }
    let refused := busy.rerun .sluggish default ⟨.sample, 0⟩
    Services.sluggish.StoreSucceeds ∧
      (refused.2 = .error (.error (.alreadyRunning default)) ∧
        (refused.1.books default).status = some .running) ∧
      (((w.rerun .sluggish default ⟨.sample, 0⟩).1.store.historyOf default).map
          StatusChange.move = [(.ready, .running), (.running, .done), (.done, .error)] ∧
        Status.mayMove .deployStarkNetAccount .done .error = false) :=
  ⟨Services.storeSucceeds_sluggish, ⟨rfl, by decide +kernel⟩, by decide +kernel, by decide⟩

end WalletTasks
