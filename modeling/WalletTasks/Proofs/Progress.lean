import WalletTasks.Proofs.Rerun

/-!
# What runs of old copies do to stored progress

A run decides by the copy of the job that it is given, and writes over the stored one. A copy is
behind the stored job if it may still be run and the stored job has ended, or has a transaction on
record that the copy does not know. Runs of copies that are not behind keep what is stored: a job
that has ended stays as it is, and a transaction stays on record. A run of a copy that is behind
keeps it only by luck: for each such copy there are surroundings in which it is lost.

* `run_keeps`: one run of a copy that is not behind.
* `keeps_iff_not_behind`: any number of runs, and the loss for every copy that is behind.
-/

namespace WalletTasks

variable {σ : Type}

/-- A copy of a job may still be run, and does not know how far the stored job has come. -/
def Job.Behind (copy stored : Job) : Prop :=
  copy.status.isTerminal = false ∧ (stored.status.isTerminal = true ∨
    ∃ f, stored.task.payload.footprint? = some f ∧
      ∀ g, copy.task.payload.footprint? = some g → g.txId ≠ f.txId)

/-- What has been stored is kept: a job that has ended, and the transaction on record. -/
structure Job.Keeps (before after : Job) : Prop where
  ended : before.status.isTerminal = true → after = before
  footprint : ∀ f, before.task.payload.footprint? = some f →
    ∃ g, after.task.payload.footprint? = some g ∧ g.txId = f.txId

theorem Job.Keeps.refl (job : Job) : job.Keeps job := ⟨fun _ => rfl, fun f h => ⟨f, h, rfl⟩⟩

theorem Job.Keeps.trans {a b c : Job} (h : a.Keeps b) (h' : b.Keeps c) : a.Keeps c := by
  refine ⟨?_, ?_⟩
  · intro hterm
    have hb := h.ended hterm
    rw [← hb] at hterm
    rw [h'.ended hterm, hb]
  · intro f hf
    obtain ⟨g, hg, hgf⟩ := h.footprint f hf
    obtain ⟨k, hk, hkg⟩ := h'.footprint g hg
    exact ⟨k, hk, hkg.trans hgf⟩

/-- One world comes after another one by runs of copies of a job, none of them behind the stored
job when its run starts. -/
inductive TimelyRuns (s : Services σ) (id : Identifier) (w : World σ) : World σ → Prop
  | refl : TimelyRuns s id w w
  | step {w' : World σ} (h : TimelyRuns s id w w') (user : Account) (copy : Job) (start : Nat)
    (hid : copy.id = id)
    (htimely : ∀ stored, w'.store.get? id = some stored → ¬copy.Behind stored) :
    TimelyRuns s id w (run s .standard user copy (w'.waitUntil start)).1

section

variable {s : Services σ} {w w' : World σ} {id : Identifier} {copy stored : Job}

/-- A run with a copy that is not behind keeps what has been reached. -/
theorem run_keeps (hs : s.StoreSucceeds) (user : Account)
    (hj : w.store.get? copy.id = some stored) (htimely : ¬copy.Behind stored) :
    ∃ j, (run s .standard user copy w).1.store.get? copy.id = some j ∧ stored.Keeps j := by
  cases hterm : copy.status.isTerminal with
  | true =>
    rw [run_of_isTerminal user hterm]
    exact ⟨stored, hj, .refl stored⟩
  | false =>
    obtain ⟨j, hj', hcourse⟩ := (run_advances hs user hj).stored
    refine ⟨j, hj', ?_⟩
    rcases hcourse with rfl | hgrows
    · exact .refl j
    refine ⟨?_, ?_⟩
    · intro hended
      exact absurd ⟨hterm, .inl hended⟩ htimely
    · intro f hf
      -- a transaction on record is on the copy as well, since the copy is not behind
      have hknown : ∃ g, copy.task.payload.footprint? = some g ∧ g.txId = f.txId := by
        apply Classical.byContradiction
        intro hno
        refine htimely ⟨hterm, .inr ⟨f, hf, ?_⟩⟩
        intro g hg htx
        exact hno ⟨g, hg, htx⟩
      obtain ⟨g, hg, htx⟩ := hknown
      obtain ⟨k, hk, hgk⟩ := hgrows.payload.footprint g hg
      exact ⟨k, hk, hgk.txId_eq.trans htx⟩

/-- Runs whose copies are not behind keep what has been reached. -/
theorem TimelyRuns.keeps (hs : s.StoreSucceeds) (h : TimelyRuns s id w w')
    (hj : w.store.get? id = some stored) :
    ∃ j, w'.store.get? id = some j ∧ stored.Keeps j := by
  induction h with
  | refl => exact ⟨stored, hj, .refl stored⟩
  | step h user copy start hid htimely ih =>
    obtain ⟨j, hj', hkeeps⟩ := ih
    subst hid
    obtain ⟨k, hk, hkeeps'⟩ := run_keeps (w := World.waitUntil _ start) hs user hj' (htimely j hj')
    exact ⟨k, hk, hkeeps.trans hkeeps'⟩

end

/-! ## Copies that are behind -/

/-- Services that bill every kind and do not answer, at a fixed time. -/
def Services.silent (t : Instant) : Services Unit where
  limits := .standard
  billing := ⟨.local⟩
  wallClock _ := t
  respond _ x := (x, ⟨0, .crash "no answer"⟩)
  funds _ x := (x, .error (.unavailable "no answer"))
  accept _ x := (x, .value ())
  draw least _ x := (x, least)
  patience x := (x, none)
  lag x := (x, 0)
  fault? _ x := (x, none)

theorem Services.storeSucceeds_silent (t : Instant) : (Services.silent t).StoreSucceeds :=
  fun _ _ => rfl

/-- There is always another time. -/
theorem exists_instant_ne (t : Instant) : ∃ u : Instant, u ≠ t := by
  by_cases h : Instant.epoch = t
  · refine ⟨⟨1, 0, 0, by decide, by decide, by decide, by decide⟩, ?_⟩
    rw [← h]
    decide
  · exact ⟨_, h⟩

/-- A run that cannot ask for the funds stores the copy that it was given as failed. -/
theorem run_silent (t : Instant) (user : Account) {copy stored : Job} (hid : copy.id = stored.id)
    (hterm : copy.status.isTerminal = false) :
    ∃ e, (run (.silent t) .standard user copy (.seeded () stored)).1.store.get? copy.id =
      some ((copy.failed e).stamped t) := by
  -- every kind is billed, so that the funds are asked for before anything else
  have hacq : Leases.none.acquire? copy.id = some ⟨[⟨copy.id, false⟩]⟩ := rfl
  have hget : (World.seeded () stored).store.get? copy.id = some stored := by
    rw [hid]
    exact get?_seeded () stored
  obtain ⟨w', result, heq, hst, -⟩ := failRun_eq (s := .silent t)
    (w := ⟨0, .insert .empty stored, ⟨[⟨copy.id, false⟩]⟩, (),
      [.fundsAsked user.login (.error (.unavailable "no answer"))]⟩)
    (Services.storeSucceeds_silent t) user hget (.funds (.unavailable "no answer"))
  refine ⟨.funds (.unavailable "no answer"), ?_⟩
  unfold run beginRun
  rw [hterm]
  simp only [Bool.false_eq_true, if_false, World.seeded, hacq, openRun, executor_standard]
  show (World.release (failRun (Services.silent t) user copy _ _).1 copy.id).store.get? copy.id = _
  rw [heq]
  exact hst.get?

/-- Such a run of a copy that is behind loses what is stored. -/
theorem exists_run_not_keeps {copy stored : Job} (hid : copy.id = stored.id)
    (hbehind : copy.Behind stored) (user : Account) :
    ∃ t j, (run (.silent t) .standard user copy (.seeded () stored)).1.store.get? copy.id = some j ∧
      ¬stored.Keeps j := by
  -- a job that has ended is stored again at another time, whatever else becomes of it
  obtain ⟨t, ht⟩ := exists_instant_ne stored.updatedAt
  obtain ⟨e, hget⟩ := run_silent t user hid hbehind.1
  refine ⟨t, _, hget, ?_⟩
  intro hkeeps
  rcases hbehind.2 with hended | ⟨f, hf, hunknown⟩
  · have := hkeeps.ended hended
    exact ht (congrArg Job.updatedAt this)
  · obtain ⟨g, hg, htx⟩ := hkeeps.footprint f hf
    exact hunknown g hg htx

/-- **Stored progress is kept by runs of copies that are not behind, and by no others.** Along any
runs of copies that are not behind, a job that has ended never changes, and a transaction on record
is neither removed nor replaced. And a copy is behind exactly if there is a run of it that loses
what is stored. -/
theorem keeps_iff_not_behind (id : Identifier) (stored : Job) (user : Account) :
    (∀ (σ : Type) (s : Services σ) (w w' : World σ), s.StoreSucceeds →
      w.store.get? id = some stored → TimelyRuns s id w w' →
      ∃ j, w'.store.get? id = some j ∧ stored.Keeps j) ∧
    ∀ copy : Job, copy.id = stored.id →
      ((∀ (σ : Type) (s : Services σ) (w : World σ), s.StoreSucceeds →
        w.store.get? copy.id = some stored →
        ∃ j, (run s .standard user copy w).1.store.get? copy.id = some j ∧ stored.Keeps j) ↔
      ¬copy.Behind stored) := by
  refine ⟨fun σ s w w' hs hj h => h.keeps hs hj, ?_⟩
  intro copy hid
  refine ⟨?_, fun htimely σ s w hs hj => run_keeps hs user hj htimely⟩
  intro h hbehind
  obtain ⟨t, j, hget, hlost⟩ := exists_run_not_keeps hid hbehind user
  obtain ⟨k, hk, hkeeps⟩ := h Unit (.silent t) (.seeded () stored)
    (Services.storeSucceeds_silent t) (by rw [hid]; exact get?_seeded () stored)
  rw [hk] at hget
  cases hget
  exact hlost hkeeps

/-- Two runs of the sample job keep what is stored, and no run of a copy from before does so in all
surroundings once the job is done. -/
theorem sample_keeps_iff_not_behind :
    (∃ j, ((run .willing .standard .sample .sample (.seeded .stopped .sample)).1.store.get?
        default = some j ∧ Job.sample.Keeps j)) ∧
      ¬∀ (σ : Type) (s : Services σ) (w : World σ), s.StoreSucceeds →
        w.store.get? default = some Job.sample.done →
        ∃ j, (run s .standard .sample .sample w).1.store.get? default = some j ∧
          Job.sample.done.Keeps j := by
  refine ⟨?_, ?_⟩
  · refine (keeps_iff_not_behind default .sample .sample).1 Outlook .willing
      (.seeded .stopped .sample) _ Services.storeSucceeds_willing (get?_seeded _ .sample)
      (.step .refl .sample .sample 0 rfl ?_)
    intro stored hstored hbehind
    cases (get?_seeded _ .sample).symm.trans hstored
    rcases hbehind.2 with h | ⟨f, hf, -⟩
    · cases h
    · cases hf
  · intro h
    exact ((keeps_iff_not_behind default Job.sample.done .sample).2 .sample rfl).1 h
      ⟨rfl, .inl rfl⟩

/-- The sample job is done with its transaction on record. A second run that is given the copy from
before the first one, and is asked to stop at once, loses both. -/
theorem sample_lost_by_run_of_old_copy :
    let progress (w : World Outlook) :=
      (w.store.get? default).map fun job => (job.status, job.task.payload.footprint?.isSome)
    let w := (run .willing .standard .sample .sample
      (.seeded ⟨List.replicate 8 none ++ [some 0], 0⟩ .sample)).1
    progress w = some (.done, true) ∧
      progress (run .willing .standard .sample .sample w).1 = some (.error, false) := by
  decide +kernel

end WalletTasks
