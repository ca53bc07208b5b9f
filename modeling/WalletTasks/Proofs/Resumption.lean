import WalletTasks.Proofs.Decision

/-!
# A job may be run in one go or in many

A job whose runs are interrupted while they wait for its transaction, and that is run again and
again until the transaction is decided, comes out as if one run had waited all the time: with the
same record, the same submissions, the same history, the same transactions written for audit and the
same charges, but for the times. The services have to answer the same whenever they are asked, polls
apart.

* `run_submits`: a run of a ready job submits it, and waits.
* `run_waits`: a run of a job that awaits its transaction changes nothing short of a decision.
* `chronicle_resumed_eq`: both ways come to the same.
-/

namespace WalletTasks

variable {σ : Type}

section

variable {s : Services σ} {w w' : World σ} {job held stored : Job} {f : Footprint}
  {c : Chronicle} {decided : TransactionState → Chronicle} {base : List Poll}

/-- **A run of a job that awaits its transaction.** -/
theorem run_waits (hs : s.StoreSucceeds) (hsteady : s.Steady) (user : Account)
    (hj : w.store.get? job.id = some job) (hawaits : job.Awaits f)
    (hdescribed : job.IsDescribed) {action : Action} {a : Executor.Attempt}
    {settings : NetworkSettings} (hpayload : job.task.payload = .chain action (some f))
    (hreached : Executor.Attempt.Reached s job.task.kind action job a settings) :
    Ends job.bare (w.chronicle job.id)
      ((w.chronicle job.id).conclude s.billing user.login a f job.bare)
      (traceOf Event.poll? w.log) (isDropped s .standard user job w)
      (run s .standard user job w).1.store (run s .standard user job w).1.log
      (run s .standard user job w).2 := by
  refine run_of_meets (P := Ends job.bare (w.chronicle job.id)
    ((w.chronicle job.id).conclude s.billing user.login a f job.bare)
    (traceOf Event.poll? w.log)) hs ?_ ?_ ?_ ?_ ?_
  · intro hterm
    rw [hawaits.isTerminal] at hterm
    cases hterm
  · intro _
    exact .broken [] (by simp) (by simp)
  · intro events message hgate
    refine .broken [] (by simp) ?_
    rw [traceOf_append, hgate.silent.poll]
  · intro events e w' _ hgate hstore hlog
    refine failsTo_broken [] (by simp) ?_ (by rw [hstore]; exact hj)
    rw [hlog, traceOf_append, hgate.silent.poll]
  intro events w' r _ hgate hstore hlog huser _ _
  have hj' : w'.store.get? job.id = some job := by rw [hstore, hj]
  have hpolls' : traceOf Event.poll? w'.log = traceOf Event.poll? w.log :=
    World.traceOf_of_silent hlog hgate.silent.poll
  have hchronicle' : w'.chronicle job.id = w.chronicle job.id :=
    World.chronicle_quiet job.id hstore hlog hgate.silent.request hgate.silent.charge
  rw [Executor.standard_of_chain hpayload]
  refine Executor.meets_lifecycle hs hj' hawaits.isTerminal hpayload ?_ ?_ ?_
  · intro w'' held h hst hh
    obtain rfl := hawaits.eq_dropped hh
    obtain ⟨stored, hget⟩ := hst.exists_get? hj'
    exact closesHalted_of_dropped hget
  · intro w₁ w'' t₁ t₂ events' h hst hstore' hlog' hx
    refine closesHalted_broken hx.isRetryable ?_ (hst.get?_of_store_eq hstore')
    rw [World.traceOf_of_silent hlog' hx.poll,
      hst.traceOf_eq Event.poll?_notOfStoring, hpolls']
  · intro w₁ w₂ t₁ t₂ events' a' settings' hst hstore' hlog' ho hreached'
    have hself : job.running = job := Job.running_eq_self hawaits.status_eq
    rw [hself] at hst hreached'
    rw [hself]
    have hsame : Executor.Attempt.Reached s job.task.kind action job a' settings' :=
      hreached'.congr rfl rfl
    obtain ⟨rfl, -⟩ := hsame.unique hsteady hreached
    have hget := hst.get?_of_store_eq hstore'
    obtain ⟨hpolls₂, hchronicle₂⟩ := ho.after_stores hst hstore' hlog'
    -- the job is stored as it has been stored before, but for the time
    have hc : w₂.chronicle (job.stamped t₂).id = w.chronicle job.id := by
      have hrecord : (w'.chronicle job.id).record = some job.bare.described := by
        show (w'.store.get? job.id).map Job.timeless = _
        rw [hj', Option.map_some, Job.timeless_of_isDescribed _ hdescribed]
      rw [← hchronicle', ← Chronicle.persist_self s.billing r.user.login hrecord]
      exact hchronicle₂
    have hawaits₂ : (job.stamped t₂).Awaits f :=
      ⟨hawaits.status_eq, hawaits.footprint, hawaits.incomplete⟩
    have hrest := Executor.conclude_ends (r := r) hs a' (r.info s.limits).pollInterval hget
      hawaits₂ (job.isDescribed_stamped t₂)
    rw [hc, hpolls₂, hpolls', huser, Job.bare_stamped] at hrest
    exact hrest

/-- How a run of a job that has not been submitted ends: it breaks off before it has heard anything
of a transaction, it is dropped, or it submits the job on some terms and goes on from there. -/
def Undertakes (s : Services σ) (login : String) (job : Job) (action : Action) (c : Chronicle)
    (base : List Poll) (dropped : Bool) (st : Store) (log : List Event)
    (result : Except Fault Job) : Prop :=
  ((∃ fault, result = .error fault) ∧ traceOf Event.poll? log = base) ∨
    ∃ a t, LeadsTo s action job a t ∧
      Ends (job.bare.underway t) (c.undertake s.billing login a t job.bare)
        ((c.undertake s.billing login a t job.bare).conclude s.billing login a
          (t.footprint default) (job.bare.underway t)) base dropped st log result

/-- A run that fails before it has polled has undertaken nothing that is decided. -/
theorem failsTo_undertakes {login : String} {action : Action} {dropped : Bool} {e : TaskError}
    (hpolls : traceOf Event.poll? w.log = base) (hj : w.store.get? held.id = some stored) :
    FailsTo (Undertakes s login job action c base) s login dropped w held e := by
  refine ⟨stored, hj, ?_⟩
  intro w' t result hst hresult
  refine .inl ⟨?_, ?_⟩
  · rcases hresult with rfl | ⟨-, message, rfl⟩
    · exact ⟨_, rfl⟩
    · exact ⟨_, rfl⟩
  · rw [hst.traceOf_eq Event.poll?_notOfStoring, hpolls]

theorem closesHalted_undertakes {r : Session} {action : Action} {h : Halt}
    (hretry : h.isRetryable = false)
    (hpolls : traceOf Event.poll? w.log = base) (hj : w.store.get? held.id = some stored) :
    ClosesHalted (Undertakes s r.user.login job action c base) s r w held h := by
  refine ⟨?_, fun _ => failsTo_undertakes hpolls hj⟩
  intro htrue
  rw [hretry] at htrue
  cases htrue

/-- **A run of a job that has not been submitted.** -/
theorem run_submits (hs : s.StoreSucceeds) (user : Account)
    (hj : w.store.get? job.id = some job) (hterm : job.status.isTerminal = false)
    {action : Action} (hpayload : job.task.payload = .chain action none) :
    Undertakes s user.login job action (w.chronicle job.id) (traceOf Event.poll? w.log)
      (isDropped s .standard user job w) (run s .standard user job w).1.store
      (run s .standard user job w).1.log (run s .standard user job w).2 := by
  refine run_of_meets (P := Undertakes s user.login job action (w.chronicle job.id)
    (traceOf Event.poll? w.log)) hs ?_ ?_ ?_ ?_ ?_
  -- before the program nothing has been polled, and nothing is in the chronicle
  · intro htrue
    rw [hterm] at htrue
    cases htrue
  · intro _
    exact .inl ⟨⟨_, rfl⟩, rfl⟩
  · intro events message hgate
    refine .inl ⟨⟨_, rfl⟩, ?_⟩
    rw [traceOf_append, hgate.silent.poll, List.append_nil]
  · intro events e w' _ hgate hstore hlog
    refine failsTo_undertakes ?_ (by rw [hstore]; exact hj)
    exact World.traceOf_of_silent hlog hgate.silent.poll
  intro events w' r _ hgate hstore hlog huser _ _
  have hj' : w'.store.get? job.id = some job := by rw [hstore, hj]
  have hpolls' : traceOf Event.poll? w'.log = traceOf Event.poll? w.log :=
    World.traceOf_of_silent hlog hgate.silent.poll
  have hchronicle' : w'.chronicle job.id = w.chronicle job.id :=
    World.chronicle_quiet job.id hstore hlog hgate.silent.request hgate.silent.charge
  rw [Executor.standard_of_chain hpayload, ← huser]
  refine Executor.meets_lifecycle hs hj' hterm hpayload ?_ ?_ ?_
  · intro w'' held h hst hh
    have hpolls'' := (hst.traceOf_eq Event.poll?_notOfStoring).trans hpolls'
    obtain ⟨stored, hget⟩ := hst.exists_get? hj'
    exact closesHalted_undertakes hh.isRetryable hpolls'' hget
  · intro w₁ w'' t₁ t₂ events' h hst hstore' hlog' hx
    refine closesHalted_undertakes hx.isRetryable ?_ (hst.get?_of_store_eq hstore')
    rw [World.traceOf_of_silent hlog' hx.poll,
      hst.traceOf_eq Event.poll?_notOfStoring, hpolls']
  · intro w₁ w₂ t₁ t₂ events' a settings hst hstore' hlog' ho hreached
    have hreached₀ : Executor.Attempt.Reached s job.task.kind action job a settings :=
      hreached.congr rfl rfl
    have hget₂ := hst.get?_of_store_eq hstore'
    obtain ⟨hpolls₀, hchronicle₀⟩ := ho.after_stores hst hstore' hlog'
    have hpolls₂ := hpolls₀.trans hpolls'
    have hchronicle₂ : w₂.chronicle job.id = (w.chronicle job.id).persist s.billing r.user.login
        job.status job.bare.running := by
      rw [← hchronicle']
      exact hchronicle₀
    simp only [Option.isNone_none, if_true]
    rw [Routine.meets_bind]
    refine Executor.meets_submit hs hget₂ rfl ?_ ?_
    · intro w₃ held j h hretry hpolls hget
      exact closesHalted_undertakes hretry (hpolls.trans hpolls₂) hget
    · intro w₃ t now now' hagreed _ hpolls hget hchronicle
      have hc : w₃.chronicle job.id =
          (w.chronicle job.id).undertake s.billing r.user.login a t job.bare := by
        rw [Job.bare_stamped, Job.bare_running] at hchronicle
        exact hchronicle.trans (congrArg _ hchronicle₂)
      have hends := Executor.conclude_ends (r := r) (w := w₃) hs a (r.info s.limits).pollInterval
        hget (Job.awaits_submitted_running hpayload) (Job.isDescribed_stamped _ now')
      refine Routine.meets_closes_mono ?_ hends
      intro dropped st log result h
      rw [Job.bare_submitted_running, hpolls, hpolls₂] at h
      refine .inr ⟨a, t, ⟨settings, hreached₀, hagreed⟩, ?_⟩
      rw [← hc]
      exact h

/-- **A run of a job that has been submitted by an earlier run.** -/
theorem run_resumes (hs : s.StoreSucceeds) (hsteady : s.Steady) (user : Account)
    {t : Executor.Attempt.Terms} (hj : w.store.get? stored.id = some stored)
    (hbare : stored.bare = job.bare.underway t) (hdescribed : stored.IsDescribed)
    {action : Action} (hpayload : job.task.payload = .chain action none) {a : Executor.Attempt}
    {settings : NetworkSettings}
    (hreached : Executor.Attempt.Reached s job.task.kind action job a settings) :
    Ends (job.bare.underway t) (w.chronicle job.id)
      ((w.chronicle job.id).conclude s.billing user.login a (t.footprint default)
        (job.bare.underway t))
      (traceOf Event.poll? w.log) (isDropped s .standard user stored w)
      (run s .standard user stored w).1.store (run s .standard user stored w).1.log
      (run s .standard user stored w).2 := by
  -- but for times and the description the stored job is known, and so is whose it is
  have hid : stored.id = job.id := by
    have h := congrArg Job.id hbare
    exact h
  have hkind : stored.task.kind = job.task.kind := by
    have h := congrArg (fun j : Job => j.task.kind) hbare
    exact h
  have hprofile : job.profileId = stored.profileId := by
    have h := congrArg Job.profileId hbare
    exact h.symm
  have huser : job.userId = stored.userId := by
    have h := congrArg Job.userId hbare
    exact h.symm
  obtain ⟨f, hf, hft, hawaits⟩ := Job.awaits_of_bare hbare hpayload
  have hreached' : Executor.Attempt.Reached s stored.task.kind action stored a settings := by
    rw [hkind]
    exact hreached.congr hprofile huser
  have h := run_waits hs hsteady user hj hawaits hdescribed hf hreached'
  rw [hbare, hid] at h
  -- what a decision makes of the chronicle does not depend on when the job was submitted
  have hconclude : (w.chronicle job.id).conclude s.billing user.login a f (job.bare.underway t) =
      (w.chronicle job.id).conclude s.billing user.login a (t.footprint default)
        (job.bare.underway t) := by
    rw [← hft]
    funext state
    cases state <;> rfl
  rw [hconclude] at h
  exact h

/-- A poll that decides is not among those that decide nothing. -/
theorem undecided_ne {undecided undecided' : List Poll} {state : TransactionState}
    (hall : ∀ p ∈ undecided, Executor.Attempt.IsUndecided p) (hstate : state ≠ .pending) :
    undecided ≠ undecided' ++ [.ok state] := by
  rintro rfl
  have h := hall (.ok state) (by simp)
  cases state with
  | pending => exact hstate rfl
  | confirmed | failed => cases h

/-- A run that has heard the decision has come to it. -/
theorem Ends.chronicle_eq {st : Store} {log : List Event} {result : Except Fault Job}
    {first earlier undecided : List Poll} {state : TransactionState}
    (h : Ends job c decided base false st log result) (hbase : base = first ++ earlier)
    (hearlier : ∀ p ∈ earlier, Executor.Attempt.IsUndecided p) (hstate : state ≠ .pending)
    (hpolls : traceOf Event.poll? log = first ++ (undecided ++ [.ok state])) :
    chronicleOf job.id st log = decided state := by
  subst hbase
  have hjoined : ∀ {polls : List Poll}, (∀ p ∈ polls, Executor.Attempt.IsUndecided p) →
      traceOf Event.poll? log ≠ first ++ earlier ++ polls := by
    intro polls hall heq
    rw [hpolls, List.append_assoc] at heq
    have heq := List.append_cancel_left heq
    exact undecided_ne (List.forall_mem_append.2 ⟨hearlier, hall⟩) hstate heq.symm
  -- a decision was heard, so that the run did not break off or wait
  cases h with
  | broken undecided' hall hpolls' => exact absurd hpolls' (hjoined hall)
  | pending undecided' hall hpolls' => exact absurd hpolls' (hjoined hall)
  | decided undecided' hall state' hstate' hpolls' hresult hc =>
    rw [hpolls, List.append_assoc] at hpolls'
    have heq := List.append_cancel_left hpolls'
    rw [← List.append_assoc] at heq
    have hlast := (List.append_inj' heq rfl).2
    cases hlast
    exact hc

/-- A run that gives back a job which has not ended has changed nothing. -/
theorem Ends.resumable {st : Store} {log : List Event} {t : Job} {dropped : Bool}
    (h : Ends job c decided base dropped st log (.ok t)) (hopen : t.status.isTerminal = false) :
    (∃ undecided, (∀ p ∈ undecided, Executor.Attempt.IsUndecided p) ∧
      traceOf Event.poll? log = base ++ undecided) ∧
    (∃ stored, st.get? job.id = some stored ∧ stored.bare = job ∧ stored.IsDescribed) ∧
    chronicleOf job.id st log = c := by
  cases h with
  | pending undecided hall hpolls hget hbare hdescribed hc =>
    exact ⟨⟨undecided, hall, hpolls⟩, ⟨_, hget, hbare, hdescribed⟩, hc⟩
  | decided undecided hall state hstate hpolls hresult hc =>
    rw [hresult _ rfl] at hopen
    cases hopen

end

/-! ## One run or many -/

/-- Whether a run of the stored job is dropped at its backstop. -/
def World.isRerunDropped (s : Services σ) (id : Identifier) (turn : Turn) (w : World σ) : Bool :=
  match w.store.get? id with
  | some job => isDropped s .standard turn.user job (w.waitUntil turn.start)
  | none => false

/-- One world comes after another one by runs of the stored job that all end while they wait: they
give back the job, and it has not ended. -/
inductive World.Waits (s : Services σ) (id : Identifier) (user : Account) (w : World σ) :
    World σ → Prop
  | refl : Waits s id user w w
  | step {w' : World σ} {job : Job} (h : Waits s id user w w') (start : Nat)
    (hresult : (w'.rerun s id ⟨user, start⟩).2 = .ok job)
    (hopen : job.status.isTerminal = false) : Waits s id user w (w'.rerun s id ⟨user, start⟩).1

/-- A run of the stored job is not dropped, and behind it these polls have been heard. -/
structure World.Hears (s : Services σ) (id : Identifier) (turn : Turn) (w : World σ)
    (polls : List Poll) : Prop where
  kept : w.isRerunDropped s id turn = false
  polls_eq : traceOf Event.poll? (w.rerun s id turn).1.log = polls

section

variable {s : Services σ} {user : Account} {w w' : World σ} {job : Job} {action : Action}

/-- How far a job has come that is run over and over without a decision: it has not been run, or it
has been submitted once and nothing else has happened. -/
inductive Underway (s : Services σ) (user : Account) (job : Job) (action : Action)
    (w w' : World σ) : Prop
  | unrun (hstore : w'.store = w.store) (hlog : w'.log = w.log)
  | submitted {a : Executor.Attempt} {t : Executor.Attempt.Terms} {earlier : List Poll}
    {stored : Job} (hleads : LeadsTo s action job a t)
    (hall : ∀ p ∈ earlier, Executor.Attempt.IsUndecided p)
    (hpolls : traceOf Event.poll? w'.log = traceOf Event.poll? w.log ++ earlier)
    (hget : w'.store.get? job.id = some stored) (hbare : stored.bare = job.bare.underway t)
    (hdescribed : stored.IsDescribed)
    (hc : w'.chronicle job.id =
      (w.chronicle job.id).undertake s.billing user.login a t job.bare)

/-- What a run of a job that has come this far comes to, seen from where it started. -/
def Proceeds (s : Services σ) (user : Account) (job : Job) (action : Action) (w : World σ)
    (dropped : Bool) (st : Store) (log : List Event) (result : Except Fault Job) : Prop :=
  ∃ earlier, (∀ p ∈ earlier, Executor.Attempt.IsUndecided p) ∧
    Undertakes s user.login job action (w.chronicle job.id) (traceOf Event.poll? w.log ++ earlier)
      dropped st log result

/-- A run of the stored job is a run of that copy. -/
theorem World.rerun_of_get? {id : Identifier} (turn : Turn) (hj : w.store.get? id = some job) :
    w.rerun s id turn = run s .standard turn.user job (w.waitUntil turn.start) ∧
      w.isRerunDropped s id turn =
        isDropped s .standard turn.user job (w.waitUntil turn.start) := by
  unfold World.rerun World.isRerunDropped
  rw [hj]
  exact ⟨rfl, rfl⟩

/-- From wherever it has come to, a job proceeds in the same way. -/
theorem Underway.proceeds (hs : s.StoreSucceeds) (hsteady : s.Steady)
    (hj : w.store.get? job.id = some job) (hterm : job.status.isTerminal = false)
    (hpayload : job.task.payload = .chain action none) (h : Underway s user job action w w')
    (start : Nat) :
    Proceeds s user job action w (w'.isRerunDropped s job.id ⟨user, start⟩)
      (w'.rerun s job.id ⟨user, start⟩).1.store (w'.rerun s job.id ⟨user, start⟩).1.log
      (w'.rerun s job.id ⟨user, start⟩).2 := by
  -- not run yet, or submitted and waiting
  cases h with
  | unrun hstore hlog =>
    have hj' : w'.store.get? job.id = some job := by rw [hstore, hj]
    obtain ⟨hrerun, hdropped⟩ := World.rerun_of_get? (s := s) ⟨user, start⟩ hj'
    have hchronicle : (w'.waitUntil start).chronicle job.id = w.chronicle job.id :=
      World.chronicle_congr job.id hstore hlog
    have hlog' : (w'.waitUntil start).log = w.log := hlog
    have hsubmits := run_submits (w := w'.waitUntil start) hs user hj' hterm hpayload
    rw [hchronicle, hlog'] at hsubmits
    rw [hrerun, hdropped]
    refine ⟨[], by simp, ?_⟩
    rw [List.append_nil]
    exact hsubmits
  | @submitted a t earlier stored hleads hall hpolls hget hbare hdescribed hc =>
    have hid : stored.id = job.id := Store.get?_id hget
    obtain ⟨hrerun, hdropped⟩ := World.rerun_of_get? (s := s) ⟨user, start⟩ hget
    have hget' : (w'.waitUntil start).store.get? stored.id = some stored := by
      rw [hid]
      exact hget
    obtain ⟨settings, hreached, hagreed⟩ := hleads
    have hresumes := run_resumes (w := w'.waitUntil start) hs hsteady user hget' hbare hdescribed
      hpayload hreached
    have hc' : (w'.waitUntil start).chronicle job.id = w'.chronicle job.id := rfl
    have hlog' : (w'.waitUntil start).log = w'.log := rfl
    rw [hc', hlog', hc, hpolls] at hresumes
    rw [hrerun, hdropped]
    exact ⟨earlier, hall, .inr ⟨a, t, ⟨settings, hreached, hagreed⟩, hresumes⟩⟩

/-- What a run leaves that gives back the job, which has not ended. -/
theorem Proceeds.underway {dropped : Bool} {stored : Job}
    (h : Proceeds s user job action w dropped w'.store w'.log (.ok stored))
    (hopen : stored.status.isTerminal = false) : Underway s user job action w w' := by
  obtain ⟨earlier, hall, ⟨⟨fault, hfault⟩, -⟩ | ⟨a, t, hleads, hends⟩⟩ := h
  · cases hfault
  · obtain ⟨⟨undecided, hundecided, hpolls⟩, ⟨j, hget, hbare, hdescribed⟩, hc⟩ :=
      hends.resumable hopen
    exact .submitted hleads (List.forall_mem_append.2 ⟨hall, hundecided⟩)
      (by rw [hpolls, List.append_assoc]) hget hbare hdescribed hc

/-- Runs that end while they wait leave the job underway. -/
theorem World.Waits.underway (hs : s.StoreSucceeds) (hsteady : s.Steady)
    (hj : w.store.get? job.id = some job) (hterm : job.status.isTerminal = false)
    (hpayload : job.task.payload = .chain action none) (h : World.Waits s job.id user w w') :
    Underway s user job action w w' := by
  induction h with
  | refl => exact .unrun rfl rfl
  | step h start hresult hopen ih =>
    have hproceeds := ih.proceeds hs hsteady hj hterm hpayload start
    rw [hresult] at hproceeds
    exact hproceeds.underway hopen

/-- What a run leaves behind which the decision has been heard. -/
theorem Proceeds.chronicle_eq {result : Except Fault Job} {undecided : List Poll}
    {state : TransactionState}
    (h : Proceeds s user job action w false w'.store w'.log result) (hstate : state ≠ .pending)
    (hpolls : traceOf Event.poll? w'.log =
      traceOf Event.poll? w.log ++ (undecided ++ [.ok state])) :
    ∃ a t, LeadsTo s action job a t ∧
      w'.chronicle job.id =
        ((w.chronicle job.id).undertake s.billing user.login a t job.bare).conclude s.billing
          user.login a (t.footprint default) (job.bare.underway t) state := by
  obtain ⟨earlier, hall, ⟨-, hnone⟩ | ⟨a, t, hleads, hends⟩⟩ := h
  · rw [hnone] at hpolls
    exact absurd (List.append_cancel_left hpolls) (undecided_ne hall hstate)
  · exact ⟨a, t, hleads, hends.chronicle_eq rfl hall hstate hpolls⟩

/-- **One run or many.** One run that waits until the transaction of a job is decided, and runs of
which all but the last one end before, leave the same behind if they have heard the same polls.
Neither the one run nor the last one of the many may be dropped at its backstop behind the decision
(`World.Hears.kept`): it would be stored as failed instead. -/
theorem chronicle_resumed_eq (hs : s.StoreSucceeds) (hsteady : s.Steady) (user : Account)
    (hj : w.store.get? job.id = some job) (hterm : job.status.isTerminal = false)
    (hpayload : job.task.payload = .chain action none) (undecided : List Poll)
    (decision : TransactionState) (hdecision : decision ≠ .pending) {start last : Nat}
    {first : World σ} (hstore : first.store = w.store) (hlog : first.log = w.log)
    (hone : w.Hears s job.id ⟨user, start⟩
      (traceOf Event.poll? w.log ++ (undecided ++ [.ok decision])))
    (hmany : World.Waits s job.id user first w')
    (hlast : w'.Hears s job.id ⟨user, last⟩
      (traceOf Event.poll? w.log ++ (undecided ++ [.ok decision]))) :
    (w'.rerun s job.id ⟨user, last⟩).1.chronicle job.id =
      (w.rerun s job.id ⟨user, start⟩).1.chronicle job.id := by
  have hfirst : first.store.get? job.id = some job := by rw [hstore, hj]
  have hchronicle : first.chronicle job.id = w.chronicle job.id :=
    World.chronicle_congr job.id hstore hlog
  -- both are what the submission and then the decision make of the chronicle
  have hA : Underway s user job action w w := .unrun rfl rfl
  have hA := hA.proceeds hs hsteady hj hterm hpayload start
  rw [hone.kept] at hA
  obtain ⟨a, t, hleads, hA⟩ := hA.chronicle_eq hdecision hone.polls_eq
  have hB := hmany.underway hs hsteady hfirst hterm hpayload
  have hB := hB.proceeds hs hsteady hfirst hterm hpayload last
  rw [hlast.kept] at hB
  have hpolls := hlast.polls_eq
  rw [← hlog] at hpolls
  obtain ⟨a', t', hleads', hB⟩ := hB.chronicle_eq hdecision hpolls
  -- the services answer the same, so the terms are the same
  obtain ⟨rfl, rfl⟩ := hleads'.unique hsteady hleads
  rw [hA, hB, hchronicle]

end

/-- Stopped in between or not, the sample job ends with the same chronicle. -/
theorem chronicle_stopped_and_resumed_eq :
    let turn : Turn := ⟨.sample, 0⟩
    let w := World.seeded ⟨[], 1⟩ .sample
    let stopped := (World.seeded .stopped .sample).rerun .willing default turn
    stopped.2.toOption.map Job.status = some .running ∧
      (stopped.1.rerun .willing default turn).1.chronicle default =
        (w.rerun .willing default turn).1.chronicle default := by
  intro turn w stopped
  have hstopped : stopped.2.toOption.map Job.status = some .running := by decide +kernel
  refine ⟨hstopped, ?_⟩
  cases hresult : stopped.2 with
  | error fault =>
    rw [hresult] at hstopped
    cases hstopped
  | ok job =>
    rw [hresult] at hstopped
    have hopen : job.status.isTerminal = false := by
      rw [show job.status = .running from Option.some.inj hstopped]
      rfl
    have hwaits : World.Waits .willing default .sample (.seeded .stopped .sample) stopped.1 :=
      .step .refl 0 hresult hopen
    have hone : w.Hears .willing default turn [.ok .pending, .ok .confirmed] :=
      ⟨by decide +kernel, by decide +kernel⟩
    have hlast : stopped.1.Hears .willing default turn [.ok .pending, .ok .confirmed] :=
      ⟨by decide +kernel, by decide +kernel⟩
    exact chronicle_resumed_eq Services.storeSucceeds_willing Services.steady_willing .sample
      (get?_seeded _ .sample) rfl rfl [.ok .pending] .confirmed (by simp) (by rfl) (by rfl) hone
      hwaits hlast

end WalletTasks
