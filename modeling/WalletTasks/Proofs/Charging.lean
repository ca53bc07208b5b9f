import WalletTasks.Proofs.Passing
import WalletTasks.Proofs.Settling

/-!
# What a job is charged for

A job that starts out ready is run over and over. The charges that have been sent for it are known
from the status that it is stored with: how many runs there were, and what has interrupted them,
makes no difference. A job that has failed may have been running before or not, and it has been
charged for that as well, unless a run was dropped while it wrote that the job is running.

* `Status.Leads.of_ready`: the ways of a job that starts out ready.
* `reruns_pays`: a job that has been stored as running has been charged for it.
* `charges_reruns_mem`: the charges behind any sequence of runs.
-/

namespace WalletTasks

variable {σ : Type}

/-- The statuses that a job of a billable kind may have been charged for by the time that it is
stored with a status, if it started out ready. Whether a failed job had been running is not told by
its status. -/
def Status.bills (kind : Kind) : Status → List (List Status)
  | .ready => [[]]
  | .running => [[.running]]
  | .done => if kind.shape = .mock then [[]] else [[.running]]
  | .error => if kind.shape = .mock then [[.error]] else [[.running, .error], [.error]]
  | .retry => []

/-- The ways from ready to a status by allowed changes. -/
inductive Status.Way (kind : Kind) : List (Status × Status) → Status → Prop
  | ready : Way kind [] .ready
  | running (hshape : kind.shape ≠ .mock) : Way kind [(.ready, .running)] .running
  | done (hshape : kind.shape ≠ .mock) : Way kind [(.ready, .running), (.running, .done)] .done
  | failed (hshape : kind.shape ≠ .mock) :
    Way kind [(.ready, .running), (.running, .error)] .error
  | atOnce (hshape : kind.shape = .mock) : Way kind [(.ready, .done)] .done
  | refused : Way kind [(.ready, .error)] .error

variable {p : BillingPolicy} {kind : Kind} {b b' b₁ b₂ : Books} {status : Status}
  {moves : List (Status × Status)}

/-- Nothing leads on from a status that ends a job. -/
theorem Status.Leads.of_isTerminal (h : Status.Leads status moves after)
    (hall : ∀ m ∈ moves, m.1.mayMove kind m.2 = true) (hterm : status.isTerminal = true) :
    moves = [] ∧ after = status := by
  cases h with
  | nil => exact ⟨rfl, rfl⟩
  | cons hne h =>
    have := Status.isTerminal_of_mayMove (hall _ (List.mem_cons_self ..))
    rw [hterm] at this
    cases this

/-- **The ways of a job that starts out ready.** -/
theorem Status.Leads.of_ready (h : Status.Leads .ready moves status)
    (hall : ∀ m ∈ moves, m.1.mayMove kind m.2 = true) : Status.Way kind moves status := by
  cases h with
  | nil => exact .ready
  | @cons _ next _ rest hne h =>
    obtain ⟨hfirst, hrest⟩ := List.forall_mem_cons.1 hall
    -- the first change of a ready job, and then the second one of a running job
    cases next with
    | ready => exact absurd rfl hne
    | retry => cases hfirst
    | done =>
      obtain ⟨rfl, rfl⟩ := h.of_isTerminal hrest rfl
      exact .atOnce (of_decide_eq_true hfirst)
    | error =>
      obtain ⟨rfl, rfl⟩ := h.of_isTerminal hrest rfl
      exact .refused
    | running =>
      have hshape := of_decide_eq_true hfirst
      cases h with
      | nil => exact .running hshape
      | @cons _ last _ rest hne h =>
        obtain ⟨hsecond, hlast⟩ := List.forall_mem_cons.1 hrest
        cases last with
        | ready | retry => cases hsecond
        | running => exact absurd rfl hne
        | done =>
          obtain ⟨rfl, rfl⟩ := h.of_isTerminal hlast rfl
          exact .done hshape
        | error =>
          obtain ⟨rfl, rfl⟩ := h.of_isTerminal hlast rfl
          exact .failed hshape

namespace Status.Way

/-- Along each way a job can go, what is due is one of the bills of the status that it ends with. -/
theorem dues_mem (h : Way kind moves status) (hbill : p.isBillable kind = true) :
    p.dues kind moves ∈ status.bills kind := by
  cases h with
  | refused =>
    simp only [BillingPolicy.dues, hbill, if_true, bills]
    split <;> simp
  | _ => simp_all [BillingPolicy.dues, bills]

/-- A job that is stored as failed, wherever its way has led, is charged for that. -/
theorem dues_failed_mem (h : Way kind moves status) (hbill : p.isBillable kind = true) :
    p.dues kind moves ++ (if status = .error then [] else [.error]) ∈ Status.error.bills kind := by
  cases h with
  | ready | refused =>
    simp only [BillingPolicy.dues, hbill, if_true, bills]
    split <;> simp
  | _ => simp_all [BillingPolicy.dues, bills]

/-- A change to running is charged for. -/
theorem running_mem_dues {moves : List (Status × Status)} (hbill : p.isBillable kind = true)
    (h : .running ∈ moves.map Prod.snd) : .running ∈ p.dues kind moves := by
  rw [BillingPolicy.dues, if_pos hbill]
  exact List.mem_filter.2 ⟨h, by simp⟩

end Status.Way

namespace Books

/-- The books of a job that started out ready pass along one of its ways. -/
theorem Passes.way (h : Passes p kind b b') (hready : b.status = some .ready) :
    ∃ fs after, Agree p kind b fs b' ∧ b'.status = some after ∧ Status.Links .ready fs after ∧
      Status.Way kind (Filing.moves fs) after := by
  obtain ⟨fs, hagree, hall⟩ := h
  obtain ⟨before, after, hbefore, hafter, hlinks⟩ := hagree.status
  rw [hready] at hbefore
  cases hbefore
  exact ⟨fs, after, hagree, hafter, hlinks,
    hlinks.leads.of_ready fun _ => mayMove_of_mem_moves hall⟩

/-- Storing a job that is cut off sends no charge, and does not store a failure. -/
theorem Cut.frame (h : Cut kind b b') (hstatus : b.status = some status) :
    b'.charges = b.charges ∧ (∃ newly, b'.written = b.written ++ newly) ∧
      ∃ before, b'.status = some before ∧ (before = .error ↔ status = .error) := by
  cases h with
  | unnoted => exact ⟨rfl, ⟨[], (List.append_nil _).symm⟩, status, hstatus, Iff.rfl⟩
  | noted => exact ⟨rfl, ⟨[], (List.append_nil _).symm⟩, status, hstatus, Iff.rfl⟩
  | @written before job t hbefore hmove hne =>
    refine ⟨rfl, ⟨[job.status], rfl⟩, job.status, rfl, fun herror => absurd herror hne, ?_⟩
    rintro rfl
    -- nothing leads on from a failure
    obtain rfl : before = .error := Option.some.inj (hbefore.symm.trans hstatus)
    rcases hmove with hmove | hmove
    · exact hmove.symm
    · cases Status.isTerminal_of_mayMove hmove

/-- What has been sent for a job that started out ready, and is stored with a status. -/
structure Bill (p : BillingPolicy) (kind : Kind) (status : Status) (sent : List Charge) : Prop where
  free : p.isBillable kind = false → sent = []
  billed : p.isBillable kind = true → sent.map Charge.status ∈ status.bills kind

/-- A run that starts out ready is billed once, kept to its end or dropped. -/
theorem Reaches.bill {dropped : Bool} (h : Reaches p kind b dropped b')
    (hready : b.status = some .ready) :
    ∃ after sent, b'.status = some after ∧ b'.charges = b.charges ++ sent ∧
      Bill p kind after sent := by
  cases h with
  | kept h =>
    obtain ⟨fs, after, hagree, hafter, -, hway⟩ := h.way hready
    obtain ⟨sent, hcharges, hdues⟩ := hagree.charges
    refine ⟨after, sent, hafter, hcharges, ?_, ?_⟩
    · intro hfree
      simpa [BillingPolicy.dues, hfree] using hdues
    · intro hbill
      rw [hdues]
      exact hway.dues_mem hbill
  | @dropped b₁ b₂ login before job t h hcut hstatus hkind herror =>
    obtain ⟨fs, after, hagree, hafter, -, hway⟩ := h.way hready
    obtain ⟨sent, hcharges, hdues⟩ := hagree.charges
    obtain ⟨hsame, -, before', hbefore, hiff⟩ := hcut.frame hafter
    obtain rfl : before' = before := Option.some.inj (hbefore.symm.trans hstatus)
    refine ⟨.error, sent ++ if p.chargeOwed before' job.status job.task.kind then
        [.ofJob job login] else [], congrArg some herror, ?_, ?_, ?_⟩
    · rw [← List.append_assoc, ← hcharges, ← hsame]
      rfl
    · intro hfree
      have hnone : sent = [] := by simpa [BillingPolicy.dues, hfree] using hdues
      simp [hnone, BillingPolicy.chargeOwed, hkind, hfree]
    · intro hbill
      have := hway.dues_failed_mem hbill
      rw [List.map_append, hdues]
      -- the failure is charged for unless the job is stored as failed already
      by_cases hafter : after = .error
      · simpa [hafter, hiff.2 hafter, BillingPolicy.chargeOwed, herror] using this
      · have hne : before' ≠ .error := fun h => hafter (hiff.1 h)
        simpa [hafter, hne, BillingPolicy.chargeOwed, herror, hkind, hbill, Charge.ofJob] using this

/-- Charges and writes are only added. -/
theorem Reaches.grows {dropped : Bool} (h : Reaches p kind b dropped b') :
    ∃ sent newly, b'.charges = b.charges ++ sent ∧ b'.written = b.written ++ newly := by
  cases h with
  | kept h =>
    obtain ⟨fs, hagree, -⟩ := h
    obtain ⟨sent, hcharges, -⟩ := hagree.charges
    exact ⟨sent, _, hcharges, hagree.written⟩
  | @dropped b₁ b₂ login before job t h hcut hstatus hkind herror =>
    obtain ⟨fs, hagree, -⟩ := h
    obtain ⟨sent, hcharges, -⟩ := hagree.charges
    obtain ⟨-, status, -, hafter, -⟩ := hagree.status
    obtain ⟨hsame, ⟨newly', hwritten'⟩, -⟩ := hcut.frame hafter
    refine ⟨sent ++ if p.chargeOwed before job.status job.task.kind then
      [.ofJob job login] else [], fs.map Filing.after ++ newly' ++ [job.status], ?_, ?_⟩
    · rw [← List.append_assoc, ← hcharges, ← hsame]
      rfl
    · rw [← List.append_assoc, ← List.append_assoc, ← hagree.written, ← hwritten']
      rfl

/-- A job has been stored as running only if it has been charged for that. -/
def Pays (b b' : Books) : Prop :=
  ∃ sent newly, b'.charges = b.charges ++ sent ∧ b'.written = b.written ++ newly ∧
    (.running ∈ newly → .running ∈ sent.map Charge.status)

theorem Pays.refl (b : Books) : Pays b b :=
  ⟨[], [], (List.append_nil _).symm, (List.append_nil _).symm, fun h => by cases h⟩

/-- What has been paid for stays paid for. -/
theorem Pays.trans (h : Pays b b₁) (h' : Pays b₁ b₂) : Pays b b₂ := by
  obtain ⟨sent, newly, hcharges, hwritten, hpays⟩ := h
  obtain ⟨sent', newly', hcharges', hwritten', hpays'⟩ := h'
  refine ⟨sent ++ sent', newly ++ newly', by rw [hcharges', hcharges, List.append_assoc],
    by rw [hwritten', hwritten, List.append_assoc], ?_⟩
  intro hrunning
  rw [List.map_append]
  rcases List.mem_append.1 hrunning with h | h
  · exact List.mem_append_left _ (hpays h)
  · exact List.mem_append_right _ (hpays' h)

/-- A run of a ready job that is not dropped pays for what it stores, and goes on from ready only if
it has not been charged. -/
theorem Passes.pays (h : Passes p kind b b') (hready : b.status = some .ready)
    (hbill : p.isBillable kind = true) :
    Pays b b' ∧ (b'.status = some .running →
      ∃ sent, b'.charges = b.charges ++ sent ∧ .running ∈ sent.map Charge.status) := by
  obtain ⟨fs, after, hagree, hafter, hlinks, -⟩ := h.way hready
  obtain ⟨sent, hcharges, hdues⟩ := hagree.charges
  have hpays : .running ∈ fs.map Filing.after → .running ∈ sent.map Charge.status := by
    intro hrunning
    obtain ⟨f, hf, heq⟩ := List.mem_map.1 hrunning
    rw [hdues]
    refine Status.Way.running_mem_dues hbill ?_
    rcases hlinks.after_mem hf with h | h <;> rw [heq] at h
    · cases h
    · exact h
  refine ⟨⟨sent, _, hcharges, hagree.written, hpays⟩, fun hrunning => ⟨sent, hcharges, ?_⟩⟩
  obtain rfl : after = .running := Option.some.inj (hafter.symm.trans hrunning)
  exact hpays (hlinks.eq_or_mem.resolve_left (by simp))

end Books

section

variable {s : Services σ} {id : Identifier} {job : Job} {w w' : World σ}

/-- What the log tells of a job, in terms of its books. -/
theorem World.books_pays
    (h : World.LogsOnly (fun e => e.written? id ≠ some .running) w w' ∨
      World.LogsSome (fun e => ∃ charge, e.chargeFor? id = some charge ∧
        charge.status = .running) w w') : Books.Pays (w.books id) (w'.books id) := by
  rcases h with ⟨events, hlog, hnone⟩ | ⟨events, hlog, e, he, charge, hcharge, hstatus⟩
  all_goals
    refine ⟨traceOf (Event.chargeFor? id) events, traceOf (Event.written? id) events, ?_, ?_, ?_⟩
  · simp only [books, booksOf, hlog, traceOf_append]
  · simp only [books, booksOf, hlog, traceOf_append]
  · intro hrunning
    obtain ⟨e, he, hwritten⟩ := List.mem_filterMap.1 hrunning
    exact absurd hwritten (hnone e (List.mem_reverse.1 he))
  · simp only [books, booksOf, hlog, traceOf_append]
  · simp only [books, booksOf, hlog, traceOf_append]
  · intro _
    rw [← hstatus]
    exact List.mem_map_of_mem (List.mem_filterMap.2 ⟨e, List.mem_reverse.2 he, hcharge⟩)

/-- A run of a ready job pays for what it stores, unless it is dropped while it writes the job. -/
theorem rerun_pays (hs : s.StoreSucceeds) (hj : w.store.get? id = some job)
    (hready : job.status = .ready) (hbill : s.billing.isBillable job.task.kind = true) (turn : Turn)
    (hreturns : w.isRerunDroppedAt Request.isStore s id turn = false)
    (hdropped : w.isRerunDropped s id turn = true) :
    Books.Pays (w.books id) ((w.rerun s id turn).1.books id) := by
  obtain rfl := Store.get?_id hj
  obtain ⟨hrerun, hdropped'⟩ := World.rerun_of_get? (s := s) turn hj
  rw [hdropped'] at hdropped
  simp only [World.isRerunDroppedAt, hj] at hreturns
  rw [hrerun]
  exact World.books_pays (w := w.waitUntil turn.start)
    (run_settled hs turn.user hj hready hready hbill hreturns hdropped)

/-- **A job that has been stored as running has been charged for it**, behind any sequence of runs
of the stored job, none of which was dropped while it wrote the job. -/
theorem reruns_pays (hs : s.StoreSucceeds) (hj : w.store.get? id = some job)
    (hready : job.status = .ready) (hbill : s.billing.isBillable job.task.kind = true)
    (turns : List Turn) (hreturns : w.Answers Request.isStore s id turns) :
    Books.Pays (w.books id) ((w.reruns s id turns).books id) := by
  induction turns generalizing w job with
  | nil => exact .refl _
  | cons turn turns ih =>
    obtain ⟨job₁, hj₁, hkind₁, hreaches⟩ := rerun_reaches hs hj turn
    have hstatus : (w.books id).status = some .ready := by
      rw [← hready]
      exact congrArg (Option.map _) hj
    have hstatus₁ : ((w.rerun s id turn).1.books id).status = some job₁.status :=
      congrArg (Option.map _) hj₁
    have hrest : w.reruns s id (turn :: turns) = (w.rerun s id turn).1.reruns s id turns := rfl
    -- once the job has ended, nothing more happens to it
    have hended : job₁.status.isTerminal = true →
        Books.Pays (w.books id) ((w.rerun s id turn).1.books id) →
          Books.Pays (w.books id) ((w.reruns s id (turn :: turns)).books id) := by
      intro hterm hpays
      obtain ⟨-, hbooks, -⟩ := World.reruns_of_isTerminal (s := s) hj₁ hterm turns
      rwa [hrest, hbooks]
    generalize hd : w.isRerunDropped s id turn = dropped at hreaches
    cases dropped with
    | true =>
      have herror : job₁.status = .error :=
        Option.some.inj (hstatus₁.symm.trans hreaches.status_of_dropped)
      exact hended (by rw [herror]; rfl) (rerun_pays hs hj hready hbill turn hreturns.1 hd)
    | false =>
      cases hreaches with
      | kept hpasses =>
        obtain ⟨hpays, hcharged⟩ := hpasses.pays hstatus hbill
        cases hfirst : job₁.status with
        | ready =>
          rw [← hkind₁] at hbill
          exact hpays.trans (ih hj₁ hfirst hbill hreturns.2)
        | running =>
          -- the charge has been sent, and stays sent
          obtain ⟨sent, hcharges, hrunning⟩ := hcharged (by rw [hstatus₁, hfirst])
          obtain ⟨_, -, -, hrests⟩ := reruns_reaches hs hj₁ turns
          obtain ⟨sent', newly', hcharges', hwritten'⟩ := hrests.grows
          obtain ⟨_, newly, -, hwritten, -⟩ := hpays
          rw [hrest]
          refine ⟨sent ++ sent', newly ++ newly', ?_, ?_, fun _ => ?_⟩
          · rw [hcharges', hcharges, List.append_assoc]
          · rw [hwritten', hwritten, List.append_assoc]
          · rw [List.map_append]
            exact List.mem_append_left _ hrunning
        | done | error => exact hended (by rw [hfirst]; rfl) hpays
        | retry =>
          obtain ⟨fs, after, -, hafter, -, hway⟩ := hpasses.way hstatus
          rw [hstatus₁, hfirst] at hafter
          cases hafter
          generalize Filing.moves fs = moves at hway
          cases hway

end

/-- **Runs that are repeated are not charged again.** Behind any sequence of runs of a stored job
that started out ready, the charges that have been sent for it are known from the status that it is
stored with; there are none if its kind is not billable. If it has been charged for its failure
alone, then it was never stored as running, unless one of the runs was dropped while it wrote the
job. -/
theorem charges_reruns_mem {s : Services σ} {w : World σ} {id : Identifier} {job : Job}
    (hs : s.StoreSucceeds) (hj : w.store.get? id = some job) (hready : job.status = .ready)
    (turns : List Turn) :
    let w' := w.reruns s id turns
    ∃ job' sent newly, w'.store.get? id = some job' ∧
      (w'.books id).charges = (w.books id).charges ++ sent ∧
      (w'.books id).written = (w.books id).written ++ newly ∧
      (s.billing.isBillable job.task.kind = false → sent = []) ∧
      (s.billing.isBillable job.task.kind = true →
        sent.map Charge.status ∈ job'.status.bills job.task.kind) ∧
      (w.Answers Request.isStore s id turns → sent.map Charge.status = [.error] →
        .running ∉ newly) := by
  intro w'
  obtain ⟨job', hget, -, hreaches⟩ := reruns_reaches hs hj turns
  have hstatus : (w.books id).status = some .ready := by
    rw [← hready]
    exact congrArg (Option.map _) hj
  obtain ⟨after, sent, hafter, hcharges, hbill⟩ := hreaches.bill hstatus
  obtain ⟨_, newly, -, hwritten⟩ := hreaches.grows
  obtain rfl : job'.status = after :=
    Option.some.inj ((congrArg (Option.map Job.status) hget).symm.trans hafter)
  refine ⟨job', sent, newly, hget, hcharges, hwritten, hbill.free, hbill.billed, ?_⟩
  intro hreturns hsent hrunning
  -- a charge for the failure alone means that none was sent for running
  cases hb : s.billing.isBillable job.task.kind with
  | false =>
    rw [hbill.free hb] at hsent
    cases hsent
  | true =>
    obtain ⟨sent', newly', hcharges', hwritten', hpays⟩ :=
      reruns_pays hs hj hready hb turns hreturns
    obtain rfl := List.append_cancel_left (hcharges.symm.trans hcharges')
    obtain rfl := List.append_cancel_left (hwritten.symm.trans hwritten')
    have hcharged := hpays hrunning
    rw [hsent] at hcharged
    simp at hcharged

/-- The sample job is stopped once and then done, and it has been charged for once. -/
theorem sample_charges_mem :
    let w := World.seeded .stopped .sample
    let turn : Turn := ⟨.sample, 0⟩
    let w' := w.reruns .willing default [turn, turn]
    (w'.books default).status = some .done ∧
      (w'.books default).charges.map Charge.status = [.running] ∧
      ∃ job' sent newly, w'.store.get? default = some job' ∧
        (w'.books default).charges = (w.books default).charges ++ sent ∧
        (w'.books default).written = (w.books default).written ++ newly ∧
        (Services.willing.billing.isBillable .deployStarkNetAccount = false → sent = []) ∧
        (Services.willing.billing.isBillable .deployStarkNetAccount = true →
          sent.map Charge.status ∈ job'.status.bills .deployStarkNetAccount) ∧
        (sent.map Charge.status = [.error] → .running ∉ newly) := by
  intro w turn w'
  have hanswers : w.Answers Request.isStore .willing default [turn, turn] :=
    ⟨by decide +kernel, by decide +kernel, trivial⟩
  obtain ⟨job', sent, newly, hget, hcharges, hwritten, hfree, hbilled, hrunning⟩ :=
    charges_reruns_mem Services.storeSucceeds_willing (get?_seeded Outlook.stopped .sample) rfl
      [turn, turn]
  exact ⟨by decide +kernel, by decide +kernel, job', sent, newly, hget, hcharges, hwritten, hfree,
    hbilled, hrunning hanswers⟩

/-- The sample job is stored as running, but by then its run has been dropped: it is charged for its
failure alone. -/
theorem sample_running_not_charged :
    let w := World.seeded (hourAfter 2) .sample
    let w' := w.reruns .sluggish default [⟨.sample, 0⟩]
    Services.sluggish.StoreSucceeds ∧
      Services.sluggish.billing.isBillable .deployStarkNetAccount = true ∧
      (w.books default).status = some .ready ∧ (w'.books default).status = some .error ∧
      (w'.books default).written = [.running, .error] ∧
      (w'.books default).charges.map Charge.status = [.error] :=
  ⟨Services.storeSucceeds_sluggish, by decide, rfl, by decide +kernel, by decide +kernel,
    by decide +kernel⟩

end WalletTasks
