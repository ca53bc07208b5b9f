import WalletTasks.Proofs.Storing

/-!
# What a run comes to

A run that has taken its lease asks whether the user can pay, drives the executor, and settles what
came of it. Whatever is to hold behind a run, of the store, the log and the result, comes down to
what its executor comes to: behind a value the held job is stored, behind a halt that asks for
another run nothing is, and behind any other halt the held job is stored as failed.

* `run_of_meets`: what holds behind a run of the standard registry.
-/

namespace WalletTasks

variable {σ α : Type}

/-- The job as a failed run stores it. -/
def Job.failed (job : Job) (e : TaskError) : Job :=
  { job with status := .error, error := some e.message }

/-- The job set to done. -/
def Job.done (job : Job) : Job := { job with status := .done }

/-- The job without the cause of an earlier failure. -/
def Job.cleared (job : Job) : Job := { job with error := none }

/-- Whether a program was dropped. -/
def Outcome.isDropped : Outcome α → Bool
  | .dropped => true
  | _ => false

/-- Whether a run is dropped at its backstop. -/
def isDropped (s : Services σ) (registry : Registry) (user : Account) (job : Job) (w : World σ) :
    Bool :=
  match beginRun s registry user job w with
  | (_, .over _) => false
  | (w, .underway session program) => (drive s session program w).outcome.isDropped

/-- What the question whether a user can pay comes to. -/
inductive Gate (s : Services σ) (login : String) (kind : Kind) :
    List Event → Except Fault Unit → Prop
  | free (hb : s.billing.isBillable kind = false) : Gate s login kind [] (.ok ())
  | funded (hb : s.billing.isBillable kind = true) (x : σ) {funds : Decimal}
    (hx : (s.funds login x).2 = .value funds) (hf : Decimal.lt .zero funds = true) :
    Gate s login kind [.fundsAsked login (.value funds)] (.ok ())
  | poor (hb : s.billing.isBillable kind = true) (x : σ) {funds : Decimal}
    (hx : (s.funds login x).2 = .value funds) (hf : Decimal.lt .zero funds = false) :
    Gate s login kind [.fundsAsked login (.value funds)] (.error (.error .noBalance))
  | refused (hb : s.billing.isBillable kind = true) (x : σ) {e : FundsError}
    (hx : (s.funds login x).2 = .error e) :
    Gate s login kind [.fundsAsked login (.error e)] (.error (.error (.funds e)))
  | crashed (hb : s.billing.isBillable kind = true) (x : σ) {message : String}
    (hx : (s.funds login x).2 = .crash message) :
    Gate s login kind [.fundsAsked login (.crash message)] (.error (.crash message))

variable {s : Services σ} {r : Session} {user : Account} {w : World σ} {job stored : Job}
  {P : Bool → Store → List Event → Except Fault Job → Prop}

/-- The gate logs what it asks for and leaves the store as it is. -/
theorem checkFunds_eq (user : Account) (kind : Kind) :
    ∃ w' events result, checkFunds s user kind w = (w', result) ∧
      Gate s user.login kind events result ∧ w'.store = w.store ∧ w'.log = events ++ w.log := by
  unfold checkFunds
  split
  · rename_i hb
    -- funds that are above zero, funds that are not, a failure and a crash
    rcases hx : s.funds user.login w.outside with ⟨outside, (funds | e | message)⟩
    · cases hf : Decimal.lt .zero funds with
      | true =>
        simp only [hf, if_true]
        exact ⟨_, _, _, rfl, .funded hb w.outside (by rw [hx]) hf, rfl, rfl⟩
      | false =>
        simp only [hf, Bool.false_eq_true, if_false]
        exact ⟨_, _, _, rfl, .poor hb w.outside (by rw [hx]) hf, rfl, rfl⟩
    · exact ⟨_, _, _, rfl, .refused hb w.outside (by rw [hx]), rfl, rfl⟩
    · exact ⟨_, _, _, rfl, .crashed hb w.outside (by rw [hx]), rfl, rfl⟩
  · rename_i hb
    exact ⟨w, [], _, rfl, .free (by simpa using hb), rfl, rfl⟩

/-- A failure is written to the store, and gives back its own cause unless the charge for it
crashes. -/
theorem failRun_eq (hs : s.StoreSucceeds) (user : Account)
    (hj : w.store.get? job.id = some stored) (e : TaskError) :
    let t := s.wallClock w.now
    ∃ w' result, failRun s user job e w = (w', result) ∧
      World.Stores s user.login stored (job.failed e) t t w w' ∧
      (result = .error (.error e) ∨
        s.billing.chargeOwed stored.status .error job.task.kind = true ∧
          ∃ message, result = .error (.crash message)) := by
  obtain ⟨w', reply, h, hstore, hlog, howed, -⟩ :=
    World.reconcile_eq (w := w) hs user.login (job.failed e) hj
  unfold failRun
  unfold Job.failed at h
  rw [h]
  rcases reply with _ | c | message
  · exact ⟨w', _, rfl, ⟨hstore, hlog⟩, .inl rfl⟩
  · exact ⟨w', _, rfl, ⟨hstore, hlog⟩, .inl rfl⟩
  · refine ⟨w', _, rfl, ⟨hstore, hlog⟩, ?_⟩
    cases hb : s.billing.chargeOwed stored.status .error job.task.kind with
    | false => cases howed hb
    | true => exact .inr ⟨rfl, message, rfl⟩

/-! ## Conditions on the end of an executor -/

/-- `P` holds once a job has been stored as failed. -/
def FailsTo (P : Bool → Store → List Event → Except Fault Job → Prop) (s : Services σ)
    (login : String) (dropped : Bool) (w : World σ) (job : Job) (e : TaskError) : Prop :=
  ∃ stored, w.store.get? job.id = some stored ∧
    ∀ w' t result, World.Stores s login stored (job.failed e) t t w w' →
      (result = .error (.error e) ∨
        s.billing.chargeOwed stored.status .error job.task.kind = true ∧
          ∃ message, result = .error (.crash message)) →
      P dropped w'.store w'.log result

/-- `P` holds behind an executor that has ended with a value. -/
def ClosesDone (P : Bool → Store → List Event → Except Fault Job → Prop) (s : Services σ)
    (r : Session) (w : World σ) (held : Job) (_ : Unit) : Prop :=
  ∃ stored, w.store.get? held.id = some stored ∧
    ∀ w' t result, World.Stores s r.user.login stored held.cleared t t w w' →
      (result = .ok (held.cleared.stamped t) ∨
        s.billing.chargeOwed stored.status held.status held.task.kind = true ∧
          ∃ fault, result = .error fault) →
      P false w'.store w'.log result

/-- `P` holds behind an executor that has halted. -/
def ClosesHalted (P : Bool → Store → List Event → Except Fault Job → Prop) (s : Services σ)
    (r : Session) (w : World σ) (held : Job) (h : Halt) : Prop :=
  (h.isRetryable = true →
    ∃ stored, w.store.get? held.id = some stored ∧ P false w.store w.log (.ok stored)) ∧
  (h.isRetryable = false → FailsTo P s r.user.login h.isDropped w held (h.cause r.timeout))

/-- Where the held job is the stored one, closing the run stores it once more without a cause. -/
theorem closesDone_of_stored {held : Job} (hj : w.store.get? held.id = some held)
    (h : ∀ w' t, World.Stores s r.user.login held held.cleared t t w w' →
      P false w'.store w'.log (.ok (held.cleared.stamped t))) : ClosesDone P s r w held () := by
  refine ⟨held, hj, ?_⟩
  rintro w' t result hst (rfl | ⟨howed, -⟩)
  · exact h w' t hst
  · rw [BillingPolicy.chargeOwed_self] at howed
    cases howed

/-- What follows from what holds behind a run holds behind it as well. -/
theorem Routine.meets_closes_mono {Q : Bool → Store → List Event → Except Fault Job → Prop}
    (hPQ : ∀ dropped st log result, P dropped st log result → Q dropped st log result)
    {m : Routine Unit} (h : m.Meets s r w job (ClosesDone P s r) (ClosesHalted P s r)) :
    m.Meets s r w job (ClosesDone Q s r) (ClosesHalted Q s r) := by
  refine meets_mono h ?_ ?_
  · rintro w' held ⟨⟩ ⟨stored, hj, hdone⟩
    exact ⟨stored, hj, fun w'' t result hst hr => hPQ _ _ _ _ (hdone w'' t result hst hr)⟩
  · rintro w' held e ⟨hretry, hfail⟩
    refine ⟨?_, ?_⟩
    · intro he
      obtain ⟨stored, hj, hp⟩ := hretry he
      exact ⟨stored, hj, hPQ _ _ _ _ hp⟩
    · intro he
      obtain ⟨stored, hj, hfails⟩ := hfail he
      exact ⟨stored, hj, fun w'' t result hst hr => hPQ _ _ _ _ (hfails w'' t result hst hr)⟩

theorem of_failsTo (hs : s.StoreSucceeds) {dropped : Bool} {e : TaskError}
    (h : FailsTo P s user.login dropped w job e) :
    P dropped (failRun s user job e w).1.store (failRun s user job e w).1.log
      (failRun s user job e w).2 := by
  obtain ⟨stored, hj, h⟩ := h
  obtain ⟨w', result, heq, hst, hres⟩ := failRun_eq hs user hj e
  rw [heq]
  exact h w' _ result hst hres

/-- What holds of a program at its end holds of its run behind closing it. -/
theorem closeRun_of_meets (hs : s.StoreSucceeds) {e : Ending σ Unit}
    (h : e.Meets (ClosesDone P s r) (ClosesHalted P s r)) :
    P e.outcome.isDropped (closeRun s r e).1.store (closeRun s r e).1.log (closeRun s r e).2 := by
  rcases e with ⟨w, held, outcome⟩
  rcases outcome with (c | ⟨⟨⟩⟩) | message | _
  · simp only [Ending.Meets, ClosesHalted, Halt.isRetryable, Halt.cause] at h
    simp only [closeRun]
    -- a cause that only asks for another run is not stored
    split
    · rename_i hc
      obtain ⟨stored, hj, h⟩ := h.1 hc
      obtain ⟨outside, hget⟩ := World.getJob_eq hs hj
      rw [hget]
      exact h
    · rename_i hc
      exact of_failsTo hs (h.2 (by simpa using hc))
  · obtain ⟨stored, hj, h⟩ := h
    obtain ⟨w', reply, heq, hstore, hlog, howed, -⟩ :=
      World.reconcile_eq (w := w) hs r.user.login held.cleared hj
    -- storing the job can still fail over its charge, if one is owed
    have hcharged : ∀ fault, reply ≠ .value () →
        Except.error fault = .ok (held.cleared.stamped (s.wallClock w.now)) ∨
          s.billing.chargeOwed stored.status held.status held.task.kind = true ∧
            ∃ f, (Except.error fault : Except Fault Job) = .error f := by
      intro fault hreply
      cases hb : s.billing.chargeOwed stored.status held.status held.task.kind with
      | false => exact absurd (howed hb) hreply
      | true => exact .inr ⟨rfl, fault, rfl⟩
    simp only [closeRun]
    unfold Job.cleared at heq
    rw [heq]
    rcases reply with _ | c | message
    · exact h w' _ _ ⟨hstore, hlog⟩ (.inl rfl)
    · exact h w' _ _ ⟨hstore, hlog⟩ (hcharged (.error c) (by simp))
    · exact h w' _ _ ⟨hstore, hlog⟩ (hcharged (.crash message) (by simp))
  · exact of_failsTo hs (h.2 rfl)
  · exact of_failsTo hs (h.2 rfl)

/-! ## The whole run -/

/-- The standard registry has an executor for every kind. -/
theorem executor_standard (kind : Kind) :
    Registry.standard.executor kind = .ok (Executor.standard kind) := by
  cases kind <;> rfl

/-- A run that finds its job under way does nothing. -/
theorem run_of_isLive (registry : Registry) (user : Account)
    (hopen : job.status.isTerminal = false) (hbusy : w.leases.isLive job.id = true) :
    run s registry user job w = (w, .error (.error (.alreadyRunning job.id))) ∧
      isDropped s registry user job w = false := by
  unfold run isDropped beginRun
  rw [Leases.acquire?_eq_none_iff.2 hbusy, hopen]
  exact ⟨rfl, rfl⟩

/-- How a run of a job that has not ended begins. It is refused while the job is under way, it fails
without an executor or without funds, it ends with a crash of the funds service, or its executor is
to be driven. -/
inductive Begins (s : Services σ) (registry : Registry) (user : Account) (job : Job)
    (w : World σ) : World σ → Opening → Prop
  | busy (hbusy : w.leases.isLive job.id = true) :
    Begins s registry user job w w (.over (.error (.error (.alreadyRunning job.id))))
  | unknown {w₁ : World σ} {e : TaskError} (hnone : registry.executor job.task.kind = .error e)
    (hstore : w₁.store = w.store) (hlog : w₁.log = w.log) :
    Begins s registry user job w ((failRun s user job e w₁).1.release job.id)
      (.over (failRun s user job e w₁).2)
  | refused {w₁ : World σ} {events : List Event} {e : TaskError}
    (hgate : Gate s user.login job.task.kind events (.error (.error e)))
    (hstore : w₁.store = w.store) (hlog : w₁.log = events ++ w.log) :
    Begins s registry user job w ((failRun s user job e w₁).1.release job.id)
      (.over (failRun s user job e w₁).2)
  | crashed {w₁ : World σ} {events : List Event} {message : String}
    (hgate : Gate s user.login job.task.kind events (.error (.crash message)))
    (hstore : w₁.store = w.store) (hlog : w₁.log = events ++ w.log) :
    Begins s registry user job w (w₁.release job.id) (.over (.error (.crash message)))
  | underway {w₁ : World σ} {events : List Event} {r : Session} {executor : Executor}
    (hexec : registry.executor job.task.kind = .ok executor)
    (hgate : Gate s user.login job.task.kind events (.ok ()))
    (hstore : w₁.store = w.store) (hlog : w₁.log = events ++ w.log) (huser : r.user = user)
    (hlease : r.lease = job.id) (htimeout : r.timeout = s.limits.timeoutFor job.task.kind) :
    Begins s registry user job w w₁ (.underway r (executor.run (r.info s.limits) job))

/-- The ways in which a run of an open job begins. -/
theorem beginRun_begins (registry : Registry) (user : Account)
    (hopen : job.status.isTerminal = false) :
    Begins s registry user job w (beginRun s registry user job w).1
      (beginRun s registry user job w).2 := by
  unfold beginRun
  simp only [hopen, Bool.false_eq_true, if_false]
  cases hacq : w.leases.acquire? job.id with
  | none => exact .busy (Leases.acquire?_eq_none_iff.1 hacq)
  | some leases =>
    -- the run holds the lease from here on
    simp only [openRun]
    cases hexec : registry.executor job.task.kind with
    | error e => exact .unknown hexec rfl rfl
    | ok executor =>
      obtain ⟨w₁, events, result, heq, hgate, hstore, hlog⟩ :=
        checkFunds_eq (s := s) (w := { w with leases }) user job.task.kind
      rw [heq]
      rcases result with (e | message) | ⟨⟨⟩⟩
      · exact .refused hgate hstore hlog
      · exact .crashed hgate hstore hlog
      · exact .underway (r := ⟨user, job.id, s.limits.timeoutFor job.task.kind, _⟩) hexec hgate
          hstore hlog rfl rfl rfl

/-- **What holds behind a run.** A job that has ended comes back, a job that is under way is
refused, and for any other job it is a matter of the funds and of the executor. -/
theorem run_of_meets_begun (hs : s.StoreSucceeds)
    (hterm : job.status.isTerminal = true → P false w.store w.log (.ok job))
    (hbusy : w.leases.isLive job.id = true →
      P false w.store w.log (.error (.error (.alreadyRunning job.id))))
    (hcrash : ∀ events message, Gate s user.login job.task.kind events (.error (.crash message)) →
      P false w.store (events ++ w.log) (.error (.crash message)))
    (hrefused : ∀ events e w', job.status.isTerminal = false →
      Gate s user.login job.task.kind events (.error (.error e)) →
      w'.store = w.store → w'.log = events ++ w.log → FailsTo P s user.login false w' job e)
    (hexec : ∀ events w' r, job.status.isTerminal = false →
      beginRun s .standard user job w =
        (w', .underway r ((Executor.standard job.task.kind).run (r.info s.limits) job)) →
      Gate s user.login job.task.kind events (.ok ()) →
      w'.store = w.store → w'.log = events ++ w.log →
      r.user = user → r.lease = job.id → r.timeout = s.limits.timeoutFor job.task.kind →
      ((Executor.standard job.task.kind).run (r.info s.limits)).Meets s r w' job
        (ClosesDone P s r) (ClosesHalted P s r)) :
    P (isDropped s .standard user job w) (run s .standard user job w).1.store
      (run s .standard user job w).1.log (run s .standard user job w).2 := by
  -- an ended job is given back before the lease is asked for
  cases ht : job.status.isTerminal with
  | true =>
    unfold isDropped run beginRun
    rw [if_pos ht]
    exact hterm ht
  | false =>
    have hbegins := beginRun_begins (s := s) (w := w) .standard user ht
    unfold isDropped run
    rcases hb : beginRun s .standard user job w with ⟨w', opening⟩
    rw [hb] at hbegins
    cases hbegins with
    | busy hlive => exact hbusy hlive
    | unknown hnone =>
      rw [executor_standard] at hnone
      cases hnone
    | refused hgate hstore hlog => exact of_failsTo hs (hrefused _ _ _ ht hgate hstore hlog)
    | crashed hgate hstore hlog =>
      simp only [hstore, hlog]
      exact hcrash _ _ hgate
    | underway hexecutor hgate hstore hlog huser hlease htimeout =>
      rw [executor_standard] at hexecutor
      cases hexecutor
      exact closeRun_of_meets hs (hexec _ _ _ ht hb hgate hstore hlog huser hlease htimeout)

/-- The same without what is known of how the run began. -/
theorem run_of_meets (hs : s.StoreSucceeds)
    (hterm : job.status.isTerminal = true → P false w.store w.log (.ok job))
    (hbusy : w.leases.isLive job.id = true →
      P false w.store w.log (.error (.error (.alreadyRunning job.id))))
    (hcrash : ∀ events message, Gate s user.login job.task.kind events (.error (.crash message)) →
      P false w.store (events ++ w.log) (.error (.crash message)))
    (hrefused : ∀ events e w', job.status.isTerminal = false →
      Gate s user.login job.task.kind events (.error (.error e)) →
      w'.store = w.store → w'.log = events ++ w.log → FailsTo P s user.login false w' job e)
    (hexec : ∀ events w' r, job.status.isTerminal = false →
      Gate s user.login job.task.kind events (.ok ()) →
      w'.store = w.store → w'.log = events ++ w.log →
      r.user = user → r.lease = job.id → r.timeout = s.limits.timeoutFor job.task.kind →
      ((Executor.standard job.task.kind).run (r.info s.limits)).Meets s r w' job
        (ClosesDone P s r) (ClosesHalted P s r)) :
    P (isDropped s .standard user job w) (run s .standard user job w).1.store
      (run s .standard user job w).1.log (run s .standard user job w).2 :=
  run_of_meets_begun hs hterm hbusy hcrash hrefused fun events w' r hopen _ =>
    hexec events w' r hopen

end WalletTasks
