import WalletTasks.Proofs.Progress

/-!
# What an interruption does to a submitted transaction

The transaction of a job is on record and awaits its confirmation, and nothing fails on its own. A
run of the job that is stopped, or that meets its deadline, leaves the job as it is if the wait was
under way; but an interruption on the way to the chain, where the run would only have gone on to
wait, is stored as a failure of the job, and so is a run that is dropped. The transaction is then
given up.

* `survives_iff`: a run leaves the transaction alone exactly if it has met no setback on its way to
  the chain and has not been dropped.
-/

namespace WalletTasks

variable {σ : Type}

/-- Every user has funds. -/
def Services.FundsPositive (s : Services σ) : Prop :=
  ∀ login x, ∃ funds, (s.funds login x).2 = .value funds ∧ Decimal.lt .zero funds = true

/-- No service fails on its own but for polls that are not answered, and no transaction fails. -/
structure Services.Reliable (s : Services σ) : Prop where
  answers : ∀ c x, c.isPoll = false → ∃ a, (s.respond c x).2.reply = .value a
  polls : ∀ client txId x message, (s.respond (.poll client txId) x).2.reply ≠ .crash message
  decisions : ∀ client txId x reason,
    (s.respond (.poll client txId) x).2.reply ≠ .value (.failed reason)

/-- The transaction of a job awaits its confirmation. -/
structure Job.Awaits (job : Job) (f : Footprint) : Prop where
  status_eq : job.status = .running
  footprint : job.task.payload.footprint? = some f
  incomplete : f.completed = false

/-- A run has ended well, and the stored job still awaits its transaction or is done. -/
def Survives (id : Identifier) (f : Footprint) (st : Store) (result : Except Fault Job) : Prop :=
  ∃ job, result = .ok job ∧ st.get? id = some job ∧ (job.Awaits f ∨ job.status = .done)

/-- A run has failed, and so has the stored job. -/
def GivenUp (id : Identifier) (st : Store) (result : Except Fault Job) : Prop :=
  (∃ fault, result = .error fault) ∧ ∃ job, st.get? id = some job ∧ job.status = .error

/-- A run that has not been dropped and has met no setback has left the transaction alone; any other
has given it up. -/
def SparedOrGivenUp (id : Identifier) (f : Footprint) (setbacks : List TaskError)
    (dropped : Bool) (st : Store) (log : List Event) (result : Except Fault Job) : Prop :=
  (dropped = false ∧ traceOf Event.setback? log = setbacks ∧ Survives id f st result) ∨
    (¬(dropped = false ∧ traceOf Event.setback? log = setbacks) ∧ GivenUp id st result)

section

variable {s : Services σ} {r : Session} {w w' : World σ} {job stored held : Job} {f : Footprint}

theorem Job.Awaits.isTerminal (h : job.Awaits f) : job.status.isTerminal = false := by
  rw [h.status_eq]
  rfl

/-- Storing the job as running again charges nothing, so that it can only be dropped. -/
theorem Job.Awaits.eq_dropped {p : BillingPolicy} {kind : Kind} {h : Halt} (hawaits : job.Awaits f)
    (hh : h.IsOfStoring (p.chargeOwed job.status .running kind)) : h = .dropped := by
  refine hh.eq_dropped ?_
  rw [hawaits.status_eq]
  exact p.chargeOwed_self _ _

theorem Job.Awaits.payload_eq (h : job.Awaits f) :
    ∃ action, job.task.payload = .chain action (some f) := by
  have := h.footprint
  cases hp : job.task.payload with
  | chain action footprint =>
    rw [hp] at this
    cases this
    exact ⟨action, rfl⟩
  | _ =>
    rw [hp] at this
    cases this

/-- With positive funds the gate is open. -/
theorem Gate.eq_ok {login : String} {kind : Kind} {events : List Event}
    {result : Except Fault Unit} (hfunds : s.FundsPositive) (h : Gate s login kind events result) :
    result = .ok () ∧ traceOf Event.setback? events = [] := by
  cases h with
  | free | funded => exact ⟨rfl, rfl⟩
  | poor hb x hx hf =>
    obtain ⟨funds, hx', hpos⟩ := hfunds login x
    rw [hx] at hx'
    cases hx'
    rw [hf] at hpos
    cases hpos
  | refused hb x hx | crashed hb x hx =>
    obtain ⟨funds, hx', -⟩ := hfunds login x
    rw [hx] at hx'
    cases hx'

/-- A job that is stored as failed is given up. -/
theorem failsTo_givenUp {id : Identifier} {setbacks : List TaskError} {login : String}
    {dropped : Bool} {e : TaskError} (hj : w.store.get? held.id = some stored)
    (hid : held.id = id)
    (hlost : ¬(dropped = false ∧ traceOf Event.setback? w.log = setbacks)) :
    FailsTo (SparedOrGivenUp id f setbacks) s login dropped w held e := by
  refine ⟨stored, hj, ?_⟩
  intro w' t result hst hresult
  have hget := hst.get?
  rw [show (held.failed e).id = id from hid] at hget
  refine .inr ⟨?_, ?_, _, hget, rfl⟩
  · rw [hst.traceOf_eq Event.setback?_notOfStoring]
    exact hlost
  · rcases hresult with rfl | ⟨-, message, rfl⟩
    · exact ⟨_, rfl⟩
    · exact ⟨_, rfl⟩

theorem closesHalted_givenUp {id : Identifier} {setbacks : List TaskError} {h : Halt}
    (hj : w.store.get? held.id = some stored) (hid : held.id = id) (hretry : h.isRetryable = false)
    (hlost : ¬(h.isDropped = false ∧ traceOf Event.setback? w.log = setbacks)) :
    ClosesHalted (SparedOrGivenUp id f setbacks) s r w held h := by
  refine ⟨?_, fun _ => failsTo_givenUp hj hid hlost⟩
  intro htrue
  rw [hretry] at htrue
  cases htrue

/-- A run that waits for its transaction leaves the job waiting or done, unless it is set back. -/
theorem lifecycle_sparedOrGivenUp (hs : s.StoreSucceeds) (hreliable : s.Reliable)
    (hj : w.store.get? job.id = some job) (hawaits : job.Awaits f) :
    ((Executor.lifecycle job.task.kind).run (r.info s.limits)).Meets s r w job
      (ClosesDone (SparedOrGivenUp job.id f (traceOf Event.setback? w.log)) s r)
      (ClosesHalted (SparedOrGivenUp job.id f (traceOf Event.setback? w.log)) s r) := by
  obtain ⟨action, hpayload⟩ := hawaits.payload_eq
  refine Executor.meets_lifecycle hs hj hawaits.isTerminal hpayload ?_ ?_ ?_
  · intro w' held h hst hh
    -- the job could not even be stored as running again
    obtain rfl := hawaits.eq_dropped hh
    obtain ⟨stored, hget⟩ := hst.exists_get? hj
    exact closesHalted_givenUp hget hst.id_eq rfl (by simp [Halt.isDropped])
  · intro w₁ w' t₁ t₂ events h hst hstore hlog hx
    have hget := hst.get?_of_store_eq hstore
    refine closesHalted_givenUp hget rfl hx.isRetryable ?_
    -- no call fails on its own, so that this one was interrupted, which the log tells
    rintro ⟨-, htrace⟩
    rw [hlog, traceOf_append, hst.traceOf_eq Event.setback?_notOfStoring] at htrace
    have hnone := List.append_right_eq_self.1 htrace
    rcases hx.cause with ⟨message, c, x, hc, hcrash, -⟩ | ⟨e, -, hset⟩
    · obtain ⟨a, ha⟩ := hreliable.answers c x hc
      rw [ha] at hcrash
      cases hcrash
    · rw [hset] at hnone
      cases hnone
  · intro w₁ w₂ t₁ t₂ events a settings hst hstore hlog ho _
    have htrace : traceOf Event.setback? w₂.log = traceOf Event.setback? w.log := by
      rw [World.traceOf_of_silent hlog ho.setback,
        hst.traceOf_eq Event.setback?_notOfStoring]
    have hget := hst.get?_of_store_eq hstore
    have hfoot : (job.running.stamped t₂).task.payload.footprint? = some f := hawaits.footprint
    have hawaits₂ : (job.running.stamped t₂).Awaits f := ⟨rfl, hfoot, hawaits.incomplete⟩
    refine Executor.Attempt.meets_conclude hs hget hfoot hawaits.incomplete ?_ ?_ ?_ ?_
    · intro w' events' undecided hstore' hlog' hpolls _
      refine .inl ⟨rfl, ?_, _, rfl, ?_, .inl hawaits₂⟩
      · rw [World.traceOf_of_silent hlog' hpolls.setback, htrace]
      · rw [hstore']
        exact hget
    · intro w' events' h _ _ hw hretry _
      cases hw with
      | failed undecided hpolls hall hx => exact absurd hx (hreliable.decisions _ _ _ _)
      | pending => cases hretry
      | crashed undecided hpolls hall hx => exact absurd hx (hreliable.polls _ _ _ _)
    · intro w' held j hj' hgrows _
      have hid : held.id = job.id := hgrows.id_eq
      exact failsTo_givenUp hj' hid (by simp)
    · intro w₃ w' events' undecided held hstore' hlog' hpolls _ hconcludes
      refine .inl ⟨rfl, ?_, held, rfl, hconcludes.get?, .inr hconcludes.status_eq⟩
      rw [hconcludes.traceOf_eq Event.setback?_notOfStoring, hlog', traceOf_append,
        hpolls.setback, List.append_nil, htrace]

/-- The same, for a whole run. -/
theorem run_sparedOrGivenUp (hs : s.StoreSucceeds) (hfunds : s.FundsPositive)
    (hreliable : s.Reliable) (user : Account) (hj : w.store.get? job.id = some job)
    (hawaits : job.Awaits f) (hfree : w.leases.isLive job.id = false) :
    SparedOrGivenUp job.id f (traceOf Event.setback? w.log) (isDropped s .standard user job w)
      (run s .standard user job w).1.store (run s .standard user job w).1.log
      (run s .standard user job w).2 := by
  refine run_of_meets (P := SparedOrGivenUp job.id f (traceOf Event.setback? w.log)) hs
    ?_ ?_ ?_ ?_ ?_
  -- the ends before the program: each of them is ruled out
  · intro hterm
    rw [hawaits.isTerminal] at hterm
    cases hterm
  · intro hbusy
    rw [hfree] at hbusy
    cases hbusy
  · intro events message hgate
    cases (hgate.eq_ok hfunds).1
  · intro events e w' _ hgate _ _
    cases (hgate.eq_ok hfunds).1
  · intro events w' r _ hgate hstore hlog _ _ _
    obtain ⟨action, hpayload⟩ := hawaits.payload_eq
    rw [Executor.standard_of_chain hpayload]
    have htrace : traceOf Event.setback? w'.log = traceOf Event.setback? w.log := by
      rw [World.traceOf_of_silent hlog (hgate.eq_ok hfunds).2]
    rw [← htrace]
    exact lifecycle_sparedOrGivenUp hs hreliable (by rw [hstore, hj]) hawaits

/-- **When an interruption spares a submitted transaction.** A run of a stored job that awaits its
transaction ends well, with the job still awaiting it or done, exactly if it was not dropped and no
call on its way to the chain was interrupted. Otherwise the run fails and the job is stored as
failed. -/
theorem survives_iff (hs : s.StoreSucceeds) (hfunds : s.FundsPositive) (hreliable : s.Reliable)
    (user : Account) (hj : w.store.get? job.id = some job) (hawaits : job.Awaits f)
    (hfree : w.leases.isLive job.id = false) :
    let after := run s .standard user job w
    (Survives job.id f after.1.store after.2 ↔ isDropped s .standard user job w = false ∧
      traceOf Event.setback? after.1.log = traceOf Event.setback? w.log) ∧
    (¬Survives job.id f after.1.store after.2 → GivenUp job.id after.1.store after.2) := by
  intro after
  rcases run_sparedOrGivenUp hs hfunds hreliable user hj hawaits hfree with
    ⟨hdropped, htrace, hsurvives⟩ | ⟨hlost, hgiven⟩
  · exact ⟨⟨fun _ => ⟨hdropped, htrace⟩, fun _ => hsurvives⟩, fun hno => absurd hsurvives hno⟩
  · refine ⟨⟨?_, fun h => absurd h hlost⟩, fun _ => hgiven⟩
    rintro ⟨t, hok, -⟩
    obtain ⟨fault, herror⟩ := hgiven.1
    rw [hok] at herror
    cases herror

end

theorem Services.fundsPositive_willing : Services.willing.FundsPositive :=
  fun _ _ => ⟨.one, rfl, by decide⟩

theorem Services.reliable_willing : Services.willing.Reliable := by
  refine ⟨?_, ?_, ?_⟩
  · intro c x hc
    cases c with
    | poll => cases hc
    | _ => exact ⟨_, rfl⟩
  · rintro client txId ⟨patience, pending⟩ message h
    cases pending <;> cases h
  · rintro client txId ⟨patience, pending⟩ reason h
    cases pending <;> cases h

/-- The footprint that the sample job has left when it awaits its transaction. -/
def Footprint.sample : Footprint := ⟨"0xsent", none, none, false, .epoch⟩

/-- The sample job while it awaits its transaction. -/
def Job.sampleSubmitted : Job :=
  Job.sample.running.mapPayload (.withFootprint .sample) (Payload.shape_withFootprint .sample)

/-- The submitted sample job is stored, and its next run is asked to stop on its way. -/
def World.awaiting (patience : List (Option Nat)) : World Outlook :=
  .seeded ⟨patience, 1⟩ .sampleSubmitted

/-- A run of the submitted sample job that is asked to stop at once gives its transaction up, and
one that is asked to stop while it rests leaves it alone. -/
theorem sample_survives_iff :
    let after (patience : List (Option Nat)) :=
      run .willing .standard .sample .sampleSubmitted (.awaiting patience)
    GivenUp default (after [some 0]).1.store (after [some 0]).2 ∧
      Survives default .sample (after [none, none, none, none, none, some 0]).1.store
        (after [none, none, none, none, none, some 0]).2 := by
  have hawaits : Job.sampleSubmitted.Awaits .sample := ⟨rfl, rfl, rfl⟩
  have h (patience) := survives_iff (w := .awaiting patience) Services.storeSucceeds_willing
    Services.fundsPositive_willing Services.reliable_willing .sample (get?_seeded _ _) hawaits rfl
  refine ⟨(h [some 0]).2 fun hsurvives => ?_, (h _).1.2 ?_⟩
  · have hlost := (h [some 0]).1.1 hsurvives
    revert hlost
    decide +kernel
  · decide +kernel

/-- A run of the submitted sample job that is asked to stop while it connects fails, and the job is
stored as failed. -/
theorem sample_given_up_on_connect :
    let after := run .willing .standard .sample .sampleSubmitted (.awaiting [none, none, some 0])
    after.2.toOption = none ∧
      (after.1.store.get? default).map Job.status = some .error := by
  decide +kernel

end WalletTasks
