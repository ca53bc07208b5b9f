import Mathlib.Algebra.Order.Floor.Div
import WalletTasks.Proofs.Conclusion
import WalletTasks.Proofs.Interruption
import WalletTasks.Proofs.Keeping
import WalletTasks.Proofs.Timing

/-!
# The wait for a decision ends

A submitted transaction is polled until it is decided, with a rest between two polls. Nothing counts
the polls: the wait ends by a decision or by the deadline. With an interval `d` and the time `R`
left there is room for `R / d` polls, rounded up, and the first of their answers that decides
anything decides how the wait ends; what decides nothing, a failure of the chain among it, only
takes time.

* `Attempt.awaitDecision_enough`: a bound on the polls makes no difference beyond the time that is
  left.
* `Attempt.meets_awaitDecision_calm`: the wait comes to what the first decision says.
* `Attempt.wait_decides`: and so does the program that stores it.
-/

namespace WalletTasks

variable {σ : Type}

/-! ## Answers and decisions -/

namespace Poll

/-- What a poll decides, if anything. -/
def decision? : Poll → Option TransactionState
  | .ok .confirmed => some .confirmed
  | .ok (.failed reason) => some (.failed reason)
  | .ok .pending | .error _ => none

/-- The reply of a client that gives the answer. -/
def reply : Poll → Reply ChainError TransactionState
  | .ok state => .value state
  | .error e => .error e

/-- Nothing is decided as long as the transaction is pending. -/
theorem decision?_ne_pending (p : Poll) : p.decision? ≠ some .pending := by
  rcases p with e | _ | _ | reason <;> simp [decision?]

theorem ofReply_reply (client : Network) (txId : String) (p : Poll) :
    Verdict.ofReply (.poll client txId) p.reply = .answer (p.mapError .chain) := by
  cases p <;> rfl

end Poll

/-- The first answer that decides anything stands behind so many that do not. -/
structure DecidesAt (answers : Nat → Poll) (k : Nat) (state : TransactionState) : Prop where
  undecided : ∀ i < k, (answers i).decision? = none
  decision : (answers k).decision? = some state

/-- The first decision among the first answers of a sequence. -/
def firstDecision? (answers : Nat → Poll) : Nat → Option TransactionState
  | 0 => none
  | n + 1 => (answers 0).decision? <|> firstDecision? (fun k => answers (k + 1)) n

theorem firstDecision?_succ_of_decided {answers : Nat → Poll} {state : TransactionState}
    (h : (answers 0).decision? = some state) (n : Nat) :
    firstDecision? answers (n + 1) = some state := by
  rw [firstDecision?, h]
  rfl

/-- Behind an undecided answer the next one is looked at. -/
theorem firstDecision?_succ_of_undecided {answers : Nat → Poll}
    (h : (answers 0).decision? = none) (n : Nat) :
    firstDecision? answers (n + 1) = firstDecision? (fun k => answers (k + 1)) n := by
  rw [firstDecision?, h]
  rfl

/-- **The first decision is what the first answer that decides anything says**, wherever it stands
and whatever stands in front of it. -/
theorem DecidesAt.firstDecision? {answers : Nat → Poll} {state : TransactionState} {k n : Nat}
    (h : DecidesAt answers k state) (hn : k < n) : firstDecision? answers n = some state := by
  induction n generalizing answers k with
  | zero => cases hn
  | succ n ih =>
    cases k with
    | zero => exact firstDecision?_succ_of_decided h.decision n
    | succ k =>
      rw [firstDecision?_succ_of_undecided (h.undecided 0 (Nat.succ_pos k))]
      exact ih ⟨fun i hi => h.undecided (i + 1) (Nat.succ_lt_succ hi), h.decision⟩
        (Nat.lt_of_succ_lt_succ hn)

/-- Nothing is decided if no answer decides. -/
theorem firstDecision?_eq_none {answers : Nat → Poll} {n : Nat}
    (h : ∀ i < n, (answers i).decision? = none) : firstDecision? answers n = none := by
  induction n generalizing answers with
  | zero => rfl
  | succ n ih =>
    rw [firstDecision?_succ_of_undecided (h 0 (Nat.succ_pos n))]
    exact ih fun i hi => h (i + 1) (Nat.succ_lt_succ hi)

/-- How many polls were made. -/
def pollsIn (log : List Event) : Nat :=
  (traceOf (fun e => e.call?.filter Call.isPoll) log).length

/-- The answers to polls are those of a sequence, from a place on that depends on the state of the
services: a poll is answered at once and moves on to the next place. Nobody asks a run to stop. -/
structure Services.Plays (s : Services σ) (client : Network) (txId : String)
    (upcoming : σ → Nat → Poll) : Prop where
  calm : ∀ x, ∃ y, s.patience x = (y, none) ∧ upcoming y = upcoming x
  answer : ∀ x, ∃ y, s.respond (.poll client txId) x = (y, ⟨0, (upcoming x 0).reply⟩) ∧
    upcoming y = fun k => upcoming x (k + 1)

/-! ## Rounds of the wait -/

/-- How many polls there is room for: one at the start, and one behind every interval that is over
before the deadline. -/
def Session.rounds (r : Session) (now interval : Nat) : Nat := (r.deadline - now) ⌈/⌉ interval

namespace Session

variable {r : Session} {now interval : Nat}

/-- There is another round if the next rest ends before the deadline. -/
theorem rounds_of_lt (hpos : 0 < interval) (h : now + interval < r.deadline) :
    r.rounds now interval = r.rounds (now + interval) interval + 1 := by
  have hsplit : r.deadline - now + interval - 1 =
      r.deadline - (now + interval) + interval - 1 + interval := by omega
  rw [rounds, rounds, Nat.ceilDiv_eq_add_pred_div, Nat.ceilDiv_eq_add_pred_div, hsplit,
    Nat.add_div_right _ hpos]

theorem rounds_of_le (hnow : now < r.deadline)
    (h : r.deadline ≤ now + interval) : r.rounds now interval = 1 := by
  rw [rounds, Nat.ceilDiv_eq_add_pred_div]
  refine Nat.div_eq_of_lt_le ?_ ?_ <;> omega

theorem rounds_pos (hpos : 0 < interval) (hnow : now < r.deadline) : 0 < r.rounds now interval := by
  by_cases h : now + interval < r.deadline
  · rw [rounds_of_lt hpos h]
    exact Nat.succ_pos _
  · rw [rounds_of_le hnow (Nat.le_of_not_lt h)]
    exact Nat.one_pos

/-- The number of rounds is bounded by how often the interval fits into the time that is left. -/
theorem rounds_le (hpos : 0 < interval) :
    r.rounds now interval ≤ (r.deadline - now) / interval + 1 := by
  rw [rounds, Nat.ceilDiv_eq_add_pred_div, ← Nat.add_div_right _ hpos]
  exact Nat.div_le_div_right (by omega)

end Session

namespace Executor.Attempt

open Routine

variable {s : Services σ} {r : Session} {w : World σ} {job : Job} {a : Attempt} {txId : String}
  {interval : Nat} {upcoming : σ → Nat → Poll}

/-- **The bound on the polls makes no difference** beyond the time that is left: in front of the
deadline there is no room for more rests, whatever the services do. -/
theorem awaitDecision_enough (hpos : 0 < interval) {m n : Nat}
    (hm : (r.deadline - w.now) / interval < m) (hn : (r.deadline - w.now) / interval < n) :
    drive s r (a.awaitDecision txId interval m job) w =
      drive s r (a.awaitDecision txId interval n job) w := by
  induction m generalizing n w with
  | zero => exact absurd hm (Nat.not_lt_zero _)
  | succ m ih =>
    obtain ⟨n, rfl⟩ := Nat.exists_eq_succ_of_ne_zero (Nat.ne_of_gt (Nat.zero_lt_of_lt hn))
    have hagain : ∀ w₁ : World σ, w.now ≤ w₁.now →
        drive s r ((do
          let slept ← ask (.sleep interval)
          ofExcept (slept.mapError waitInterrupted)
          a.awaitDecision txId interval m : Routine Unit) job) w₁ =
        drive s r ((do
          let slept ← ask (.sleep interval)
          ofExcept (slept.mapError waitInterrupted)
          a.awaitDecision txId interval n : Routine Unit) job) w₁ := by
      intro w₁ hle
      rw [drive_ask_bind, drive_ask_bind]
      obtain ⟨w', e, -, hp, -, -⟩ | ⟨w₂, hp, -, -, hnow, hdeadline⟩ :=
        World.perform_sleep_cases (s := s) (r := r) (w := w₁) job interval
      · rw [hp]
        rfl
      · rw [hp]
        have hless : (r.deadline - w₂.now) / interval + 1 ≤ (r.deadline - w.now) / interval := by
          rw [← Nat.add_div_right _ hpos]
          exact Nat.div_le_div_right (by omega)
        refine ih (w := w₂) ?_ ?_
        · omega
        · omega
    unfold awaitDecision
    rw [drive_ask_bind, drive_ask_bind]
    have hle := World.now_le_perform (s := s) (r := r) (w := w) job (.call (.poll a.client txId))
    obtain ⟨w₁, v, hp, -⟩ := World.perform_call (s := s) (r := r) (w := w) job
      (.poll a.client txId)
    rw [hp] at hle ⊢
    -- only what is undecided goes round again
    rcases v with (e | state) | message
    · cases e with
      | chain e => exact hagain _ hle
      | _ => rfl
    · cases state with
      | pending => exact hagain _ hle
      | _ => rfl
    · rfl

/-- A poll in a calm world. -/
theorem perform_poll (job : Job) (hplays : s.Plays a.client txId upcoming)
    (hfree : w.interruption? r = none) :
    ∃ y response, w.perform s r job (.call (.poll a.client txId)) =
        ({ w with outside := y, log := .called w.now (.poll a.client txId) response :: w.log }, job,
          some (.answer ((upcoming w.outside 0).mapError .chain))) ∧
      upcoming y = fun k => upcoming w.outside (k + 1) := by
  obtain ⟨x, hcalm, hx⟩ := hplays.calm w.outside
  obtain ⟨y, hreply, hy⟩ := hplays.answer x
  rw [hx] at hreply hy
  refine ⟨y, ⟨0, (upcoming w.outside 0).reply⟩, ?_, hy⟩
  rw [World.perform_call_calm hcalm hfree hreply, Poll.ofReply_reply]

/-- What a wait has done by the time it ends: it has made some polls, and nothing else. -/
structure Polled (w w' : World σ) (polls : Nat) : Prop where
  store_eq : w'.store = w.store
  pollsIn_le : pollsIn w'.log ≤ pollsIn w.log + polls

theorem Polled.mono {w' : World σ} {m n : Nat} (h : Polled w w' m) (hmn : m ≤ n) :
    Polled w w' n :=
  ⟨h.store_eq, Nat.le_trans h.pollsIn_le (Nat.add_le_add_left hmn _)⟩

/-- Polls are counted along the way. -/
theorem Polled.trans {w₁ w₂ : World σ} {m n : Nat} (h : Polled w w₁ m) (h' : Polled w₁ w₂ n) :
    Polled w w₂ (m + n) :=
  ⟨h'.store_eq.trans h.store_eq, by have := h.pollsIn_le; have := h'.pollsIn_le; omega⟩

/-- A rest between two polls in a calm world: the next poll comes behind it, or the deadline. -/
theorem meets_between (hplays : s.Plays a.client txId upcoming) (hpos : 0 < interval)
    (hfree : w.interruption? r = none) {next : Routine Unit}
    {D : World σ → Job → Unit → Prop} {H : World σ → Job → Halt → Prop}
    (hnext : ∀ x, upcoming x = upcoming w.outside → w.now + interval < r.deadline →
      next.Meets s r { w with outside := x, now := w.now + interval } job D H)
    (hpending : ∀ x, r.deadline ≤ w.now + interval →
      H { w with outside := x, now := r.deadline } job (.failed .transactionNotReady)) :
    (do
      let slept ← ask (.sleep interval)
      ofExcept (slept.mapError waitInterrupted)
      next : Routine Unit).Meets s r w job D H := by
  simp only [meets_bind, meets_ofExcept]
  obtain ⟨x, hcalm, hx⟩ := hplays.calm w.outside
  rw [meets_ask, World.perform_sleep_calm hcalm hfree hpos]
  by_cases hlt : w.now + interval < r.deadline
  · rw [if_pos hlt]
    exact hnext x hx hlt
  · rw [if_neg hlt]
    exact hpending x (Nat.le_of_not_lt hlt)

/-- **What the wait for a decision comes to**, where all polls are answered at once and nobody asks
the run to stop: what the first decision says that comes in front of the deadline. -/
theorem meets_awaitDecision_calm (hplays : s.Plays a.client txId upcoming) (hpos : 0 < interval)
    (polls : Nat) (henough : r.rounds w.now interval ≤ polls) (hfree : w.interruption? r = none)
    {D : World σ → Job → Unit → Prop} {H : World σ → Job → Halt → Prop}
    (hconfirmed : ∀ w', Polled w w' (r.rounds w.now interval) → w'.now < r.deadline →
      firstDecision? (upcoming w.outside) (r.rounds w.now interval) = some .confirmed →
      D w' job ())
    (hfailed : ∀ w' reason, Polled w w' (r.rounds w.now interval) →
      firstDecision? (upcoming w.outside) (r.rounds w.now interval) = some (.failed reason) →
      H w' job (.failed (.transactionFailed txId reason)))
    (hpending : ∀ w', Polled w w' (r.rounds w.now interval) → w'.now = r.deadline →
      firstDecision? (upcoming w.outside) (r.rounds w.now interval) = none →
      H w' job (.failed .transactionNotReady)) :
    (a.awaitDecision txId interval polls).Meets s r w job D H := by
  induction polls generalizing w with
  | zero =>
    have hroom := Session.rounds_pos hpos (World.interruption?_eq_none_iff.1 hfree).2
    omega
  | succ polls ih =>
    obtain ⟨hcancelled, hnow⟩ := World.interruption?_eq_none_iff.1 hfree
    obtain ⟨n, hn⟩ := Nat.exists_eq_succ_of_ne_zero (Nat.ne_of_gt (Session.rounds_pos hpos hnow))
    obtain ⟨y, response, hpoll, hy⟩ := perform_poll job hplays hfree
    unfold awaitDecision
    simp only [meets_bind]
    rw [meets_ask, hpoll]
    simp only [World.hear]
    generalize hw₁ : ({ w with
      outside := y
      log := .answered (.poll a.client txId) ((upcoming w.outside 0).mapError .chain) ::
        .called w.now (.poll a.client txId) response :: w.log } : World σ) = w₁
    have hpolled : Polled w w₁ 1 := by
      subst hw₁
      exact ⟨rfl, by simp [pollsIn, Event.call?]⟩
    obtain ⟨hup, hnow₁, hfree₁⟩ : upcoming w₁.outside = (fun k => upcoming w.outside (k + 1)) ∧
        w₁.now = w.now ∧ w₁.interruption? r = none := by
      subst hw₁
      exact ⟨hy, rfl, hfree⟩
    have hpolled' : Polled w w₁ (r.rounds w.now interval) :=
      hpolled.mono (Nat.succ_le_of_lt (Session.rounds_pos hpos hnow))
    have hagain : (upcoming w.outside 0).decision? = none → (do
        let slept ← ask (.sleep interval)
        ofExcept (slept.mapError waitInterrupted)
        a.awaitDecision txId interval polls : Routine Unit).Meets s r w₁ job D H := by
      intro hundecided
      refine meets_between hplays hpos hfree₁ ?_ ?_
      · intro x hx hlt
        rw [hnow₁] at hlt ⊢
        -- what is left of the answers, of the rounds and of the time is as at the next poll
        have hrounds := Session.rounds_of_lt hpos hlt
        have hshift : firstDecision? (upcoming w.outside) (r.rounds w.now interval) =
            firstDecision? (upcoming x) (r.rounds (w.now + interval) interval) := by
          rw [hrounds, firstDecision?_succ_of_undecided hundecided, hx, hup]
        have hover : ∀ {w'}, Polled { w₁ with outside := x, now := w.now + interval } w'
            (r.rounds (w.now + interval) interval) → Polled w w' (r.rounds w.now interval) := by
          intro w' h
          rw [hrounds, Nat.add_comm]
          exact hpolled.trans ⟨h.store_eq, h.pollsIn_le⟩
        have hfree₂ : ({ w₁ with outside := x, now := w.now + interval } : World σ).interruption?
            r = none :=
          World.interruption?_eq_none_iff.2 ⟨(World.interruption?_eq_none_iff.1 hfree₁).1, hlt⟩
        rw [hshift] at hconfirmed hfailed hpending
        rw [hrounds] at henough
        refine ih (w := { w₁ with outside := x, now := w.now + interval })
          (Nat.le_of_succ_le_succ henough) hfree₂ ?_ ?_ ?_
        · exact fun w' h hnow' hfirst => hconfirmed w' (hover h) hnow' hfirst
        · exact fun w' reason h hfirst => hfailed w' reason (hover h) hfirst
        · exact fun w' h hnow' hfirst => hpending w' (hover h) hnow' hfirst
      · -- the deadline comes during the rest, and there was room for this poll only
        intro x hle
        rw [hnow₁] at hle
        refine hpending _ ⟨hpolled'.store_eq, hpolled'.pollsIn_le⟩ rfl ?_
        rw [Session.rounds_of_le hnow hle, firstDecision?_succ_of_undecided hundecided]
        rfl
    rcases hp : upcoming w.outside 0 with e | ⟨⟩ | ⟨⟩ | ⟨reason⟩
    · exact hagain (by rw [hp]; rfl)
    · exact hagain (by rw [hp]; rfl)
    · refine hconfirmed w₁ hpolled' (hnow₁ ▸ hnow) ?_
      rw [hn]
      exact firstDecision?_succ_of_decided (by rw [hp]; rfl) n
    · refine hfailed w₁ reason hpolled' ?_
      rw [hn]
      exact firstDecision?_succ_of_decided (by rw [hp]; rfl) n

/-! ## The wait -/

/-- A wait that nobody interrupts: the transaction is on record and not confirmed, there is time
left, and the polls are answered at once with the answers of a sequence. -/
structure Waits (a : Attempt) (f : Footprint) (interval : Span) (answers : Nat → Poll)
    (s : Services σ) (r : Session) (w : World σ) (job : Job) : Prop where
  footprint_eq : job.task.payload.footprint? = some f
  isOpen : f.completed = false
  interval_pos : 0 < interval.nanos
  free : w.interruption? r = none
  plays : ∃ upcoming, s.Plays a.client f.txId upcoming ∧ upcoming w.outside = answers

/-- The store has the job with the status that it is held in, and can be written to in the time that
is left when a deadline is near. -/
structure Keeps (s : Services σ) (w : World σ) (job : Job) : Prop where
  succeeds : s.StoreSucceeds
  prompt : ∀ x, 3 * (s.lag x).2 ≤ grace
  stored : ∃ stored, w.store.get? job.id = some stored ∧ stored.status = job.status

/-- How a wait ends, by the first decision in time. -/
structure WaitEnds (s : Services σ) (r : Session) (w : World σ) (job : Job) (f : Footprint)
    (rounds : Nat) (first : Option TransactionState) (e : Ending σ Unit) : Prop where
  pollsIn_le : pollsIn e.world.log ≤ pollsIn w.log + rounds
  confirmed : first = some .confirmed →
    e.held.task.payload.footprint? = some { f with completed := true } ∧
      (Keeps s w job →
        e.outcome = .returned (.ok ()) ∧ e.world.store.get? job.id = some e.held)
  failed : ∀ reason, first = some (.failed reason) →
    e.outcome = .returned (.error (.transactionFailed f.txId reason)) ∧ e.held = job ∧
      e.world.store = w.store
  undecided : first = none →
    e.outcome = .returned (.error .transactionNotReady) ∧ e.held = job ∧
      e.world.store = w.store ∧ e.world.now = r.deadline

/-- An entry is audited in time if the store lags less than the grace. -/
theorem meets_audit_in_time (hs : s.StoreSucceeds) {lag : Nat}
    (hlag : ∀ x, (s.lag x).2 ≤ lag) (htime : w.now + lag ≤ r.backstop) {role : TransactionRole}
    {gas : Option GasPlan} {D : World σ → Job → Unit → Prop} {H : World σ → Job → Halt → Prop}
    (hdone : ∀ w' t, w'.store = w.store.audit (a.entry job txId role gas t) → D w' job ()) :
    (a.audit txId role gas).Meets s r w job D H := by
  unfold audit
  simp only [meets_bind, meets_held]
  refine meets_clock_iff.2 ?_
  obtain ⟨outside, hrecord⟩ := World.recordTransaction_eq (w := w) hs
    (a.entry job txId role gas (s.wallClock w.now))
  refine meets_ask_in_time (q := .audit _) rfl (by simp only [World.startRequest, hrecord]; rfl)
    ((Nat.add_le_add_left (hlag _) _).trans htime) ?_
  intro w' hstore _ _
  exact hdone w' (s.wallClock w.now) hstore

/-- What is behind a confirmation leaves it in the job, and polls no more, whatever becomes of it in
the store. -/
theorem meets_confirm {f : Footprint} (hf : job.task.payload.footprint? = some f) :
    (do
      modify (Job.mapPayload .complete Payload.shape_complete)
      persist
      a.audit f.txId .primary f.gas : Routine Unit).Meets s r w job
      (fun w' held _ => pollsIn w'.log = pollsIn w.log ∧
        held.task.payload.footprint? = some { f with completed := true })
      (fun w' held _ => pollsIn w'.log = pollsIn w.log ∧
        held.task.payload.footprint? = some { f with completed := true }) := by
  have hkeeps : (do
      persist
      a.audit f.txId .primary f.gas : Routine Unit).KeepsTo (fun q => q.isRecording = true)
      fun held => held.task.payload.footprint? = some { f with completed := true } :=
    keepsTo_bind (keepsTo_persist fun _ => Request.isRecording_of_isAside)
      fun _ => keepsTo_audit rfl fun _ => rfl
  rw [meets_bind, meets_modify]
  obtain ⟨hlog, hheld⟩ := drive_logsOnly (s := s) (r := r) (w := w) (fun _ _ h => h)
    (hkeeps job.confirmed (Payload.footprint?_complete hf))
  refine meets_of_drive (Q := fun w' held => pollsIn w'.log = pollsIn w.log ∧
      held.task.payload.footprint? = some { f with completed := true })
    ⟨congrArg List.length (hlog.traceOf_eq ?_), hheld⟩ (fun _ _ _ h => h) fun _ _ _ h => h
  -- a call is no request that puts something on record
  rintro e ⟨q, hq, he⟩
  cases e with
  | called time c response => cases q <;> first | exact (he : False).elim | cases hq
  | _ => rfl

/-- If the store takes what it is given in time, then the confirmation is stored. -/
theorem meets_confirm_in_time {f : Footprint} (hkeeps : Keeps s w job)
    (hnow : w.now < r.deadline) :
    (do
      modify (Job.mapPayload .complete Payload.shape_complete)
      persist
      a.audit f.txId .primary f.gas : Routine Unit).Meets s r w job
      (fun w' held _ => w'.store.get? job.id = some held) fun _ _ _ => False := by
  obtain ⟨hs, hprompt, stored, hj, hsame⟩ := hkeeps
  have hlag : ∀ x, (s.lag x).2 ≤ grace / 3 := by
    intro x
    have := hprompt x
    omega
  have hj' : w.store.get? job.confirmed.id = some stored := hj
  -- each of the three calls of the store may take a third of the grace
  have hspare : r.backstop = r.deadline + 3 * (grace / 3) + 1 := rfl
  simp only [meets_bind, meets_modify]
  have hroom : w.now + 2 * (grace / 3) ≤ r.backstop := by omega
  refine meets_persist_in_time hs hlag hj' hsame hroom ?_
  intro w₁ t₁ t₂ hst hnow₁
  have htime : w₁.now + grace / 3 ≤ r.backstop := by omega
  refine meets_audit_in_time hs hlag htime ?_
  intro w₂ t hstore
  rw [hstore, Store.get?_audit]
  exact hst.get?

/-- **The first decision in time decides how the wait ends.** -/
theorem drive_wait {f : Footprint} {interval : Span} {answers : Nat → Poll}
    (h : Waits a f interval answers s r w job) :
    WaitEnds s r w job f (r.rounds w.now interval.nanos)
      (firstDecision? answers (r.rounds w.now interval.nanos))
      (drive s r (a.wait interval job) w) := by
  obtain ⟨hf, hopen, hpos, hfree, upcoming, hplays, rfl⟩ := h
  refine of_meets ?_
  unfold wait
  rw [meets_bind, meets_held, hf]
  simp only [hopen, Bool.false_eq_true, if_false]
  rw [meets_bind]
  refine meets_remaining_iff.2 ?_
  rw [meets_bind]
  -- confirmed, failed, or without a decision at the deadline
  refine meets_awaitDecision_calm hplays hpos _ (Session.rounds_le hpos) hfree ?_ ?_ ?_
  · intro w₁ hpolled hnow hfirst
    rw [hfirst]
    have hends : ∀ w' held outcome, pollsIn w'.log = pollsIn w₁.log →
        held.task.payload.footprint? = some { f with completed := true } →
        (Keeps s w job →
          outcome = .returned (.ok ()) ∧ w'.store.get? job.id = some held) →
        WaitEnds s r w job f (r.rounds w.now interval.nanos) (some .confirmed)
          ⟨w', held, outcome⟩ :=
      fun w' held outcome hpolls hcompleted hkept =>
        ⟨Nat.le_trans (Nat.le_of_eq hpolls) hpolled.pollsIn_le, fun _ => ⟨hcompleted, hkept⟩,
          by simp, by simp⟩
    have hconfirm := meets_confirm (s := s) (r := r) (w := w₁) (a := a) hf
    by_cases hkeeps : Keeps s w job
    · have hkeeps₁ : Keeps s w₁ job :=
        ⟨hkeeps.succeeds, hkeeps.prompt, hpolled.store_eq ▸ hkeeps.stored⟩
      refine meets_mono (meets_and hconfirm (meets_confirm_in_time hkeeps₁ hnow)) ?_ ?_
      · rintro w' held ⟨⟩ ⟨⟨hpolls, hcompleted⟩, hstored⟩
        exact hends w' held _ hpolls hcompleted fun _ => ⟨rfl, hstored⟩
      · exact fun w' held e h => h.2.elim
    · refine meets_mono hconfirm ?_ ?_
      · exact fun w' held _ h => hends w' held _ h.1 h.2 fun hk => absurd hk hkeeps
      · exact fun w' held _ h => hends w' held _ h.1 h.2 fun hk => absurd hk hkeeps
  · intro w' reason hpolled hfirst
    rw [hfirst]
    refine ⟨hpolled.pollsIn_le, by simp, ?_, by simp⟩
    rintro reason' ⟨rfl⟩
    exact ⟨rfl, rfl, hpolled.store_eq⟩
  · intro w' hpolled hnow hfirst
    rw [hfirst]
    exact ⟨hpolled.pollsIn_le, by simp, by simp, fun _ => ⟨rfl, rfl, hpolled.store_eq, hnow⟩⟩

/-- **The wait for a decision ends, and the first decision in time decides how.** What decides
nothing makes no difference: two waits of a job, with whatever intervals, deadlines and answers, end
the same if the first answers in time that decide anything are the same. -/
theorem wait_decides {f : Footprint} {interval : Span} {answers : Nat → Poll}
    (h : Waits a f interval answers s r w job) :
    WaitEnds s r w job f (r.rounds w.now interval.nanos)
        (firstDecision? answers (r.rounds w.now interval.nanos))
        (drive s r (a.wait interval job) w) ∧
      ∀ (τ : Type) (s' : Services τ) (r' : Session) (w' : World τ) (interval' : Span)
        (answers' : Nat → Poll) (k k' : Nat) (state : TransactionState),
        Waits a f interval' answers' s' r' w' job →
        DecidesAt answers k state → k < r.rounds w.now interval.nanos →
        DecidesAt answers' k' state → k' < r'.rounds w'.now interval'.nanos →
        (state = .confirmed → Keeps s w job ∧ Keeps s' w' job) →
        (drive s r (a.wait interval job) w).outcome =
          (drive s' r' (a.wait interval' job) w').outcome := by
  have hends := drive_wait h
  refine ⟨hends, ?_⟩
  intro τ s' r' w' interval' answers' k k' state h' hfirst hk hfirst' hk' hkeeps
  have hends' := drive_wait h'
  rw [hfirst.firstDecision? hk] at hends
  rw [hfirst'.firstDecision? hk'] at hends'
  cases state with
  | pending => exact absurd hfirst.decision (answers k).decision?_ne_pending
  | confirmed =>
    obtain ⟨hkept, hkept'⟩ := hkeeps rfl
    rw [((hends.confirmed rfl).2 hkept).1, ((hends'.confirmed rfl).2 hkept').1]
  | failed reason => rw [(hends.failed reason rfl).1, (hends'.failed reason rfl).1]

end Executor.Attempt

/-- Services that answer polls as a sequence has it, and do everything else at once. -/
def Services.playing : Services (Nat → Poll) where
  limits := .standard
  billing := ⟨.prod⟩
  wallClock _ := .epoch
  respond
    | .poll .., answers => (fun k => answers (k + 1), ⟨0, (answers 0).reply⟩)
    | c, answers => (answers, (Services.willing.respond c ⟨[], 0⟩).2)
  funds _ answers := (answers, .value .one)
  accept _ answers := (answers, .value ())
  draw least _ answers := (answers, least)
  patience answers := (answers, none)
  lag answers := (answers, 0)
  fault? _ answers := (answers, none)

/-- The attempt that the submitted sample job stands for. -/
def Executor.Attempt.sample : Executor.Attempt :=
  ⟨.deployStarkNetAccount, .deployAccount .starkNet, .starkNet, 1⟩

/-- A session that the time runs out for after so many seconds. -/
def Session.within (seconds : Nat) : Session :=
  ⟨.sample, default, .ofSeconds seconds, (Span.ofSeconds seconds).nanos⟩

/-- The sample waits under any answers. -/
theorem Executor.Attempt.waits_sample (answers : Nat → Poll) {seconds : Nat}
    (h : 0 < (Span.ofSeconds seconds).nanos) {interval : Span} (hpos : 0 < interval.nanos) :
    Waits .sample .sample interval answers .playing (.within seconds)
      (.seeded answers .sampleSubmitted) .sampleSubmitted :=
  ⟨rfl, rfl, hpos, World.interruption?_eq_none_iff.2 ⟨rfl, h⟩, id,
    ⟨fun x => ⟨x, rfl, rfl⟩, fun _ => ⟨_, rfl, rfl⟩⟩, rfl⟩

/-- In ten seconds there is room for three polls with a rest of four seconds between two of them. A
transaction that a failure of the chain and a pending answer hide is confirmed as one is that is
confirmed at once, and one that would be confirmed at the fourth poll is not. -/
theorem Executor.Attempt.sample_wait_decides :
    let confirmedAt (k : Nat) : Nat → Poll := fun i =>
      if i = k then .ok .confirmed
      else if i = 0 then .error (.rpc .starkNet "busy") else .ok .pending
    let outcome (k : Nat) (interval : Span) :=
      (drive .playing (.within 10) (Attempt.sample.wait interval .sampleSubmitted)
        (.seeded (confirmedAt k) .sampleSubmitted)).outcome
    outcome 2 (.ofSeconds 4) = .returned (.ok ()) ∧
      outcome 2 (.ofSeconds 4) = outcome 0 (.ofSeconds 9) ∧
      outcome 3 (.ofSeconds 4) = .returned (.error .transactionNotReady) := by
  intro confirmedAt outcome
  have hfirst : DecidesAt (confirmedAt 2) 2 .confirmed := ⟨by decide, rfl⟩
  have hkeeps (k : Nat) : Keeps .playing (.seeded (confirmedAt k) .sampleSubmitted)
      .sampleSubmitted :=
    ⟨fun _ _ => rfl, fun _ => Nat.zero_le _, .sampleSubmitted, get?_seeded _ _, rfl⟩
  have h (k : Nat) := wait_decides (@waits_sample (confirmedAt k) 10 (by decide) (.ofSeconds 4)
    (by decide))
  refine ⟨?_, ?_, ?_⟩
  · exact (((h 2).1.confirmed (hfirst.firstDecision? (by decide))).2 (hkeeps 2)).1
  · exact (h 2).2 _ _ _ _ (.ofSeconds 9) (confirmedAt 0) 2 0 .confirmed
      (waits_sample _ (by decide) (by decide)) hfirst (by decide) ⟨by decide, rfl⟩ (by decide)
      fun _ => ⟨hkeeps 2, hkeeps 0⟩
  · exact ((h 3).1.undecided (firstDecision?_eq_none (by decide))).1

end WalletTasks
