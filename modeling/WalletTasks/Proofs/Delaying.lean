import WalletTasks.Proofs.Approaching
import WalletTasks.Proofs.Charging
import WalletTasks.Proofs.Fixing
import WalletTasks.Proofs.Interruption

/-!
# A delay is fixed once and never ends early

The first run of a delay takes the clock, adds a number of seconds, and stores the instant at which
the delay ends in front of its rest. Whatever cuts its runs short, they leave the stored job running
until then, with that instant; and a run that stores the job as done has rested up to it.

* `Executor.meets_restUntil`: a run of a delay whose end is fixed.
* `World.Shows.rerun`: what a run leaves lets the next run go on.
* `delay_fixed_once`: all runs of a delay.
-/

namespace WalletTasks

variable {σ : Type}

/-! ## What is relied on -/

/-- One clock for all runs, which never shows a leap second. It is not set back, and time passes on
it as it does for a rest: it has reached every moment of the calendar that is no further behind an
earlier reading than the time that has passed since. -/
structure Services.TellsTime (s : Services σ) : Prop where
  nano_lt : ∀ u, (s.wallClock u).nano < 1000000000
  reaches : ∀ (u v : Nat) (t : Instant), u ≤ v → t.nano < 1000000000 →
    t.toNanos ≤ (s.wallClock u).toNanos + (v - u : Nat) → t.toNanos ≤ (s.wallClock v).toNanos

theorem Services.TellsTime.mono {s : Services σ} (h : s.TellsTime) {u v : Nat} (huv : u ≤ v) :
    (s.wallClock u).toNanos ≤ (s.wallClock v).toNanos :=
  h.reaches u v _ huv (h.nano_lt u) (by omega)

/-- A number that is drawn lies between its bounds. -/
def Services.DrawsWithin (s : Services σ) : Prop :=
  ∀ least most x, least ≤ most →
    least ≤ (s.draw least most x).2 ∧ (s.draw least most x).2 ≤ most

/-- Every charge is accepted. -/
def Services.AcceptsCharges (s : Services σ) : Prop := ∀ charge x, (s.accept charge x).2 = .value ()

namespace Delay

/-- The delay may wait for so many seconds: for its own number, or for one from its range. -/
def MayWait (d : Delay) (n : Nat) : Prop :=
  match d.range with
  | some range => range.least.toNat ≤ n ∧ n ≤ range.most.toNat
  | none => n = d.seconds.toNat

/-- The range leaves a choice, and the calendar has the end of each wait that it leaves. -/
structure IsValid (d : Delay) (now : Instant) : Prop where
  choosable : ¬d.IsUnchoosable
  reaches : ∀ n, d.MayWait n → now.Reaches n

/-- What a delay draws lies within its range. -/
theorem mayWait_chosen {s : Services σ} {d : Delay} (hdraw : s.DrawsWithin)
    (hchoice : ¬d.IsUnchoosable) (x : σ) : d.MayWait (d.chosen s x).toNat := by
  unfold MayWait chosen
  cases hrange : d.range with
  | none => rfl
  | some range =>
    have hle : range.least ≤ range.most := by
      refine UInt64.not_lt.1 fun hlt => hchoice ⟨range, hrange, hlt⟩
    exact hdraw _ _ x hle

end Delay

/-- The end of a wait by a clock that shows no leap second. -/
theorem Instant.toNanos_addSeconds? {t u : Instant} {n : Nat} (h : t.addSeconds? n = some u)
    (hnano : t.nano < 1000000000) :
    u.toNanos = t.toNanos + n * 1000000000 ∧ u.nano < 1000000000 := by
  obtain ⟨hseconds, hkept⟩ := addSeconds?_eq_some h
  have hsame := hkept hnano
  refine ⟨?_, hsame ▸ hnano⟩
  unfold toNanos
  rw [hseconds, hsame]
  omega

/-- Only billable kinds are charged for. -/
theorem BillingPolicy.isBillable_of_chargeOwed {p : BillingPolicy} {before after : Status}
    {kind : Kind} (h : p.chargeOwed before after kind = true) : p.isBillable kind = true := by
  unfold chargeOwed at h
  simp only [Bool.and_eq_true] at h
  exact h.2

theorem Task.kind_of_delay {t : Task} {d : Delay} (h : t.payload = .delay d) : t.kind = .delay := by
  have hshape := t.shape_payload
  rw [h] at hshape
  cases hkind : t.kind <;> rw [hkind] at hshape <;> first | rfl | cases hshape

/-! ## A delay on record -/

variable {s : Services σ} {r : Session} {job held stored : Job} {d : Delay} {t : Instant}
  {w w₁ w' : World σ}

/-- The job with its end fixed. -/
structure Job.FixedAt (job : Job) (d : Delay) (t : Instant) (held : Job) : Prop where
  id_eq : held.id = job.id
  payload_eq : held.task.payload = .delay { d with waitUntil := some t }

/-- The job as it may be stored once its end is fixed: it is running, with the error that it had
before, or it is done, which is stored by a clock that has reached the end. -/
structure Job.Delays (job : Job) (d : Delay) (t : Instant) (held : Job) : Prop
    extends job.FixedAt d t held where
  status : (held.status = .running ∧ held.error = job.error) ∨
    (held.status = .done ∧ t.toNanos ≤ held.updatedAt.toNanos)

/-- Between two worlds the job is only stored in this way. -/
def World.StoresDelay (job : Job) (d : Delay) (t : Instant) : World σ → World σ → Prop :=
  World.LogsOnly fun e => ∀ held, e = .updated held → job.Delays d t held

/-- The stored copy of the job. In front of its end it is running. -/
structure World.Shows (s : Services σ) (job : Job) (d : Delay) (t : Instant) (w : World σ)
    (held : Job) : Prop where
  get?_eq : w.store.get? job.id = some held
  delays : job.Delays d t held
  pending : (s.wallClock w.now).toNanos < t.toNanos →
    held.status = .running ∧ held.error = job.error

/-- What a run of the job does once its end is fixed: it stores the job in this way only, and gives
back the copy that it leaves in the store. -/
structure RunsDelay (s : Services σ) (job : Job) (d : Delay) (t : Instant) (before : World σ)
    (after : World σ × Except Fault Job) : Prop where
  stores : before.StoresDelay job d t after.1
  back : ∃ held, after.2 = .ok held ∧ after.1.Shows s job d t held

/-- It does not matter when a run of a delay starts. -/
theorem RunsDelay.of_waitUntil {start : Nat} {after : World σ × Except Fault Job}
    (h : RunsDelay s job d t (w.waitUntil start) after) : RunsDelay s job d t w after :=
  ⟨h.stores, h.back⟩

theorem World.StoresDelay.of_quiet
    (h : World.LogsOnly (fun e => ∀ held, e ≠ .updated held) w w') : w.StoresDelay job d t w' :=
  h.mono fun _ he held hupdated => absurd hupdated (he held)

/-- A write of a delay stores it with its end. -/
theorem World.Stores.storesDelay {login : String} {u v : Instant}
    (h : World.Stores s login stored held u v w w') (hheld : job.Delays d t (held.stamped v)) :
    w.StoresDelay job d t w' := by
  refine ⟨s.billing.chargeEvents login stored.status held ++ [.updated (held.stamped v)], ?_, ?_⟩
  · rw [h.log_eq, List.append_assoc]
    rfl
  · intro e he held' hupdated
    subst hupdated
    rcases List.mem_append.1 he with he | he
    · unfold BillingPolicy.chargeEvents at he
      split at he <;> simp at he
    · cases List.mem_singleton.1 he
      exact hheld

/-! ## The executor -/

/-- How the executor of a delay ends whose end is fixed, short of being dropped: the job is stored
as running, and another run is asked for, or it is stored as done. -/
inductive DelayEnds (s : Services σ) (job : Job) (d : Delay) (t : Instant) (w : World σ) :
    Ending σ Unit → Prop
  | pending {w' : World σ} {held : Job} (hstores : w.StoresDelay job d t w')
    (hj : w'.store.get? held.id = some held) (hheld : job.Delays d t held)
    (hstatus : held.status = .running) :
    DelayEnds s job d t w ⟨w', held, .returned (.error .delayPending)⟩
  | ended {w' : World σ} {held : Job} (hstores : w.StoresDelay job d t w')
    (hj : w'.store.get? held.id = some held) (hheld : job.Delays d t held)
    (hstatus : held.status = .done) (hpast : t.toNanos ≤ (s.wallClock w'.now).toNanos) :
    DelayEnds s job d t w ⟨w', held, .returned (.ok ())⟩
  | dropped (w' : World σ) (held : Job) : DelayEnds s job d t w ⟨w', held, .dropped⟩

namespace Executor

open Routine

/-- What a run of a delay does once its end is fixed. -/
def restUntil (t : Instant) : Routine Unit := do
  setStatus .running
  persist
  let now ← ask .clock
  let slept ← ask (.sleep (now.nanosUntil t))
  ofExcept (slept.mapError delayInterrupted)
  setStatus .done
  persist

/-- The executor of delays fixes the end, and then rests. -/
theorem run_delay {info : RunInfo} (hopen : held.status.isTerminal = false)
    (hpayload : held.task.payload = .delay d) :
    delay.run info held = (waitUntil d >>= restUntil) held := by
  rw [delay_run_eq held hopen hpayload]
  rfl

/-- Behind its end a delay is stored as done, for which no charge is owed. -/
theorem meets_finish_delay (hs : s.StoreSucceeds) (hclock : s.TellsTime)
    (hfixed : job.FixedAt d t held) (hj : w₁.store.get? held.id = some held)
    (hpast : t.toNanos ≤ (s.wallClock w₁.now).toNanos) (hstores : w.StoresDelay job d t w₁) :
    persist.Meets s r w₁ held.done
      (fun w' held' _ => DelayEnds s job d t w ⟨w', held', .returned (.ok ())⟩)
      (fun w' held' h => DelayEnds s job d t w ⟨w', held', h.outcome⟩) := by
  have hj₁ : w₁.store.get? held.done.id = some held := hj
  refine meets_persist_due hs hj₁ ?_ (fun _ _ => .dropped _ _) ?_
  · intro howed
    have hfree : s.billing.chargeOwed held.status .done held.task.kind = true := howed
    rw [BillingPolicy.chargeOwed_done] at hfree
    cases hfree
  intro w₂ _ u hle₁ hle₂ hst
  have hreached : t.toNanos ≤ (s.wallClock u).toNanos := Int.le_trans hpast (hclock.mono hle₁)
  have hdone : job.Delays d t (held.done.stamped (s.wallClock u)) :=
    ⟨⟨hfixed.id_eq, hfixed.payload_eq⟩, .inr ⟨rfl, hreached⟩⟩
  exact .ended (hstores.trans (hst.storesDelay hdone)) hst.get? hdone rfl
    (Int.le_trans hreached (hclock.mono hle₂))

/-- **A run of a delay whose end is fixed.** The job is stored as running, and as done only behind a
rest up to the end. -/
theorem meets_restUntil (hs : s.StoreSucceeds) (hclock : s.TellsTime)
    (haccepts : s.billing.isBillable .delay = true → s.AcceptsCharges)
    (hfixed : job.FixedAt d t held) (herror : held.error = job.error)
    (hj : w₁.store.get? held.id = some stored) (ht : t.nano < 1000000000)
    (hstores : w.StoresDelay job d t w₁) :
    (restUntil t).Meets s r w₁ held
      (fun w' held' _ => DelayEnds s job d t w ⟨w', held', .returned (.ok ())⟩)
      (fun w' held' h => DelayEnds s job d t w ⟨w', held', h.outcome⟩) := by
  have hkind : held.task.kind = .delay := Task.kind_of_delay hfixed.payload_eq
  unfold restUntil
  simp only [meets_bind, meets_setStatus]
  have hj₁ : w₁.store.get? held.running.id = some stored := hj
  refine meets_persist_due hs hj₁ ?_ (fun _ _ => .dropped _ _) ?_
  · intro howed
    refine haccepts ?_
    rw [← hkind]
    exact BillingPolicy.isBillable_of_chargeOwed howed
  intro w₂ t₁ u₁ _ _ hst₁
  have hrunning : job.Delays d t (held.running.stamped (s.wallClock u₁)) :=
    ⟨⟨hfixed.id_eq, hfixed.payload_eq⟩, .inl ⟨rfl, herror⟩⟩
  have hget₂ := hst₁.get?
  have hstores₂ := hstores.trans (hst₁.storesDelay hrunning)
  refine meets_clock_iff.2 ?_
  refine meets_rest ?_ ?_
  · intro w₃ e hstore₃ hlog₃ he
    have hpending : (Except.error e : Except TaskError Unit).mapError delayInterrupted =
        .error .delayPending := by
      obtain rfl | ⟨timeout, rfl⟩ := he <;> rfl
    rw [hpending, meets_ofExcept]
    refine .pending (hstores₂.trans (.of_eq hlog₃)) ?_ hrunning rfl
    rw [hstore₃]
    exact hget₂
  · intro w₃ hstore₃ hlog₃ hnow₃ _
    have hrested : (Except.ok () : Except TaskError Unit).mapError delayInterrupted = .ok () := rfl
    rw [hrested, meets_ofExcept]
    -- the rest was as long as the clock was short of the end
    have hpast : t.toNanos ≤ (s.wallClock w₃.now).toNanos := by
      refine hclock.reaches w₂.now w₃.now t (by omega) ht ?_
      unfold Instant.nanosUntil at hnow₃
      omega
    refine meets_finish_delay hs hclock hrunning.toFixedAt ?_ hpast
      (hstores₂.trans (.of_eq hlog₃))
    rw [hstore₃]
    exact hget₂

section

variable (hs : s.StoreSucceeds) (hclock : s.TellsTime)
  (haccepts : s.billing.isBillable .delay = true → s.AcceptsCharges)
  (hopen : held.status.isTerminal = false)
  (hquiet : World.LogsOnly (fun e => ∀ held, e ≠ .updated held) w w₁)
  (hj : w₁.store.get? held.id = some stored) {info : RunInfo}

include hs hclock haccepts hopen hquiet hj

/-- A run that finds the end of a delay fixed. -/
theorem drive_delay_of_fixed (hfixed : job.FixedAt d t held) (herror : held.error = job.error)
    (ht : t.nano < 1000000000) :
    DelayEnds s job d t w (drive s r (delay.run info held) w₁) := by
  rw [run_delay hopen hfixed.payload_eq]
  refine of_meets ?_
  rw [meets_bind]
  exact meets_restUntil hs hclock haccepts hfixed herror hj ht (.of_quiet hquiet)

/-- A run that has to fix the end: it takes the clock at its start, and adds a number of seconds for
which the delay may wait. -/
theorem drive_delay_of_open (hdraw : s.DrawsWithin) (hpayload : held.task.payload = .delay d)
    (hunfixed : d.waitUntil = none) (hvalid : d.IsValid (s.wallClock w₁.now)) :
    ∃ n t, d.MayWait n ∧ t.toNanos = (s.wallClock w₁.now).toNanos + (n : Nat) * 1000000000 ∧
      t.nano < 1000000000 ∧ DelayEnds s held d t w (drive s r (delay.run info held) w₁) := by
  have hmay := d.mayWait_chosen hdraw hvalid.choosable w₁.outside
  have hreaches := hvalid.reaches _ hmay
  obtain ⟨t, ht, hend⟩ : ∃ t,
      (s.wallClock w₁.now).addSeconds? (d.chosen s w₁.outside).toNat = some t ∧
        Delay.endOf (d.chosen s w₁.outside) (s.wallClock w₁.now) = .ok t := by
    -- the end is within the calendar, so that neither of the two failures is possible
    rcases Delay.endOf_eq (d.chosen s w₁.outside) (s.wallClock w₁.now) with ⟨hlong, -⟩ |
      ⟨-, -, hfixed⟩ | ⟨-, hout, -⟩
    · exact absurd hreaches.le_longest (Nat.not_le_of_lt hlong)
    · exact hfixed
    · exact absurd hreaches hout
  obtain ⟨hnanos, hnano⟩ := Instant.toNanos_addSeconds? ht (hclock.nano_lt w₁.now)
  refine ⟨_, t, hmay, hnanos, hnano, ?_⟩
  rw [run_delay hopen hpayload]
  refine of_meets ?_
  rw [meets_bind, meets_waitUntil_of_open hunfixed]
  obtain ⟨hempty, -⟩ | ⟨-, hbounds⟩ := d.bounds_cases
  · exact absurd hempty hvalid.choosable
  rw [hbounds, hend]
  have hfixed : held.FixedAt d t
      (held.mapPayload (.withWaitUntil t) (Payload.shape_withWaitUntil t)) := by
    refine ⟨rfl, ?_⟩
    simp only [Job.mapPayload, hpayload, Payload.withWaitUntil]
  have hj₁ : (choosing s d w₁).store.get? held.id = some stored := by
    rw [store_choosing]
    exact hj
  exact meets_restUntil hs hclock haccepts hfixed rfl hj₁ hnano
    (.of_quiet (hquiet.trans (.of_eq log_choosing)))

end

end Executor

/-! ## A run -/

section

variable (hs : s.StoreSucceeds)
  (hfunds : s.billing.isBillable .delay = true → s.FundsPositive)
  (hopen : held.status.isTerminal = false) (hkind : held.task.kind = .delay)
  (hfree : w.leases.isLive held.id = false) (user : Account)

include hfunds hopen hkind hfree in
/-- A run of a delay whose user can pay drives the executor at once. -/
theorem beginRun_delay :
    ∃ w₁ r, beginRun s .standard user held w =
        (w₁, .underway r (Executor.delay.run (r.info s.limits) held)) ∧
      w₁.store = w.store ∧ w₁.now = w.now ∧
      World.LogsOnly (fun e => ∀ held, e ≠ .updated held) w w₁ := by
  have hgated : ∀ {events result}, Gate s user.login held.task.kind events result →
      result = .ok () ∧ ∀ e ∈ events, ∀ held, e ≠ .updated held := by
    intro events result hgate
    refine ⟨?_, ?_⟩
    · cases hb : s.billing.isBillable held.task.kind with
      | true => exact (hgate.eq_ok (hfunds (hkind ▸ hb))).1
      | false =>
        cases hgate with
        | free | funded => rfl
        | poor hb' | refused hb' | crashed hb' =>
          rw [hb] at hb'
          cases hb'
    · cases hgate <;> simp
  have hbegins := beginRun_begins (s := s) (w := w) .standard user hopen
  rcases hb : beginRun s .standard user held w with ⟨w₁, opening⟩
  rw [hb] at hbegins
  -- the lease is free, the kind is known and the gate is open: the program runs
  cases hbegins with
  | busy hbusy =>
    rw [hfree] at hbusy
    cases hbusy
  | unknown hnone =>
    rw [executor_standard] at hnone
    cases hnone
  | refused hgate | crashed hgate => cases (hgated hgate).1
  | underway hexecutor hgate hstore hlog =>
    rw [executor_standard, hkind] at hexecutor
    cases hexecutor
    exact ⟨_, _, rfl, hstore, now_beginRun hb, _, hlog, (hgated hgate).2⟩

include hs in
/-- Behind the executor, a pending job is read back, and one that is done is stored once more. -/
theorem endRun_delay {e : Ending σ Unit} (h : DelayEnds s job d t w e)
    (hkept : e.outcome.isDropped = false) : RunsDelay s job d t w (endRun s r e) := by
  -- still waiting, past its end, or dropped
  cases h with
  | @pending w' held hstores hj hheld hstatus =>
    obtain ⟨outside, hget⟩ := World.getJob_eq hs hj
    have hclose : closeRun s r ⟨w', held, .returned (.error .delayPending)⟩ =
        ({ w' with outside }, .ok held) := by
      simp only [closeRun, TaskError.isRetryable, if_true, hget]
    unfold endRun
    rw [hclose]
    refine ⟨hstores, held, rfl, ?_, hheld, fun _ => ?_⟩
    · rw [← hheld.id_eq]
      exact hj
    · obtain h | ⟨hdone, -⟩ := hheld.status
      · exact h
      · rw [hstatus] at hdone
        cases hdone
  | @ended w' held hstores hj hheld hstatus hpast =>
    obtain ⟨w'', reply, heq, hstore, hlog, howed, -⟩ :=
      World.reconcile_eq (w := w') hs r.user.login held.cleared hj
    obtain rfl := howed (BillingPolicy.chargeOwed_self _ _ _)
    have hnow : w''.now = w'.now := by
      have hreconcile := World.now_reconcile (s := s) (w := w') r.user.login held.cleared
      rwa [heq] at hreconcile
    have hclose : closeRun s r ⟨w', held, .returned (.ok ())⟩ =
        (w'', .ok (held.cleared.stamped (s.wallClock w'.now))) := by
      simp only [closeRun]
      unfold Job.cleared at heq
      rw [heq]
      rfl
    have hst : World.Stores s r.user.login held held.cleared (s.wallClock w'.now)
        (s.wallClock w'.now) w' w'' := ⟨hstore, hlog⟩
    have hdone : job.Delays d t (held.cleared.stamped (s.wallClock w'.now)) :=
      ⟨⟨hheld.id_eq, hheld.payload_eq⟩, .inr ⟨hstatus, hpast⟩⟩
    unfold endRun
    rw [hclose]
    refine ⟨hstores.trans (hst.storesDelay hdone), _, rfl, ?_, hdone, fun hbefore => ?_⟩
    · rw [← hheld.id_eq]
      exact hst.get?
    · have hsoon : (s.wallClock w''.now).toNanos < t.toNanos := hbefore
      rw [hnow] at hsoon
      omega
  | dropped => cases hkept

include hs hfunds hopen hkind hfree in
/-- A run of a delay, by what its executor does. -/
theorem run_delay_of_ends (hkept : isDropped s .standard user held w = false)
    {P : Instant → Prop}
    (hends : ∀ r w₁, w₁.store = w.store → w₁.now = w.now →
      World.LogsOnly (fun e => ∀ held, e ≠ .updated held) w w₁ →
      ∃ t, P t ∧
        DelayEnds s job d t w (drive s r (Executor.delay.run (r.info s.limits) held) w₁)) :
    ∃ t, P t ∧ RunsDelay s job d t w (run s .standard user held w) := by
  obtain ⟨w₁, r, hbegin, hstore, hnow, hquiet⟩ := beginRun_delay hfunds hopen hkind hfree user
  obtain ⟨t, hp, hend⟩ := hends r w₁ hstore hnow hquiet
  unfold isDropped at hkept
  rw [hbegin] at hkept
  refine ⟨t, hp, ?_⟩
  unfold run
  rw [hbegin]
  exact endRun_delay hs hend hkept

end

/-! ## Runs one after the other -/

section

variable (hs : s.StoreSucceeds) (hclock : s.TellsTime)
  (hfunds : s.billing.isBillable .delay = true → s.FundsPositive)
  (haccepts : s.billing.isBillable .delay = true → s.AcceptsCharges)
  (hfree : w.leases.isLive job.id = false)

include hs hclock hfunds haccepts hfree

/-- The first run of a delay fixes its end. -/
theorem rerun_of_open (hdraw : s.DrawsWithin) (hj : w.store.get? job.id = some job)
    (hpayload : job.task.payload = .delay d) (hunfixed : d.waitUntil = none)
    (hopen : job.status.isTerminal = false) (turn : Turn)
    (hvalid : d.IsValid (s.wallClock (max w.now turn.start)))
    (hkept : w.isRerunDropped s job.id turn = false) :
    ∃ t, (∃ n, d.MayWait n ∧
        t.toNanos = (s.wallClock (max w.now turn.start)).toNanos + (n : Nat) * 1000000000 ∧
        t.nano < 1000000000) ∧
      RunsDelay s job d t w (w.rerun s job.id turn) := by
  obtain ⟨hrerun, hdropped⟩ := World.rerun_of_get? (s := s) turn hj
  rw [hdropped] at hkept
  rw [hrerun]
  -- when the run starts only decides where the end of the delay lies
  suffices hruns : ∃ t, (∃ n, d.MayWait n ∧
      t.toNanos = (s.wallClock (max w.now turn.start)).toNanos + (n : Nat) * 1000000000 ∧
      t.nano < 1000000000) ∧ RunsDelay s job d t (w.waitUntil turn.start)
        (run s .standard turn.user job (w.waitUntil turn.start)) by
    obtain ⟨t, hfixed, hruns⟩ := hruns
    exact ⟨t, hfixed, hruns.of_waitUntil⟩
  refine run_delay_of_ends (w := w.waitUntil turn.start) hs hfunds hopen
    (Task.kind_of_delay hpayload) hfree turn.user hkept ?_
  intro r w₁ hstore hnow hquiet
  have hvalid₁ : d.IsValid (s.wallClock w₁.now) := by
    rw [hnow]
    exact hvalid
  obtain ⟨n, t, hmay, hnanos, hnano, hend⟩ := Executor.drive_delay_of_open hs hclock haccepts hopen
    hquiet (by rw [hstore]; exact hj) hdraw hpayload hunfixed hvalid₁
  rw [hnow] at hnanos
  exact ⟨t, ⟨n, hmay, hnanos, hnano⟩, hend⟩

/-- **A run of the copy that is stored** leaves the end as it is fixed. -/
theorem World.Shows.rerun (h : w.Shows s job d t held) (ht : t.nano < 1000000000) (turn : Turn)
    (hkept : w.isRerunDropped s job.id turn = false) :
    RunsDelay s job d t w (w.rerun s job.id turn) := by
  obtain ⟨hrunning, herror⟩ | ⟨hdone, -⟩ := h.delays.status
  · obtain ⟨hrerun, hdropped⟩ := World.rerun_of_get? (s := s) turn h.get?_eq
    rw [hdropped] at hkept
    rw [hrerun]
    have hopen : held.status.isTerminal = false := by rw [hrunning]; rfl
    have hfree' : w.leases.isLive held.id = false := by
      rw [h.delays.id_eq]
      exact hfree
    suffices hruns : ∃ t', t' = t ∧ RunsDelay s job d t' (w.waitUntil turn.start)
        (run s .standard turn.user held (w.waitUntil turn.start)) by
      obtain ⟨_, rfl, hruns⟩ := hruns
      exact hruns.of_waitUntil
    refine run_delay_of_ends (w := w.waitUntil turn.start) hs hfunds hopen
      (Task.kind_of_delay h.delays.payload_eq) hfree' turn.user hkept ?_
    intro r w₁ hstore _ hquiet
    have hj₁ : w₁.store.get? held.id = some held := by
      rw [hstore, h.delays.id_eq]
      exact h.get?_eq
    exact ⟨t, rfl, Executor.drive_delay_of_fixed hs hclock haccepts hopen hquiet hj₁
      h.delays.toFixedAt herror ht⟩
  · -- a job that is done comes back, and its end has been reached already
    have hpast : t.toNanos ≤ (s.wallClock w.now).toNanos := by
      refine Int.not_lt.1 fun hsoon => ?_
      rw [(h.pending hsoon).1] at hdone
      cases hdone
    have hterm : held.status.isTerminal = true := by rw [hdone]; rfl
    rw [(World.rerun_of_isTerminal (s := s) h.get?_eq hterm turn).1]
    refine ⟨.of_eq rfl, held, rfl, h.get?_eq, h.delays, fun hsoon => ?_⟩
    have hlater := hclock.mono (Nat.le_max_left w.now turn.start)
    have hsoon' : (s.wallClock (max w.now turn.start)).toNanos < t.toNanos := hsoon
    omega

end

/-- A run of the stored copy gives its lease back. -/
theorem World.isLive_rerun {id : Identifier} (hj : w.store.get? id = some job)
    (hfree : w.leases.isLive id = false) (turn : Turn) :
    (w.rerun s id turn).1.leases.isLive id = false := by
  obtain rfl := Store.get?_id hj
  rw [(World.rerun_of_get? (s := s) turn hj).1]
  exact isLive_run (w := w.waitUntil turn.start) .standard turn.user hfree

/-- **Runs of the stored copy**, one after the other. -/
theorem World.Shows.reruns (hs : s.StoreSucceeds) (hclock : s.TellsTime)
    (hfunds : s.billing.isBillable .delay = true → s.FundsPositive)
    (haccepts : s.billing.isBillable .delay = true → s.AcceptsCharges)
    (ht : t.nano < 1000000000) {turns : List Turn} (h : w.Shows s job d t held)
    (hfree : w.leases.isLive job.id = false)
    (hanswers : w.Answers Request.isRecord s job.id turns) {earlier : List Turn} {turn : Turn}
    (hfirst : earlier ++ [turn] <+: turns) :
    RunsDelay s job d t (w.reruns s job.id earlier)
      ((w.reruns s job.id earlier).rerun s job.id turn) := by
  -- by the runs before the last one, each of which stores what the next one is given
  induction earlier generalizing w held turns with
  | nil =>
    cases turns with
    | nil => cases List.eq_nil_of_prefix_nil hfirst
    | cons first rest =>
      obtain ⟨rfl, -⟩ := List.cons_prefix_cons.1 hfirst
      exact h.rerun hs hclock hfunds haccepts hfree ht _
        (World.isRerunDropped_eq.trans hanswers.1)
  | cons first earlier ih =>
    cases turns with
    | nil => cases List.eq_nil_of_prefix_nil hfirst
    | cons first' rest =>
      obtain ⟨rfl, hrest⟩ := List.cons_prefix_cons.1 hfirst
      obtain ⟨-, held', -, hshows⟩ := h.rerun hs hclock hfunds haccepts hfree ht first
        (World.isRerunDropped_eq.trans hanswers.1)
      exact ih hshows (World.isLive_rerun h.get?_eq hfree first) hanswers.2 hrest

/-- **A delay is fixed once and never ends early.** A stored delay that has not ended, and whose end
is not fixed, is run over and over, each time as it is stored by then, and whatever may interrupt
the runs, the store and the charges answer them in time. The first run fixes the end by its clock, a
number of seconds later for which the delay may wait; from then on the job is stored with this end
only, as running with the error that it had, or as done by a clock that has reached the end; and
each run gives back the copy that it leaves in the store, which is running if the run is over in
front of the end. -/
theorem delay_fixed_once (hs : s.StoreSucceeds) (hclock : s.TellsTime) (hdraw : s.DrawsWithin)
    (hfunds : s.billing.isBillable .delay = true → s.FundsPositive)
    (haccepts : s.billing.isBillable .delay = true → s.AcceptsCharges) {id : Identifier}
    (hj : w.store.get? id = some job) (hpayload : job.task.payload = .delay d)
    (hunfixed : d.waitUntil = none) (hopen : job.status.isTerminal = false)
    (hfree : w.leases.isLive id = false) (first : Turn) (turns : List Turn)
    (hvalid : d.IsValid (s.wallClock (max w.now first.start)))
    (hanswers : w.Answers Request.isRecord s id (first :: turns)) :
    ∃ (n : Nat) (t : Instant), d.MayWait n ∧
      t.toNanos = (s.wallClock (max w.now first.start)).toNanos + n * 1000000000 ∧
      ∀ earlier turn, earlier ++ [turn] <+: first :: turns →
        RunsDelay s job d t (w.reruns s id earlier) ((w.reruns s id earlier).rerun s id turn) := by
  obtain rfl := Store.get?_id hj
  obtain ⟨t, ⟨n, hmay, hnanos, hnano⟩, hruns⟩ := rerun_of_open hs hclock hfunds haccepts hfree hdraw
    hj hpayload hunfixed hopen first hvalid (World.isRerunDropped_eq.trans hanswers.1)
  refine ⟨n, t, hmay, hnanos, ?_⟩
  intro earlier turn hfirst
  cases earlier with
  | nil =>
    obtain ⟨rfl, -⟩ := List.cons_prefix_cons.1 hfirst
    exact hruns
  | cons first' earlier =>
    obtain ⟨rfl, hrest⟩ := List.cons_prefix_cons.1 hfirst
    obtain ⟨-, held, -, hshows⟩ := hruns
    exact hshows.reruns hs hclock hfunds haccepts hnano (World.isLive_rerun hj hfree first')
      hanswers.2 hrest

/-! ## A delay that is stopped, and another run -/

namespace Instant

/-- The last moment of the calendar. -/
def last : Instant := ⟨lastDay, 86399, 999999999, by decide, by decide, by decide, by decide⟩

/-- The moment so many nanoseconds behind the epoch, or the last one of the calendar. -/
def ticks (n : Nat) : Instant :=
  (ofSeconds? (n / 1000000000 : Nat) (n % 1000000000)).getD last

theorem toNanos_le_last {t : Instant} (h : t.nano < 1000000000) : t.toNanos ≤ last.toNanos := by
  have hbounds := t.toSeconds_bounds
  have hlast : last.toNanos = (lastDay + 1) * 86400 * 1000000000 - 1 := by decide
  unfold toNanos at *
  omega

/-- The clock of the sample ticks every nanosecond, up to the end of the calendar. -/
theorem toNanos_ticks (n : Nat) : (ticks n).toNanos = min (n : Int) last.toNanos := by
  have hlast : last.toNanos = (lastDay + 1) * 86400 * 1000000000 - 1 := by decide
  unfold ticks
  -- behind the last day of the calendar the clock stands still
  cases h : ofSeconds? (n / 1000000000 : Nat) (n % 1000000000) with
  | some t =>
    obtain ⟨hseconds, hnano⟩ := ofSeconds?_eq_some h
    have hle := toNanos_le_last (t := t) (by omega)
    have hn : t.toNanos = n := by
      unfold toNanos
      omega
    rw [Option.getD_some, ← hn, Int.min_eq_left hle]
  | none =>
    have hfirst : firstDay ≤ 0 := by decide
    unfold ofSeconds? ofParts? at h
    split at h
    · cases h
    · rw [Option.getD_none, Int.min_eq_right]
      omega

theorem nano_ticks_lt (n : Nat) : (ticks n).nano < 1000000000 := by
  unfold ticks
  cases h : ofSeconds? (n / 1000000000 : Nat) (n % 1000000000) with
  | some t =>
    rw [Option.getD_some, (ofSeconds?_eq_some h).2]
    exact Nat.mod_lt _ (by decide)
  | none => decide

end Instant

/-- Services with a clock that starts at the epoch. -/
def Services.ticking : Services Outlook := { Services.willing with wallClock := Instant.ticks }

/-- A clock that ticks does not go back. -/
theorem Services.tellsTime_ticking : Services.ticking.TellsTime := by
  refine ⟨Instant.nano_ticks_lt, ?_⟩
  intro u v t huv ht hreached
  have hlast := Instant.toNanos_le_last ht
  have hu := Instant.toNanos_ticks u
  have hv := Instant.toNanos_ticks v
  simp only [Services.ticking] at hreached ⊢
  omega

/-- A delay of ten seconds is stopped after four of them, and the next run waits for the other
six. -/
theorem sample_delay_fixed_once :
    let w := World.seeded ⟨[some 4000000000], 0⟩ (.sampleDelay 10)
    let turn : Turn := ⟨.sample, 0⟩
    let first := w.rerun .ticking default turn
    let second := first.1.rerun .ticking default turn
    (∃ t : Instant, t.toNanos = 10000000000 ∧
      RunsDelay .ticking (.sampleDelay 10) ⟨10, none, none⟩ t w first ∧
      RunsDelay .ticking (.sampleDelay 10) ⟨10, none, none⟩ t first.1 second) ∧
      first.1.now = 4000000000 ∧ first.2.toOption.map Job.status = some .running ∧
      second.1.now = 10000000000 ∧ second.2.toOption.map Job.status = some .done := by
  intro w turn first second
  refine ⟨?_, by decide +kernel, by decide +kernel, by decide +kernel, by decide +kernel⟩
  have hstart : Services.ticking.wallClock (max w.now turn.start) = .epoch := by decide +kernel
  have hvalid : (⟨10, none, none⟩ : Delay).IsValid
      (Services.ticking.wallClock (max w.now turn.start)) := by
    rw [hstart]
    refine ⟨?_, ?_⟩
    · rintro ⟨range, hrange, -⟩
      cases hrange
    · rintro n rfl
      exact ⟨⟨0, 10, 0, by decide, by decide, by decide, by decide⟩, rfl⟩
  obtain ⟨n, t, rfl, hnanos, hruns⟩ := delay_fixed_once (s := .ticking) (w := w)
    (d := ⟨10, none, none⟩) (fun _ _ => rfl) Services.tellsTime_ticking
    (fun least _ _ hle => ⟨UInt64.le_refl least, hle⟩) (fun _ => Services.fundsPositive_willing)
    (fun _ _ _ => rfl) (get?_seeded _ (Job.sampleDelay 10)) rfl rfl rfl rfl turn [turn] hvalid
    ⟨by decide +kernel, by decide +kernel, trivial⟩
  rw [hstart] at hnanos
  exact ⟨t, hnanos.trans (by decide), hruns [] turn ⟨[turn], rfl⟩,
    hruns [turn] turn (List.prefix_refl _)⟩

end WalletTasks
