import WalletTasks.Proofs.Timing

/-!
# When the end of a delay can be fixed

A delay that is not fixed yet waits for its own number of seconds, or for one that is drawn from its
range. Three limits meet there: the range may leave no choice, the wait may be longer than a span of
time can be, and the calendar may end before the wait does. The first two are refused as amounts
that are not valid. The last one is not: the addition crashes.

* `Instant.addSeconds?_isSome_iff`: an instant some seconds later is given exactly if there is one.
* `Delay.endOf_eq`: what becomes of a number of seconds.
* `Executor.waitUntil_iff`: when the end is fixed, when it is refused, and when the program crashes.
-/

namespace WalletTasks

namespace Instant

variable {t u : Instant} {n : Nat}

/-- The calendar has a moment so many seconds later. -/
def Reaches (t : Instant) (n : Nat) : Prop := ∃ u : Instant, u.toSeconds = t.toSeconds + n

/-- The calendar has a first and a last day. -/
theorem toSeconds_bounds (t : Instant) :
    firstDay * 86400 ≤ t.toSeconds ∧ t.toSeconds < (lastDay + 1) * 86400 := by
  have hfirst := t.firstDay_le
  have hlast := t.le_lastDay
  have hsecond := t.second_lt
  unfold toSeconds
  omega

theorem ofSeconds?_eq_some {seconds : Int} {nano : Nat} (h : ofSeconds? seconds nano = some t) :
    t.toSeconds = seconds ∧ t.nano = nano := by
  unfold ofSeconds? ofParts? at h
  split at h
  · cases h
    refine ⟨?_, rfl⟩
    simp only [toSeconds]
    omega
  · cases h

/-- Seconds that no instant has are refused. -/
theorem ofSeconds?_eq_none_iff {seconds : Int} {nano : Nat} (hnano : nano < 2000000000) :
    ofSeconds? seconds nano = none ↔ ¬∃ t : Instant, t.toSeconds = seconds := by
  unfold ofSeconds? ofParts?
  split
  · rename_i hin
    refine iff_of_false (by simp) (not_not_intro ?_)
    refine ⟨⟨_, _, nano, hin.1, hin.2.1, hin.2.2.1, hin.2.2.2⟩, ?_⟩
    simp only [toSeconds]
    omega
  · rename_i hout
    refine iff_of_true rfl ?_
    rintro ⟨t, rfl⟩
    have hbounds := t.toSeconds_bounds
    omega

/-- Seconds are added exactly; what is behind them is kept, outside of a leap second. -/
theorem addSeconds?_eq_some (h : t.addSeconds? n = some u) :
    u.toSeconds = t.toSeconds + n ∧ (t.nano < 1000000000 → u.nano = t.nano) := by
  unfold addSeconds? at h
  split at h
  · rename_i hzero
    cases h
    exact ⟨by omega, fun _ => rfl⟩
  · obtain ⟨hseconds, hnano⟩ := ofSeconds?_eq_some h
    refine ⟨hseconds, fun hlt => ?_⟩
    rw [hnano, if_neg (by omega)]

/-- The calendar is shorter than a span of time can be. -/
theorem Reaches.le_longest (h : t.Reaches n) : n ≤ Delay.longest := by
  obtain ⟨u, hu⟩ := h
  have ht := t.toSeconds_bounds
  have hu' := u.toSeconds_bounds
  have hspan : (lastDay + 1 - firstDay) * 86400 ≤ (Delay.longest : Int) := by decide
  omega

/-- **An instant some seconds later is given exactly if the calendar has one.** -/
theorem addSeconds?_isSome_iff : (t.addSeconds? n).isSome = true ↔ t.Reaches n := by
  unfold addSeconds?
  split
  · rename_i hzero
    exact iff_of_true rfl ⟨t, by omega⟩
  · have hnano : (if 1000000000 ≤ t.nano then t.nano - 1000000000 else t.nano) < 2000000000 := by
      have := t.nano_lt
      split <;> omega
    rw [← Option.ne_none_iff_isSome, ne_eq, ofSeconds?_eq_none_iff hnano, Classical.not_not]
    rfl

end Instant

namespace Delay

/-- The delay is drawn from a range that leaves no choice. -/
def IsUnchoosable (d : Delay) : Prop := ∃ range, d.range = some range ∧ range.most < range.least

/-- The number of seconds for which a delay waits, in this state of the services. -/
def chosen {σ : Type} (s : Services σ) (d : Delay) (x : σ) : UInt64 :=
  match d.range with
  | some range => (s.draw range.least range.most x).2
  | none => d.seconds

/-- The range is refused if it leaves no choice, and is used as it is otherwise. -/
theorem bounds_cases (d : Delay) :
    (d.IsUnchoosable ∧
        ∃ least most, d.bounds = .error (.invalidAmount (.emptyDelayRange least most))) ∨
      (¬d.IsUnchoosable ∧ d.bounds = .ok d.range) := by
  unfold bounds IsUnchoosable
  cases d.range with
  | none => exact .inr ⟨by simp, rfl⟩
  | some range =>
    by_cases hempty : range.most < range.least
    · exact .inl ⟨⟨range, rfl, hempty⟩, _, _, if_pos hempty⟩
    · refine .inr ⟨?_, if_neg hempty⟩
      rintro ⟨_, hrange, h⟩
      cases hrange
      exact hempty h

/-- **What becomes of a number of seconds**: it is refused as too long, its end is on the calendar,
or the program crashes. -/
theorem endOf_eq (seconds : UInt64) (now : Instant) :
    (longest < seconds.toNat ∧
        endOf seconds now = .error (.error (.invalidAmount (.delayTooLong seconds.toNat)))) ∨
      (seconds.toNat ≤ longest ∧ now.Reaches seconds.toNat ∧
        ∃ t, now.addSeconds? seconds.toNat = some t ∧ endOf seconds now = .ok t) ∨
      (seconds.toNat ≤ longest ∧ ¬now.Reaches seconds.toNat ∧
        endOf seconds now = .error (.crash overflowText)) := by
  unfold endOf
  by_cases hlong : longest < seconds.toNat
  · exact .inl ⟨hlong, if_pos hlong⟩
  · refine .inr ?_
    rw [if_neg hlong, ← Instant.addSeconds?_isSome_iff]
    cases hend : now.addSeconds? seconds.toNat with
    | some t => exact .inl ⟨Nat.le_of_not_lt hlong, rfl, t, rfl, rfl⟩
    | none => exact .inr ⟨Nat.le_of_not_lt hlong, by simp, rfl⟩

end Delay

/-- A job that waits for some seconds, which has not been run. -/
def Job.sampleDelay (seconds : UInt64) : Job :=
  { Job.sample with task := ⟨.delay, .delay ⟨seconds, none, none⟩, rfl⟩ }

namespace Executor

open Routine

variable {σ : Type} {s : Services σ} {r : Session} {w : World σ} {job : Job} {d : Delay}

/-- The world once a number of seconds has been chosen. -/
def choosing (s : Services σ) (d : Delay) (w : World σ) : World σ :=
  match d.range with
  | some range => { w with outside := (s.draw range.least range.most w.outside).1 }
  | none => w

@[simp] theorem store_choosing : (choosing s d w).store = w.store := by
  unfold choosing
  split <;> rfl

@[simp] theorem log_choosing : (choosing s d w).log = w.log := by
  unfold choosing
  split <;> rfl

/-- How fixing the end of a delay ends that is not fixed yet: the range is looked at, a number of
seconds is chosen, and the end is taken from the clock, all at one moment. -/
theorem meets_waitUntil_of_open (hopen : d.waitUntil = none) {D : World σ → Job → Instant → Prop}
    {H : World σ → Job → Halt → Prop} :
    (waitUntil d).Meets s r w job D H ↔
      match d.bounds with
      | .error e => H w job (.failed e)
      | .ok _ =>
        match Delay.endOf (d.chosen s w.outside) (s.wallClock w.now) with
        | .ok t =>
          D (choosing s d w) (job.mapPayload (.withWaitUntil t) (Payload.shape_withWaitUntil t)) t
        | .error (.error e) => H (choosing s d w) job (.failed e)
        | .error (.crash message) => H (choosing s d w) job (.crashed message) := by
  unfold waitUntil
  rw [hopen]
  simp only [meets_bind, meets_ofExcept]
  rcases d.bounds_cases with ⟨-, least, most, hbounds⟩ | ⟨-, hbounds⟩
  · rw [hbounds]
  · rw [hbounds]
    unfold Delay.chosen choosing
    -- drawn from a range, or as long as the delay says
    cases d.range with
    | some range =>
      simp only [meets_bind, meets_ofFault, meets_modify, meets_pure]
      refine meets_draw_iff.trans (meets_clock_iff.trans ?_)
      rcases Delay.endOf _ (s.wallClock w.now) with (e | message) | t <;> rfl
    | none =>
      simp only [meets_bind, meets_ofFault, meets_modify, meets_pure]
      refine meets_clock_iff.trans ?_
      rcases Delay.endOf _ (s.wallClock w.now) with (e | message) | t <;> rfl

/-- The three ways in which fixing the end of a delay ends, for a number of seconds: the amount is
refused, the end is put into the job, or the program crashes. -/
inductive Fixing (d : Delay) (now : Instant) (n : Nat) (job : Job) : Ending σ Instant → Prop
  | refused (w' : World σ) {fault : AmountFault} (h : d.IsUnchoosable ∨ Delay.longest < n) :
    Fixing d now n job ⟨w', job, .returned (.error (.invalidAmount fault))⟩
  | fixed (w' : World σ) {t : Instant} (hchoice : ¬d.IsUnchoosable)
    (ht : now.addSeconds? n = some t) :
    Fixing d now n job
      ⟨w', job.mapPayload (.withWaitUntil t) (Payload.shape_withWaitUntil t), .returned (.ok t)⟩
  | crashed (w' : World σ) (hchoice : ¬d.IsUnchoosable) (hle : n ≤ Delay.longest)
    (hout : ¬now.Reaches n) : Fixing d now n job ⟨w', job, .crashed Delay.overflowText⟩

/-- The three ways in which fixing the end of a delay goes. -/
theorem drive_waitUntil (s : Services σ) (r : Session) (w : World σ) (job : Job)
    (hopen : d.waitUntil = none) :
    Fixing d (s.wallClock w.now) (d.chosen s w.outside).toNat job
      (drive s r (waitUntil d job) w) := by
  refine of_meets ((meets_waitUntil_of_open hopen).2 ?_)
  rcases d.bounds_cases with ⟨hempty, least, most, hbounds⟩ | ⟨hchoice, hbounds⟩
  · rw [hbounds]
    exact .refused w (.inl hempty)
  rw [hbounds]
  rcases Delay.endOf_eq (d.chosen s w.outside) (s.wallClock w.now) with ⟨hlong, hend⟩ |
    ⟨-, -, t, ht, hend⟩ | ⟨hle, hout, hend⟩
  · rw [hend]
    exact .refused _ (.inr hlong)
  · rw [hend]
    exact .fixed _ hchoice ht
  · rw [hend]
    exact .crashed _ hchoice hle hout

/-- **When the end of a delay can be fixed.** A delay that is not fixed yet is refused as an amount
that is not valid exactly if its range leaves no choice or the wait is longer than a span of time
can be. Its end is fixed, and put into the job, exactly if the calendar has it. In between, where
the wait is short enough and the calendar ends before it, the program crashes. -/
theorem waitUntil_iff (s : Services σ) (r : Session) (w : World σ) (job : Job)
    (hopen : d.waitUntil = none) :
    let e := drive s r (waitUntil d job) w
    let now := s.wallClock w.now
    let n := (d.chosen s w.outside).toNat
    ((∃ fault, e.outcome = .returned (.error (.invalidAmount fault))) ↔
        d.IsUnchoosable ∨ Delay.longest < n) ∧
      ((∃ t, e.outcome = .returned (.ok t)) ↔ ¬d.IsUnchoosable ∧ now.Reaches n) ∧
      ((∃ text, e.outcome = .crashed text) ↔
        ¬d.IsUnchoosable ∧ n ≤ Delay.longest ∧ ¬now.Reaches n) ∧
      (∀ t, e.outcome = .returned (.ok t) →
        t.toSeconds = now.toSeconds + n ∧ (now.nano < 1000000000 → t.nano = now.nano) ∧
          e.held = job.mapPayload (.withWaitUntil t) (Payload.shape_withWaitUntil t) ∧
          (job.task.payload = .delay d →
            e.held.task.payload = .delay { d with waitUntil := some t })) ∧
      ((∀ t, e.outcome ≠ .returned (.ok t)) → e.held = job) := by
  intro e now n
  have hfixing : Fixing d now n job e := drive_waitUntil s r w job hopen
  clear_value e
  -- one way each: refused, fixed, crashed
  cases hfixing with
  | refused w' h =>
    have hno : ¬(¬d.IsUnchoosable ∧ n ≤ Delay.longest) := by
      rintro ⟨hchoice, hle⟩
      exact h.elim hchoice (Nat.not_lt.2 hle)
    exact ⟨iff_of_true ⟨_, rfl⟩ h,
      iff_of_false (by simp) fun hfix => hno ⟨hfix.1, hfix.2.le_longest⟩,
      iff_of_false (by simp) fun hcrash => hno ⟨hcrash.1, hcrash.2.1⟩, by simp, fun _ => rfl⟩
  | fixed w' hchoice ht =>
    have hreaches := Instant.addSeconds?_isSome_iff.1 (Option.isSome_of_eq_some ht)
    obtain ⟨hseconds, hnano⟩ := Instant.addSeconds?_eq_some ht
    refine ⟨iff_of_false (by simp) ?_, iff_of_true ⟨_, rfl⟩ ⟨hchoice, hreaches⟩,
      iff_of_false (by simp) fun hcrash => hcrash.2.2 hreaches, ?_, fun h => absurd rfl (h _)⟩
    · exact fun h => h.elim hchoice (Nat.not_lt.2 hreaches.le_longest)
    · intro t hok
      cases hok
      refine ⟨hseconds, hnano, rfl, fun hpayload => ?_⟩
      simp only [Job.mapPayload, hpayload, Payload.withWaitUntil]
  | crashed w' hchoice hle hout =>
    exact ⟨iff_of_false (by simp) fun h => h.elim hchoice (Nat.not_lt.2 hle),
      iff_of_false (by simp) fun hfix => hout hfix.2, iff_of_true ⟨_, rfl⟩ ⟨hchoice, hle, hout⟩,
      by simp, fun _ => rfl⟩

/-- The end of a delay of so many seconds, fixed at the epoch. -/
def endOfSample (seconds : UInt64) : Ending Outlook Instant :=
  let job := Job.sampleDelay seconds
  drive .willing ⟨.sample, job.id, ⟨60000000000⟩, 60000000000⟩
    (waitUntil ⟨seconds, none, none⟩ job) (.seeded .stopped job)

/-- The calendar ends before nine million million seconds are over, which a span of time can be. -/
theorem not_reaches_sample : ¬Instant.epoch.Reaches 9000000000000 := by
  rintro ⟨u, hu⟩
  have hbounds := u.toSeconds_bounds
  have hlast : (Instant.lastDay + 1) * 86400 ≤ 9000000000000 := by decide
  have hepoch : Instant.epoch.toSeconds = 0 := rfl
  omega

/-- A minute is fixed, a wait that is longer than a span of time can be is refused, and one that is
only longer than the calendar is neither: the program crashes. -/
theorem sample_waitUntil_iff :
    (∃ t, (endOfSample 60).outcome = .returned (.ok t)) ∧
      (∃ fault, (endOfSample 9223372036854776).outcome =
        .returned (.error (.invalidAmount fault))) ∧
      ∃ text, (endOfSample 9000000000000).outcome = .crashed text := by
  have hchoice : ∀ n, ¬(⟨n, none, none⟩ : Delay).IsUnchoosable := by
    rintro n ⟨range, hrange, -⟩
    cases hrange
  refine ⟨?_, ?_, ?_⟩
  · exact (waitUntil_iff .willing _ _ (.sampleDelay 60) (d := ⟨60, none, none⟩) rfl).2.1.2
      ⟨hchoice _, ⟨0, 60, 0, by decide, by decide, by decide, by decide⟩, rfl⟩
  · exact (waitUntil_iff .willing _ _ (.sampleDelay 9223372036854776)
      (d := ⟨9223372036854776, none, none⟩) rfl).1.2 (.inr (by decide))
  · exact (waitUntil_iff .willing _ _ (.sampleDelay 9000000000000)
      (d := ⟨9000000000000, none, none⟩) rfl).2.2.1.2 ⟨hchoice _, by decide, not_reaches_sample⟩

/-- A wait whose end is not on the calendar is not refused: the program crashes. -/
theorem sample_end_crashes :
    ¬Instant.epoch.Reaches 9000000000000 ∧
      (endOfSample 9000000000000).outcome = .crashed Delay.overflowText :=
  ⟨not_reaches_sample, rfl⟩

end Executor

end WalletTasks
