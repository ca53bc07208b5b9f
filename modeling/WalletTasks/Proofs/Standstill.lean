import Mathlib.Data.List.Nodup
import WalletTasks.Proofs.Interleaving

/-!
# Nothing new starts behind an interruption

Once a run has been asked to stop, or its deadline has passed, it makes no call any more, however
far it has come and whatever the other runs do: a call that it would make is answered with the
interruption, and so is a call that it waits for, even if the answer is there. It only goes on to
store its job.

* `Invocation.IsHeldUp`: a run can make no call any more.
* `interrupted_starts_nothing`: the steps of a run that has been interrupted.
-/

namespace WalletTasks

variable {σ : Type}

/-- The deadline of a run, once its executor has begun. -/
def Phase.deadline? : Phase → Option Nat
  | asked .. | failing _ | ended _ => none
  | running deadline _ | waiting deadline _ | closing deadline .. => some deadline

/-- A run has been asked to stop, or its deadline has passed. -/
def Invocation.IsInterrupted (i : Invocation) (w : World σ) : Prop :=
  w.leases.isCancelled i.id = true ∨ ∃ deadline ∈ i.phase.deadline?, deadline ≤ w.now

/-- What an event may tell of that is left by a run behind its interruption: that its job was
stored or charged for, or that a call was interrupted. -/
def Event.IsAftermath (e : Event) : Prop :=
  e.isOfStoring = true ∨ ∃ c cause, e = .answered c (.error cause) ∧ cause.IsInterruption

theorem Event.IsAftermath.call?_eq {e : Event} (h : e.IsAftermath) : e.call? = none := by
  obtain h | ⟨c, cause, rfl, -⟩ := h
  · exact call?_of_isOfStoring h
  · rfl

/-- A run can make no call any more: one that is interrupted, or that is behind its executor. -/
def Invocation.IsHeldUp (i : Invocation) (w : World σ) : Prop :=
  match i.phase with
  | .asked .. => w.leases.isCancelled i.id = true
  | .running deadline _ | .waiting deadline _ =>
    w.leases.isCancelled i.id = true ∨ deadline ≤ w.now
  | .closing .. | .failing _ | .ended _ => True

section

variable {s : Services σ} {r : Session} {w w' : World σ} {i : Invocation} {phase : Phase}

theorem Invocation.IsInterrupted.isHeldUp (h : i.IsInterrupted w) : i.IsHeldUp w := by
  unfold IsHeldUp
  unfold IsInterrupted at h
  split <;> rename_i hphase
  all_goals simp only [hphase, Phase.deadline?] at h
  · obtain h | ⟨deadline, hdeadline, -⟩ := h
    · exact h
    · cases hdeadline
  · exact h.imp_right fun ⟨deadline, hdeadline, hle⟩ => by cases hdeadline; exact hle
  · exact h.imp_right fun ⟨deadline, hdeadline, hle⟩ => by cases hdeadline; exact hle
  all_goals trivial

/-- It stays so while time passes and the lease is kept. -/
theorem Invocation.IsHeldUp.mono (h : i.IsHeldUp w)
    (hcancelled : w.leases.isCancelled i.id = true → w'.leases.isCancelled i.id = true)
    (hnow : w.now ≤ w'.now) : i.IsHeldUp w' := by
  unfold IsHeldUp at *
  split <;> rename_i hphase
  all_goals simp only [hphase] at h
  · exact hcancelled h
  · exact h.imp hcancelled fun hle => Nat.le_trans hle hnow
  · exact h.imp hcancelled fun hle => Nat.le_trans hle hnow
  all_goals trivial

theorem World.interruption?_of_isHeldUp
    (h : w.leases.isCancelled r.lease = true ∨ r.deadline ≤ w.now) :
    ∃ e, w.interruption? r = some e ∧ e.IsInterruption := by
  cases he : w.interruption? r with
  | some e => exact ⟨e, rfl, isInterruption_of_interruption? he⟩
  | none =>
    obtain ⟨hkept, hbefore⟩ := interruption?_eq_none_iff.1 he
    obtain hcancelled | hlate := h
    · rw [hkept] at hcancelled
      cases hcancelled
    · omega

/-! ## One step -/

theorem Request.call_or_not (q : Request) : (∃ c, q = .call c) ∨ ∀ c, q ≠ .call c := by
  cases q <;> simp

theorem Request.Leaves.isAftermath {q : Request} (hq : ∀ c, q ≠ .call c) {e : Event}
    (h : q.Leaves e) : e.IsAftermath := by
  refine .inl ?_
  cases q with
  | call c => exact absurd rfl (hq c)
  | _ => cases e <;> first | rfl | cases h

theorem World.start_aftermath (held : Job) {q : Request} (hq : ∀ c, q ≠ .call c) :
    World.LogsOnly Event.IsAftermath w (w.start s r held q).1 := by
  unfold start
  split
  · exact .of_eq rfl
  · exact (startRequest_logsOnly held q).mono fun _ he => he.isAftermath hq

namespace Invocation

theorem told_aftermath {deadline : Nat} {held : Job} {q : Request}
    {next : Job → q.Answer → Program Unit} {v : Option (Verdict q.Answer)}
    (hq : ∀ c, q ≠ .call c) :
    World.LogsOnly Event.IsAftermath w (told w deadline held q next v).1 := by
  rcases v with _ | a | message
  · exact .of_eq rfl
  · cases q with
    | call c => exact absurd rfl (hq c)
    | _ => exact .of_eq rfl
  · exact .of_eq rfl

/-- A call that is interrupted is not made. -/
theorem advance_aftermath (h : w.leases.isCancelled r.lease = true ∨ r.deadline ≤ w.now)
    (p : Program Unit) : World.LogsOnly Event.IsAftermath w (advance s r p w).1 := by
  cases p with
  | finish | crash | stall => exact .of_eq rfl
  | ask held q next =>
    obtain ⟨c, rfl⟩ | hq := q.call_or_not
    · obtain ⟨e, he, hinterruption⟩ := World.interruption?_of_isHeldUp h
      simp only [advance, World.start, he, Option.bind_some, Request.interrupted?]
      exact .single rfl (.inr ⟨c, e, rfl, hinterruption⟩)
    · have hstart := World.start_aftermath (s := s) (r := r) (w := w) held hq
      simp only [advance]
      rcases hw : w.start s r held q with ⟨w', held', v | ⟨due, v⟩⟩
      all_goals rw [hw] at hstart
      · exact hstart.trans (told_aftermath hq)
      · exact hstart

/-- A call that is waited for is answered with the interruption, even if its answer is there. -/
theorem resume_aftermath (h : w.leases.isCancelled r.lease = true ∨ r.deadline ≤ w.now)
    (p : Rehearsal.Waiting) : World.LogsOnly Event.IsAftermath w (resume r p w).1 := by
  obtain ⟨held, q, due, v, next⟩ := p
  obtain ⟨c, rfl⟩ | hq := q.call_or_not
  · obtain ⟨e, he, hinterruption⟩ := World.interruption?_of_isHeldUp h
    simp only [resume, he, Option.bind_some, Request.interrupted?]
    exact .single rfl (.inr ⟨c, e, rfl, hinterruption⟩)
  · unfold resume
    split
    · exact told_aftermath hq
    split
    · exact told_aftermath hq
    split
    · exact told_aftermath hq
    · exact .of_eq rfl

/-- **A step of a run that is held up** makes no call. -/
theorem IsHeldUp.logsOnly (h : i.IsHeldUp w) :
    World.LogsOnly Event.IsAftermath w (i.next s w).1 := by
  unfold IsHeldUp at h
  unfold next
  split <;> rename_i hphase
  all_goals simp only [hphase] at h
  · exact .of_eq rfl
  · exact .of_eq rfl
  · exact .of_eq rfl
  · exact advance_aftermath h _
  · exact resume_aftermath h _
  · exact (closeRun_ofStoring ..).mono fun _ he => .inl he
  · exact (failRun_ofStoring ..).mono fun _ he => .inl he
  · exact .of_eq rfl

section

variable {user : Account} {job : Job}

theorem isHeldUp_told {deadline : Nat} {held : Job} {q : Request}
    {next : Job → q.Answer → Program Unit} {v : Option (Verdict q.Answer)}
    (h : w'.leases.isCancelled job.id = true ∨ deadline ≤ w'.now) :
    IsHeldUp ⟨user, job, (told w deadline held q next v).2⟩ w' := by
  rcases v with _ | a | message
  · trivial
  · exact h
  · trivial

/-- An invocation that advances behind a stop or the deadline is held up. -/
theorem isHeldUp_advance {p : Program Unit}
    (h : w'.leases.isCancelled job.id = true ∨ r.deadline ≤ w'.now) :
    IsHeldUp ⟨user, job, (advance s r p w).2⟩ w' := by
  cases p with
  | finish | crash => trivial
  | stall =>
    simp only [advance]
    split
    · trivial
    · exact h
  | ask held q next =>
    simp only [advance]
    rcases w.start s r held q with ⟨w₁, held', v | ⟨due, v⟩⟩
    · exact isHeldUp_told h
    · exact h

theorem isHeldUp_resume {p : Rehearsal.Waiting}
    (h : w'.leases.isCancelled job.id = true ∨ r.deadline ≤ w'.now) :
    IsHeldUp ⟨user, job, (resume r p w).2⟩ w' := by
  unfold resume
  split
  · exact isHeldUp_told h
  split
  · exact isHeldUp_told h
  split
  · exact isHeldUp_told h
  · exact h

end

/-- **A run that is held up stays so** in its own steps. -/
theorem IsHeldUp.next (h : i.IsHeldUp w) (hnext : i.next s w = (w', phase)) :
    IsHeldUp { i with phase } w' := by
  obtain ⟨hleases, hnow⟩ := keepsTime_of_next hnext
  have hstays : ∀ deadline, (w.leases.isCancelled i.id = true ∨ deadline ≤ w.now) →
      w'.leases.isCancelled i.job.id = true ∨ deadline ≤ w'.now := by
    rw [hleases, hnow]
    exact fun _ h => h
  obtain rfl : (i.next s w).2 = phase := congrArg Prod.snd hnext
  unfold IsHeldUp at h
  unfold Invocation.next
  split <;> rename_i hphase
  all_goals simp only [hphase] at h
  · trivial
  · trivial
  · exact hstays _ (.inl h)
  · exact isHeldUp_advance (hstays _ h)
  · exact isHeldUp_resume (hstays _ h)
  all_goals trivial

end Invocation

end

/-! ## Any number of moves -/

section

variable {s : Services σ} {registry : Registry} {st st' st'' : Traffic σ} {m : Move}
  {moves later : List Move} {id : Identifier}

/-- The run of a job is under way and can make no call any more. -/
def Traffic.HoldsUp (st : Traffic σ) (id : Identifier) : Prop :=
  ∃ i ∈ st.live, i.id = id ∧ i.IsHeldUp st.world

/-- **A move keeps a run held up**, unless it is the one by which the run leaves. -/
theorem Takes.holdsUp (h : st.HoldsUp id) (htakes : Takes s registry st m st')
    (hstays : m ≠ .leave id) : st'.HoldsUp id := by
  obtain ⟨i, hi, rfl, hheld⟩ := h
  cases htakes with
  | @start w w' live user job leases phase hopen hacquire hopening =>
    obtain ⟨hleases, hnow⟩ := Invocation.keepsTime_of_opening hopening
    refine ⟨i, List.mem_cons_of_mem _ hi, rfl, hheld.mono ?_ (Nat.le_of_eq hnow.symm)⟩
    rw [hleases, Leases.isCancelled_acquire? hacquire]
    exact id
  | @refuse w w' live user job result hopen hacquire hrun =>
    rw [(run_of_isLive registry user hopen (Leases.acquire?_eq_none_iff.1 hacquire)).1] at hrun
    cases hrun
    exact ⟨i, hi, rfl, hheld⟩
  | @go w w' before after j phase hnext =>
    obtain ⟨hleases, hnow⟩ := Invocation.keepsTime_of_next hnext
    have hmono : i.IsHeldUp w' := hheld.mono (by rw [hleases]; exact fun h => h)
      (Nat.le_of_eq hnow.symm)
    obtain hi | hi := List.mem_append.1 hi
    · exact ⟨i, List.mem_append_left _ hi, rfl, hmono⟩
    obtain rfl | hi := List.mem_cons.1 hi
    · exact ⟨{ i with phase }, by simp, rfl, hheld.next hnext⟩
    · exact ⟨i, by simp [hi], rfl, hmono⟩
  | @leave w before after j =>
    -- another one's leave releases another lease
    have hid : i.id ≠ j.id := fun heq => hstays (congrArg Move.leave heq.symm)
    refine ⟨i, ?_, rfl, hheld.mono ?_ (Nat.le_refl _)⟩
    · have hne : i ≠ j := fun heq => hid (congrArg Invocation.id heq)
      simpa [hne] using hi
    · exact fun hcancelled => (Leases.isCancelled_release hid).trans hcancelled
  | @stop w live id =>
    refine ⟨i, hi, rfl, hheld.mono ?_ (Nat.le_refl _)⟩
    intro hcancelled
    refine Leases.isCancelled_cancel.trans ?_
    rw [hcancelled, Bool.true_or]
  | @pass w live time store outside =>
    exact ⟨i, hi, rfl, hheld.mono (fun h => h) (Nat.le_max_left ..)⟩

/-- An invocation that is held up stays so for as long as it has not left. -/
theorem Schedule.holdsUp (h : st.HoldsUp id) (hs : Schedule s registry st moves st')
    (hstays : .leave id ∉ moves) : st'.HoldsUp id := by
  induction hs with
  | refl => exact h
  | move _ htakes ih =>
    refine htakes.holdsUp (ih fun hmem => hstays (List.mem_cons_of_mem _ hmem)) ?_
    rintro rfl
    exact hstays List.mem_cons_self

/-- A step is the one of a run that is under way. -/
theorem Takes.exists_of_go (htakes : Takes s registry st (.go id) st') :
    ∃ i ∈ st.live, i.id = id ∧ st'.world = (i.next s st.world).1 := by
  generalize hm : Move.go id = m at htakes
  cases htakes with
  | @go w w' before after i phase hnext =>
    cases hm
    exact ⟨i, by simp, rfl, (congrArg Prod.fst hnext).symm⟩
  | _ => cases hm

/-- **Nothing new starts behind an interruption.** Take any moves from a world without runs, up to
where a run has been asked to stop or its deadline has passed, and any further ones. Unless the run
has left, its next step makes no call, and it only tells of storing its job, of charging for it, or
of a call that was interrupted. -/
theorem interrupted_starts_nothing {w : World σ} {i : Invocation}
    (h : Schedule s registry (.fresh w) moves st) (hi : i ∈ st.live)
    (hinterrupted : i.IsInterrupted st.world) (hlater : Schedule s registry st later st')
    (hstays : .leave i.id ∉ later) (hgo : Takes s registry st' (.go i.id) st'') :
    ∃ events, st''.world.log = events ++ st'.world.log ∧
      ∀ e ∈ events, e.call? = none ∧ e.IsAftermath := by
  have htidy : st'.Tidy := hlater.tidy (h.tidy (Traffic.tidy_fresh w))
  obtain ⟨held, hmem, hid, hheld⟩ :=
    hlater.holdsUp ⟨i, hi, rfl, hinterrupted.isHeldUp⟩ hstays
  obtain ⟨goes, hgoes, hid', hworld⟩ := hgo.exists_of_go
  -- the run that goes on is the one that is held up, as it is the only one of its job
  obtain rfl := List.inj_on_of_nodup_map htidy.nodup hgoes hmem (hid'.trans hid.symm)
  obtain ⟨events, hlog, hall⟩ := hheld.logsOnly (s := s)
  exact ⟨events, by rw [hworld, hlog], fun e he => ⟨(hall e he).call?_eq, hall e he⟩⟩

end

/-! ## A run that is asked to stop at once -/

/-- The run in front goes on, if there is one. -/
def Traffic.goOn (s : Services σ) (st : Traffic σ) : Traffic σ :=
  match st.live with
  | [] => st
  | i :: live => ⟨(i.next s st.world).1, { i with phase := (i.next s st.world).2 } :: live⟩

/-- The run of the sample job that has been asked to stop at once, after so many steps. -/
def Traffic.stopped : Nat → Traffic Outlook
  | 0 => ⟨Traffic.begun.world.stop default, Traffic.begun.live⟩
  | n + 1 => (Traffic.stopped n).goOn .willing

theorem live_stopped (n : Nat) : ∃ i, (Traffic.stopped n).live = [i] ∧ i.id = default := by
  induction n with
  | zero => exact ⟨_, rfl, rfl⟩
  | succ n ih =>
    obtain ⟨i, hlive, hid⟩ := ih
    unfold Traffic.stopped Traffic.goOn
    rw [hlive]
    exact ⟨_, rfl, hid⟩

theorem takes_stopped (n : Nat) :
    Takes .willing .standard (.stopped n) (.go default) (.stopped (n + 1)) := by
  obtain ⟨i, hlive, hid⟩ := live_stopped n
  rw [Traffic.stopped, ← hid]
  rcases hst : Traffic.stopped n with ⟨w, live⟩
  rw [hst] at hlive
  cases hlive
  exact .go_front rfl

theorem schedule_stopped (n : Nat) :
    Schedule .willing .standard (.stopped 0) (.replicate n (.go default)) (.stopped n) := by
  induction n with
  | zero => exact .refl
  | succ n ih => exact ih.move (takes_stopped n)

/-- The run of the sample job stores the job as running, and its first call is interrupted. -/
theorem sample_interrupted_starts_nothing :
    traceOf Event.setback? (Traffic.stopped 6).world.log = [.cancelled] ∧
      ∃ events, (Traffic.stopped 6).world.log = events ++ (Traffic.stopped 5).world.log ∧
        ∀ e ∈ events, e.call? = none ∧ e.IsAftermath := by
  have hstop : Schedule .willing .standard (.fresh (.seeded .stopped .sample))
      [.stop default true, .start default] (.stopped 0) := schedule_begun.move (.stop default)
  have hasked : ((Traffic.stopped 0).world.leases.isCancelled default) = true := rfl
  obtain ⟨i, hlive, hid⟩ := live_stopped 0
  have hi : i ∈ (Traffic.stopped 0).live := by simp [hlive]
  refine ⟨by decide +kernel, interrupted_starts_nothing hstop hi (.inl (hid ▸ hasked))
    (schedule_stopped 5) ?_ (hid ▸ takes_stopped 5)⟩
  simp

end WalletTasks
