import WalletTasks.Proofs.Solitude

/-!
# Actors that share a world

A rehearsal lets its actors go on by turns, each of them as far as it can. That is one of the ways
in which runs may be interleaved: an actor that is running stands for a run that is under way, and
any other one for none.

* `leads_proceed`: what an actor does in its turn is made of moves.
* `leads_play`: and so is what all of them do.
* `leases_play`: the leases are those of the actors that are running, no two of which run one job.
-/

namespace WalletTasks.Rehearsal

open Traffic (Leads)

/-- The phase of a run whose program stands where it cannot go on at once. -/
def Progress.phase (deadline : Nat) : Progress → Phase
  | ended held outcome => .closing deadline held outcome
  | waiting p => .waiting deadline p
  | stalled held => .running deadline (.stall held)

/-- If a program waits, then for what is still to come, and nothing interrupts it. -/
def Progress.IsPending (r : Session) (w : World Script) : Progress → Prop
  | waiting p => w.now < p.due ∧ (w.interruption? r).bind p.request.interrupted? = none
  | _ => True

/-- The runs under way that an actor stands for. -/
inductive Actor.StandsFor (limits : Limits) (user : Account) : Actor → List Invocation → Prop
  | starting {time : Nat} {deed : Deed} : StandsFor limits user (.starting time deed) []
  | running {r : Session} {progress : Progress} {job : Job}
    (hr : r = .ofRun limits user job r.deadline) :
    StandsFor limits user (.running r progress) [⟨user, job, progress.phase r.deadline⟩]
  | finished {time : Nat} {result : DeedResult} : StandsFor limits user (.finished time result) []

/-- The runs under way that some actors stand for, in their order. -/
inductive StandFor (limits : Limits) (user : Account) : List Actor → List Invocation → Prop
  | nil : StandFor limits user [] []
  | cons {a : Actor} {actors : List Actor} {mine others : List Invocation}
    (h : a.StandsFor limits user mine) (hs : StandFor limits user actors others) :
    StandFor limits user (a :: actors) (mine ++ others)

/-- The lease that an actor holds. -/
def Actor.lease? : Actor → Option Identifier
  | running r _ => some r.lease
  | _ => none

section

variable {s : Services Script} {user : Account} {job : Job} {r : Session} {w : World Script}
  {live others runs : List Invocation} {actors : List Actor}

/-- Actors that are about to start stand for no invocation yet. -/
theorem StandFor.of_starting (limits : Limits) (user : Account)
    (h : ∀ a ∈ actors, ∃ time deed, a = .starting time deed) : StandFor limits user actors [] := by
  induction actors with
  | nil => exact .nil
  | cons a actors ih =>
    obtain ⟨time, deed, rfl⟩ := h a List.mem_cons_self
    exact .cons .starting (ih fun a ha => h a (List.mem_cons_of_mem _ ha))

theorem StandFor.filterMap_lease? {limits : Limits} (h : StandFor limits user actors runs) :
    actors.filterMap Actor.lease? = runs.map Invocation.id := by
  induction h with
  | nil => rfl
  | cons h _ ih =>
    cases h with
    | starting => exact ih
    | finished => exact ih
    | running hr => exact congr (congrArg List.cons (congrArg Session.lease hr)) ih

/-! ## One actor -/

/-- An invocation that advances comes to a wait that lies ahead. -/
theorem advance_isPending (p : Program Unit) :
    (advance s r p w).2.IsPending r (advance s r p w).1 := by
  induction p generalizing w with
  | ask held q next ih =>
    simp only [advance]
    rcases hstart : w.start s r held q with ⟨w', held', (a | message) | ⟨due, v⟩⟩
    · exact ih held' a
    · trivial
    · exact World.waiting_of_start hstart
  | _ => trivial

variable (registry : Registry) (before after : List Invocation)

/-- A program goes on by moves of its run. -/
theorem leads_advance (hr : r = .ofRun s.limits user job r.deadline) (p : Program Unit) :
    Leads s registry ⟨w, before ++ ⟨user, job, .running r.deadline p⟩ :: after⟩
      ⟨(advance s r p w).1,
        before ++ ⟨user, job, (advance s r p w).2.phase r.deadline⟩ :: after⟩ := by
  induction p generalizing w with
  | stall held => exact .refl _
  | ask held q next ih =>
    have hgo := Leads.of_running (w := w) registry before after hr (.ask held q next)
    simp only [advance]
    rcases hstart : w.start s r held q with ⟨w', held', (a | message) | ⟨due, v⟩⟩
    all_goals simp only [Invocation.advance, hstart] at hgo
    · exact hgo.trans (ih held' a)
    · exact hgo
    · exact hgo
  | _ => exact .of_running registry before after hr _

/-- A program that waited goes on by moves of its run. -/
theorem leads_resume (hr : r = .ofRun s.limits user job r.deadline) (p : Waiting) :
    (p.resume s r w).2.IsPending r (p.resume s r w).1 ∧
      Leads s registry ⟨w, before ++ ⟨user, job, .waiting r.deadline p⟩ :: after⟩
        ⟨(p.resume s r w).1,
          before ++ ⟨user, job, (p.resume s r w).2.phase r.deadline⟩ :: after⟩ := by
  have hgo := Leads.of_waiting (w := w) registry before after hr p
  unfold Invocation.resume at hgo
  unfold Waiting.resume
  cases hi : (w.interruption? r).bind p.request.interrupted? with
  | some a =>
    simp only [hi] at hgo ⊢
    exact ⟨advance_isPending _, hgo.trans (leads_advance registry before after hr _)⟩
  | none =>
    simp only [hi] at hgo ⊢
    -- the answer is due, or it is still awaited
    by_cases hdue : p.due ≤ w.now
    · simp only [if_pos hdue] at hgo ⊢
      cases hv : p.verdict with
      | answer a =>
        rw [hv] at hgo
        exact ⟨advance_isPending _, hgo.trans (leads_advance registry before after hr _)⟩
      | crash message =>
        rw [hv] at hgo
        exact ⟨trivial, hgo⟩
    · simp only [if_neg hdue]
      exact ⟨⟨Nat.lt_of_not_le hdue, hi⟩, .refl _⟩

/-- A program that is still waiting at the backstop is dropped by a move of its run. -/
theorem leads_limit (hr : r = .ofRun s.limits user job r.deadline) {progress : Progress}
    (hpending : progress.IsPending r w) :
    Leads s registry ⟨w, before ++ ⟨user, job, progress.phase r.deadline⟩ :: after⟩
      ⟨w, before ++ ⟨user, job, (progress.limit r w.now).phase r.deadline⟩ :: after⟩ := by
  -- only what does not come to an end by itself can pass the backstop
  cases progress with
  | ended held outcome => exact .refl _
  | stalled held =>
    have hgo := Leads.of_running (w := w) registry before after hr (.stall held)
    simp only [Progress.limit]
    split
    · rename_i hlate
      rw [Invocation.advance, if_pos hlate] at hgo
      exact hgo
    · exact .refl _
  | waiting p =>
    obtain ⟨hdue, hfree⟩ := hpending
    have hgo := Leads.of_waiting (w := w) registry before after hr p
    simp only [Progress.limit]
    split
    · rename_i hlate
      simp only [Invocation.resume, hfree, if_neg (Nat.not_le_of_lt hdue), if_pos hlate] at hgo
      exact hgo
    · exact .refl _

/-- A run ends by moves: everything behind its executor is done, and it leaves. -/
theorem leads_end (hr : r = .ofRun s.limits user job r.deadline) (held : Job)
    (outcome : Outcome Unit) :
    Leads s registry ⟨w, before ++ ⟨user, job, .closing r.deadline held outcome⟩ :: after⟩
      ⟨(endRun s r ⟨w, held, outcome⟩).1, before ++ after⟩ := by
  have hgo := Leads.of_closing (w := w) registry before after hr held outcome
  have hlease : r.lease = job.id := congrArg Session.lease hr
  unfold endRun
  rw [hlease]
  exact hgo.trans (.of_takes .leave)

/-- What an actor does whose program has been driven as far as it gets. -/
theorem leads_settle (hr : r = .ofRun s.limits user job r.deadline) {progress : Progress}
    (hpending : progress.IsPending r w) :
    ∃ mine, (Actor.settle s r (w, progress)).2.StandsFor s.limits user mine ∧
      Leads s registry ⟨w, before ++ ⟨user, job, progress.phase r.deadline⟩ :: after⟩
        ⟨(Actor.settle s r (w, progress)).1, before ++ mine ++ after⟩ := by
  have hlimit := leads_limit registry before after hr hpending
  unfold Actor.settle
  simp only
  cases hprogress : progress.limit r w.now with
  | ended held outcome =>
    rw [hprogress] at hlimit
    refine ⟨[], .finished, ?_⟩
    rw [List.append_nil]
    exact hlimit.trans (leads_end registry before after hr held outcome)
  | _ =>
    rw [hprogress] at hlimit
    refine ⟨_, .running hr, ?_⟩
    rw [List.append_assoc]
    exact hlimit

/-- What an actor does first. A run that is refused, or that is over before its executor starts, is
not under way behind it. -/
theorem leads_deed (user : Account) (w : World Script) (live : List Invocation) (deed : Deed) :
    let x := Actor.perform s registry user w deed
    ∃ mine, x.2.StandsFor s.limits user mine ∧ Leads s registry ⟨w, live⟩ ⟨x.1, mine ++ live⟩ := by
  -- only a run starts an invocation
  cases deed with
  | stop id => exact ⟨[], .finished, .of_takes (.stop id)⟩
  | isRunning id => exact ⟨[], .finished, .refl _⟩
  | queuePolls network polls => exact ⟨[], .finished, leads_outside _⟩
  | run job =>
    simp only [Actor.perform]
    by_cases hopen : job.status.isTerminal = true
    · unfold beginRun
      rw [if_pos hopen]
      exact ⟨[], .finished, .refl _⟩
    rw [Bool.not_eq_true] at hopen
    by_cases hfree : w.leases.isLive job.id = true
    · unfold beginRun
      rw [hopen, Leases.acquire?_eq_none_iff.2 hfree]
      exact ⟨[], .finished, .refl _⟩
    rw [Bool.not_eq_true] at hfree
    obtain ⟨w₀, result, hbegin, hleads⟩ | ⟨w₀, r, p, hbegin, hr, hleads⟩ :=
      leads_begin (s := s) registry live user hopen hfree
    · rw [hbegin]
      exact ⟨[], .finished, hleads.trans (.of_takes .leave_front)⟩
    · rw [hbegin]
      have hadvance := leads_advance (w := w₀) registry [] live hr p
      obtain ⟨mine, hmine, hsettle⟩ := leads_settle registry [] live hr (advance_isPending p)
      exact ⟨mine, hmine, hleads.trans (hadvance.trans hsettle)⟩

/-- **What an actor does in its turn** is made of moves. The runs of other actors stay as they
are. -/
theorem leads_proceed {a : Actor} {mine : List Invocation}
    (ha : a.StandsFor s.limits user mine) (hlive : live.Perm (mine ++ others)) :
    let x := a.proceed s registry user w
    ∃ mine' live', x.2.StandsFor s.limits user mine' ∧ live'.Perm (mine' ++ others) ∧
      Leads s registry ⟨w, live⟩ ⟨x.1, live'⟩ := by
  unfold Actor.proceed
  by_cases hready : a.isReady w = true
  · rw [if_pos hready]
    -- not started, over, or one of the invocations that are live
    cases ha with
    | @starting time deed =>
      obtain ⟨mine', hmine', hleads⟩ := leads_deed registry user w live deed
      exact ⟨mine', mine' ++ live, hmine', hlive.append_left mine', hleads⟩
    | finished => exact ⟨[], live, .finished, hlive, .refl _⟩
    | @running r progress job hr =>
      obtain ⟨before, after, rfl⟩ := List.append_of_mem (hlive.mem_iff.2 List.mem_cons_self)
      have hothers : (before ++ after).Perm others := (List.perm_middle.symm.trans hlive).cons_inv
      have hplace : ∀ mine', (before ++ mine' ++ after).Perm (mine' ++ others) := by
        intro mine'
        rw [List.append_assoc]
        exact (List.perm_append_comm_assoc ..).trans (hothers.append_left mine')
      cases progress with
      | waiting p =>
        obtain ⟨hpending, hresume⟩ := leads_resume (w := w) registry before after hr p
        obtain ⟨mine', hmine', hsettle⟩ := leads_settle registry before after hr hpending
        exact ⟨mine', _, hmine', hplace mine', hresume.trans hsettle⟩
      | ended held outcome =>
        have hpending : Progress.IsPending r w (.ended held outcome) := trivial
        obtain ⟨mine', hmine', hsettle⟩ := leads_settle registry before after hr hpending
        exact ⟨mine', _, hmine', hplace mine', hsettle⟩
      | stalled held =>
        have hpending : Progress.IsPending r w (.stalled held) := trivial
        obtain ⟨mine', hmine', hsettle⟩ := leads_settle registry before after hr hpending
        exact ⟨mine', _, hmine', hplace mine', hsettle⟩
  · rw [if_neg hready]
    exact ⟨mine, live, ha, hlive, .refl _⟩

/-! ## All actors -/

/-- The actors take their turns by moves. -/
theorem leads_pass (hactors : StandFor s.limits user actors runs)
    (hlive : live.Perm (runs ++ others)) :
    let x := pass s registry user actors w
    ∃ runs' live', StandFor s.limits user x.2 runs' ∧ live'.Perm (runs' ++ others) ∧
      Leads s registry ⟨w, live⟩ ⟨x.1, live'⟩ := by
  induction hactors generalizing w live others with
  | nil => exact ⟨[], live, .nil, hlive, .refl _⟩
  | @cons a actors mine theirs ha _ ih =>
    rw [List.append_assoc] at hlive
    obtain ⟨mine', live₁, hmine, hlive₁, hleads₁⟩ := leads_proceed (w := w) registry ha hlive
    obtain ⟨theirs', live₂, htheirs, hlive₂, hleads₂⟩ := ih
      (hlive₁.trans (List.perm_append_comm_assoc ..))
    refine ⟨mine' ++ theirs', live₂, .cons hmine htheirs, ?_, hleads₁.trans hleads₂⟩
    rw [List.append_assoc]
    exact hlive₂.trans (List.perm_append_comm_assoc ..)

/-- **What actors do side by side** is made of moves, however long they go on. -/
theorem leads_play (steps : Nat) (hactors : StandFor s.limits user actors runs)
    (hlive : live.Perm runs) :
    let x := play s registry user steps w actors
    ∃ runs' live', StandFor s.limits user x.2 runs' ∧ live'.Perm runs' ∧
      Leads s registry ⟨w, live⟩ ⟨x.1, live'⟩ := by
  induction steps generalizing w actors runs live with
  | zero => exact ⟨runs, live, hactors, hlive, .refl _⟩
  | succ steps ih =>
    simp only [play]
    split
    · rw [← List.append_nil runs] at hlive
      obtain ⟨runs₁, live₁, hactors₁, hlive₁, hleads₁⟩ := leads_pass (w := w) registry hactors hlive
      rw [List.append_nil] at hlive₁
      obtain ⟨runs₂, live₂, hactors₂, hlive₂, hleads₂⟩ := ih hactors₁ hlive₁
      exact ⟨runs₂, live₂, hactors₂, hlive₂, hleads₁.trans hleads₂⟩
    split
    · obtain ⟨runs', live', hactors', hlive', hleads⟩ := ih hactors hlive
      exact ⟨runs', live', hactors', hlive', (leads_waitUntil _).trans hleads⟩
    · exact ⟨runs, live, hactors, hlive, .refl _⟩

/-- **The leases are those of the actors that are running**, and no two of these run one job, if
none is taken when the first actor starts. -/
theorem leases_play (steps : Nat) (hfresh : w.leases = .none)
    (hactors : ∀ a ∈ actors, ∃ time deed, a = .starting time deed) :
    let x := play s registry user steps w actors
    (x.1.leases.entries.map Lease.id).Perm (x.2.filterMap Actor.lease?) ∧
      (x.2.filterMap Actor.lease?).Nodup := by
  intro x
  obtain ⟨runs, live, hruns, hlive, hleads⟩ := leads_play (w := w) registry steps
    (.of_starting s.limits user hactors) (.refl [])
  have hbegin : (⟨w, []⟩ : Traffic Script).Tidy := ⟨by rw [hfresh]; rfl, .nil⟩
  have htidy := hleads.tidy hbegin
  have hperm : (live.map Invocation.id).Perm (x.2.filterMap Actor.lease?) := by
    rw [hruns.filterMap_lease?]
    exact hlive.map Invocation.id
  exact ⟨.trans (.of_eq htidy.table) hperm, hperm.nodup_iff.1 htidy.nodup⟩

end

end WalletTasks.Rehearsal
