import WalletTasks.Proofs.Interleaving

/-!
# A run that is alone

A run that has the world to itself is one of the ways in which runs may be interleaved: its requests
are started and answered one after the other, time passes up to each answer, and a stop comes when
the services say so.

* `leads_drive`: a program is driven through by such moves.
* `schedule_run`: and so is a whole run, with the same result.
-/

namespace WalletTasks

variable {σ : Type}

section

variable {s : Services σ} {registry : Registry} {live : List Invocation} {user : Account}
  {job : Job} {w w' : World σ} {r : Session}

open Traffic (Leads)

/-- Time may pass while all invocations stand still. -/
theorem leads_waitUntil (time : Nat) :
    Leads s registry ⟨w, live⟩ ⟨w.waitUntil time, live⟩ :=
  .of_takes (.pass time w.store w.outside)

/-- What is outside may change while all invocations stand still. -/
theorem leads_outside (outside : σ) :
    Leads s registry ⟨w, live⟩ ⟨{ w with outside }, live⟩ := by
  have htakes : Takes s registry ⟨w, live⟩ .pass
      ⟨{ w.waitUntil w.now with store := w.store, outside }, live⟩ := .pass w.now w.store outside
  simp only [World.waitUntil, Nat.max_self] at htakes
  exact .of_takes htakes

/-- The services are asked when the run will be asked to stop. -/
theorem leads_consult (q : Request) :
    Leads s registry ⟨w, live⟩ ⟨(w.consult s r q).1, live⟩ := by
  unfold World.consult
  split
  · have houtside : Leads s registry ⟨w, live⟩
        ⟨{ w with outside := (s.patience w.outside).1 }, live⟩ := leads_outside _
    dsimp only
    split
    · exact houtside.trans (.of_takes (.stop r.lease))
    · exact houtside
  · exact .refl _

theorem Started.lt_of_after {α : Type} {now delay due : Nat} {v v' : Verdict α}
    (h : Started.after now delay v = .waiting due v') : now < due := by
  unfold after at h
  split at h
  · cases h
  · cases h
    omega

/-- What is waited for is still to come. -/
theorem World.lt_of_startRequest {held : Job} {q : Request} {due : Nat} {v : Verdict q.Answer}
    (h : (w.startRequest s r held q).2.2 = .waiting due v) :
    (w.startRequest s r held q).1.now < due := by
  cases q with
  | note before =>
    simp only [startRequest] at h ⊢
    split at h
    · cases h
    · rename_i hne
      rw [if_neg hne]
      exact Started.lt_of_after h
  | charge before =>
    simp only [startRequest] at h ⊢
    split at h
    · rename_i howed
      rw [if_pos howed]
      exact Started.lt_of_after h
    · cases h
  -- these are answered at once
  | clock | draw | remaining | isCancelled => cases h
  | _ => exact Started.lt_of_after h

/-- A request that is waited for is due later and has not been interrupted. -/
theorem World.waiting_of_start {held held' : Job} {q : Request} {due : Nat} {v : Verdict q.Answer}
    (h : w.start s r held q = (w', held', .waiting due v)) :
    w'.now < due ∧ (w'.interruption? r).bind q.interrupted? = none := by
  unfold start at h
  cases hi : (w.interruption? r).bind q.interrupted? with
  | some a =>
    rw [hi] at h
    cases h
  | none =>
    rw [hi] at h
    have hlt : (w.startRequest s r held q).1.now < due := lt_of_startRequest (congrArg (·.2.2) h)
    have hleases := startRequest_leases (s := s) r held q w
    have hnow := now_startRequest (s := s) (w := w) r held q
    simp only [h] at hlt hleases hnow
    refine ⟨hlt, ?_⟩
    unfold interruption? at hi ⊢
    rw [hleases, hnow, hi]

/-- A request can be interrupted for any reason or for none. -/
theorem Request.interrupted?_cases (q : Request) :
    (∃ f : TaskError → q.Answer, ∀ e, q.interrupted? e = some (f e)) ∨
      ∀ e, q.interrupted? e = none := by
  cases q with
  | call | sleep => exact .inl ⟨_, fun _ => rfl⟩
  | _ => exact .inr fun _ => rfl

/-- What a call waits for comes to pass, or it is stopped, or the deadline passes. -/
theorem leads_await_of_interruptible {stopAt : Option Nat} {p : Rehearsal.Waiting}
    {f : TaskError → p.request.Answer} (hf : ∀ e, p.request.interrupted? e = some (f e))
    (hlive : w.leases.isLive r.lease = true) (hnone : w.interruption? r = none)
    {v : Option (Verdict p.request.Answer)}
    (hawait : w.await r stopAt p.request p.due p.verdict = (w', v)) :
    ∃ w₀, Leads s registry ⟨w, live⟩ ⟨w₀, live⟩ ∧
      Invocation.resume r p w₀ = Invocation.told w' r.deadline p.held p.request p.next v := by
  obtain ⟨hkept, hbefore⟩ := World.interruption?_eq_none_iff.1 hnone
  simp only [World.await, hf] at hawait
  split at hawait
  · rename_i time hstop
    cases hawait
    refine ⟨_, (leads_waitUntil time).trans (.of_takes (.stop r.lease)), ?_⟩
    have hasked : ((w.waitUntil time).stop r.lease).leases.isCancelled r.lease = true := by
      refine Leases.isCancelled_cancel.trans ?_
      simp [World.waitUntil, hlive]
    simp only [Invocation.resume, World.interruption?, hasked, if_true, Option.bind_some, hf]
  cases hawait
  refine ⟨_, leads_waitUntil (min p.due r.deadline), ?_⟩
  -- the deadline comes first, or the answer
  by_cases hle : r.deadline ≤ p.due
  · have hpassed : (w.waitUntil (min p.due r.deadline)).interruption? r =
        some (.deadlineExceeded r.timeout) := by
      simp only [World.interruption?, World.waitUntil, hkept, Bool.false_eq_true, if_false,
        Nat.min_eq_right hle]
      exact if_pos (Nat.le_max_right ..)
    simp only [Invocation.resume, hpassed, Option.bind_some, hf]
    rw [if_pos hle]
  · have hmin : min p.due r.deadline = p.due := by omega
    have hstill : (w.waitUntil (min p.due r.deadline)).interruption? r = none := by
      rw [World.interruption?_eq_none_iff, hmin]
      exact ⟨hkept, by simp only [World.waitUntil]; omega⟩
    have hreached : p.due ≤ (w.waitUntil (min p.due r.deadline)).now := by
      rw [hmin]
      exact Nat.le_max_right ..
    simp only [Invocation.resume, hstill, Option.bind_none, if_pos hreached]
    rw [if_neg hle]

/-- What any other request waits for comes to pass, or the program is dropped. -/
theorem leads_await_of_uninterruptible {stopAt : Option Nat} {p : Rehearsal.Waiting}
    (hnever : ∀ e, p.request.interrupted? e = none) (hdue : w.now < p.due)
    {v : Option (Verdict p.request.Answer)}
    (hawait : w.await r stopAt p.request p.due p.verdict = (w', v)) :
    ∃ w₀, Leads s registry ⟨w, live⟩ ⟨w₀, live⟩ ∧
      Invocation.resume r p w₀ = Invocation.told w' r.deadline p.held p.request p.next v := by
  have hgoesOn : ∀ w₀ : World σ, (w₀.interruption? r).bind p.request.interrupted? = none := by
    intro w₀
    cases w₀.interruption? r with
    | none => rfl
    | some e => exact hnever e
  simp only [World.await, hnever] at hawait
  split at hawait
  · cases hawait
    refine ⟨_, leads_waitUntil p.due, ?_⟩
    have hreached : p.due ≤ (w.waitUntil p.due).now := Nat.le_max_right ..
    simp only [Invocation.resume, hgoesOn, if_pos hreached]
  · rename_i hlate
    cases hawait
    refine ⟨_, leads_waitUntil r.backstop, ?_⟩
    have hstill : ¬ p.due ≤ (w.waitUntil r.backstop).now := by
      simp only [World.waitUntil]
      omega
    have hdropped : r.backstop ≤ (w.waitUntil r.backstop).now := Nat.le_max_right ..
    simp only [Invocation.resume, hgoesOn, if_neg hstill, if_pos hdropped]

/-- What a run that is alone waits for comes to pass, or it is interrupted or dropped. -/
theorem leads_await {stopAt : Option Nat} {p : Rehearsal.Waiting}
    (htidy : (⟨w, ⟨user, job, .waiting r.deadline p⟩ :: live⟩ : Traffic σ).Tidy)
    (hr : r = .ofRun s.limits user job r.deadline) (hdue : w.now < p.due)
    (hfree : (w.interruption? r).bind p.request.interrupted? = none)
    {v : Option (Verdict p.request.Answer)}
    (hawait : w.await r stopAt p.request p.due p.verdict = (w', v)) :
    let x := Invocation.told w' r.deadline p.held p.request p.next v
    Leads s registry ⟨w, ⟨user, job, .waiting r.deadline p⟩ :: live⟩
      ⟨x.1, ⟨user, job, x.2⟩ :: live⟩ := by
  have hresumes : ∃ w₀,
      Leads s registry ⟨w, ⟨user, job, .waiting r.deadline p⟩ :: live⟩
        ⟨w₀, ⟨user, job, .waiting r.deadline p⟩ :: live⟩ ∧
      Invocation.resume r p w₀ = Invocation.told w' r.deadline p.held p.request p.next v := by
    obtain ⟨f, hf⟩ | hnever := p.request.interrupted?_cases
    · have hlive : w.leases.isLive r.lease = true := by
        rw [hr]
        exact htidy.isLive_iff.2 ⟨_, List.mem_cons_self, rfl⟩
      have hnone : w.interruption? r = none := by
        cases hi : w.interruption? r with
        | none => rfl
        | some e =>
          rw [hi, Option.bind_some, hf] at hfree
          cases hfree
      exact leads_await_of_interruptible hf hlive hnone hawait
    · exact leads_await_of_uninterruptible hnever hdue hawait
  obtain ⟨w₀, hwaits, hresume⟩ := hresumes
  have hgo := Leads.of_waiting (w := w₀) registry [] live hr p
  rw [hresume] at hgo
  exact hwaits.trans hgo

/-- A request of a run that is alone is performed by such moves. -/
theorem leads_perform {held held' : Job} {q : Request} {next : Job → q.Answer → Program Unit}
    {v : Option (Verdict q.Answer)}
    (htidy : (⟨w, ⟨user, job, .running r.deadline (.ask held q next)⟩ :: live⟩ : Traffic σ).Tidy)
    (hr : r = .ofRun s.limits user job r.deadline)
    (hperform : w.perform s r held q = (w', held', v)) :
    let x := Invocation.told w' r.deadline held' q next v
    Leads s registry ⟨w, ⟨user, job, .running r.deadline (.ask held q next)⟩ :: live⟩
      ⟨x.1, ⟨user, job, x.2⟩ :: live⟩ := by
  intro x
  rcases hc : w.consult s r q with ⟨w₀, stopAt⟩
  have hconsult : Leads s registry
      ⟨w, ⟨user, job, .running r.deadline (.ask held q next)⟩ :: live⟩
      ⟨w₀, ⟨user, job, .running r.deadline (.ask held q next)⟩ :: live⟩ := by
    have hw₀ : (w.consult s r q).1 = w₀ := congrArg Prod.fst hc
    exact hw₀ ▸ leads_consult q
  have hgoesOn := Leads.of_running (w := w₀) registry [] live hr (.ask held q next)
  unfold World.perform at hperform
  rcases hstart : w₀.start s r held q with ⟨w₁, held₁, v₁ | ⟨due, v₁⟩⟩
  all_goals
    simp only [hc, hstart] at hperform
    simp only [Invocation.advance, hstart] at hgoesOn
  · cases hperform
    exact hconsult.trans hgoesOn
  · obtain ⟨hdue, hfree⟩ := World.waiting_of_start hstart
    rcases hawait : w₁.await r stopAt q due v₁ with ⟨w₂, v₂⟩
    rw [hawait] at hperform
    cases hperform
    have hwaits := hconsult.trans hgoesOn
    exact hwaits.trans (leads_await (p := ⟨held', q, due, v₁, next⟩) (hwaits.tidy htidy) hr hdue
      hfree hawait)

/-- **A program that is driven alone** is driven through by moves of its run. -/
theorem leads_drive (p : Program Unit)
    (htidy : (⟨w, ⟨user, job, .running r.deadline p⟩ :: live⟩ : Traffic σ).Tidy)
    (hr : r = .ofRun s.limits user job r.deadline) :
    Leads s registry ⟨w, ⟨user, job, .running r.deadline p⟩ :: live⟩
      ⟨(drive s r p w).world,
        ⟨user, job, .closing r.deadline (drive s r p w).held (drive s r p w).outcome⟩ :: live⟩ := by
  induction p generalizing w with
  | finish held result => exact Leads.of_running registry [] live hr (.finish held result)
  | crash held message => exact Leads.of_running registry [] live hr (.crash held message)
  | stall held =>
    have hgo := Leads.of_running (w := w.waitUntil r.backstop) registry [] live hr
      (.stall held)
    have hpassed : r.backstop ≤ (w.waitUntil r.backstop).now := Nat.le_max_right ..
    rw [Invocation.advance, if_pos hpassed] at hgo
    exact (leads_waitUntil r.backstop).trans hgo
  | ask held q next ih =>
    rcases hperform : w.perform s r held q with ⟨w', held', v⟩
    have hperforms : Leads s registry _ _ := leads_perform htidy hr hperform
    simp only [drive, hperform]
    rcases v with _ | a | message
    · exact hperforms
    · exact hperforms.trans (ih held' a (hperforms.tidy htidy))
    · exact hperforms

/-- What a run does in front of its executor is done by such moves. -/
theorem leads_begin (registry : Registry) (live : List Invocation) (user : Account) {job : Job}
    (hopen : job.status.isTerminal = false) (hfree : w.leases.isLive job.id = false) :
    (∃ w₀ result, beginRun s registry user job w = (w₀.release job.id, .over result) ∧
      Leads s registry ⟨w, live⟩ ⟨w₀, ⟨user, job, .ended result⟩ :: live⟩) ∨
    ∃ w₀ r p, beginRun s registry user job w = (w₀, .underway r p) ∧
      r = .ofRun s.limits user job r.deadline ∧
      Leads s registry ⟨w, live⟩ ⟨w₀, ⟨user, job, .running r.deadline p⟩ :: live⟩ := by
  have hstart : Leads s registry ⟨w, live⟩ (Traffic.enter s registry user job ⟨w, live⟩) :=
    .of_takes (.enter user job hopen hfree)
  have hacquire : w.leases.acquire? job.id = some ⟨⟨job.id, false⟩ :: w.leases.entries⟩ := by
    unfold Leases.acquire?
    rw [hfree]
    rfl
  have hfails : ∀ w₀ e, Leads s registry
      ⟨w₀, ⟨user, job, .failing e⟩ :: live⟩
      ⟨(failRun s user job e w₀).1, ⟨user, job, .ended (failRun s user job e w₀).2⟩ :: live⟩ :=
    fun w₀ e =>
      .of_next (x := ((failRun s user job e w₀).1, .ended (failRun s user job e w₀).2)) rfl
  unfold beginRun
  rw [hopen, hacquire]
  simp only [Bool.false_eq_true, if_false, openRun]
  unfold Traffic.enter Invocation.opening at hstart
  cases hexec : registry.executor job.task.kind with
  | error e =>
    simp only [hexec] at hstart ⊢
    exact .inl ⟨_, _, rfl, hstart.trans (hfails _ e)⟩
  | ok executor =>
    simp only [hexec] at hstart ⊢
    rcases hcheck : checkFunds s user job.task.kind
      { w with leases := ⟨⟨job.id, false⟩ :: w.leases.entries⟩ } with
      ⟨w₁, (e | message) | ⟨⟨⟩⟩⟩
    all_goals simp only [hcheck] at hstart ⊢
    · have hasked : Leads s registry
          ⟨w₁, ⟨user, job, .asked executor (.error (.error e))⟩ :: live⟩
          ⟨w₁, ⟨user, job, .failing e⟩ :: live⟩ := .of_next (x := (w₁, .failing e)) rfl
      exact .inl ⟨_, _, rfl, hstart.trans (hasked.trans (hfails w₁ e))⟩
    · exact .inl ⟨w₁, _, rfl, hstart.trans
        (.of_next (x := (w₁, .ended (.error (.crash message)))) rfl)⟩
    · let r : Session :=
        .ofRun s.limits user job (w₁.now + (s.limits.timeoutFor job.task.kind).nanos)
      let p : Program Unit := executor.run (r.info s.limits) job
      exact .inr ⟨w₁, r, p, rfl, rfl,
        hstart.trans (.of_next (x := (w₁, .running r.deadline p)) rfl)⟩

/-- **A run that is alone** is made of such moves: it ends with its result, and gives its lease back
as it leaves. -/
theorem schedule_run (user : Account) {job : Job} (hopen : job.status.isTerminal = false)
    (hfree : w.leases.isLive job.id = false) (htidy : (⟨w, live⟩ : Traffic σ).Tidy) :
    ∃ moves w', Schedule s registry ⟨w, live⟩ moves
        ⟨w', ⟨user, job, .ended (run s registry user job w).2⟩ :: live⟩ ∧
      (run s registry user job w).1 = w'.release job.id := by
  unfold run
  obtain ⟨w₀, result, hbegin, moves, h⟩ | ⟨w₀, r, p, hbegin, hr, hleads⟩ :=
    leads_begin (s := s) (w := w) registry live user hopen hfree
  · rw [hbegin]
    exact ⟨moves, w₀, h, rfl⟩
  · rw [hbegin]
    have hdriven := hleads.trans (leads_drive p (hleads.tidy htidy) hr)
    let e := drive s r p w₀
    obtain ⟨moves, h⟩ := hdriven.trans (Leads.of_closing registry [] live hr e.held e.outcome)
    have hlease : r.lease = job.id := congrArg Session.lease hr
    exact ⟨moves, (closeRun s r e).1, h, congrArg (closeRun s r e).1.release hlease⟩

end

end WalletTasks
