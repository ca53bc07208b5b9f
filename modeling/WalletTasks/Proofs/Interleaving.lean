import WalletTasks.Proofs.Leasing
import WalletTasks.Proofs.Rerun
import WalletTasks.Rehearsal.Concurrent

/-!
# Runs in any interleaving

Any number of runs go on side by side. A run takes the lease on its job and asks for the funds at
once; then its executor makes one request after the other, and what comes of it is stored. Between
any two of these steps other runs may take theirs or begin, time may pass, runs may be asked to
stop, and a run may be given up by whoever asked for it. Nothing is assumed of the services and of
the executors.

* `Invocation.next`: what a run does in its next step.
* `Takes`, `Schedule`: what may happen next, and any number of such moves.
* `Takes.tidy`: the leases are those of the runs that are under way.
-/

namespace WalletTasks

variable {σ : Type}

/-- How far a run has come that holds its lease. The moments are those of its deadline. -/
inductive Phase
  | asked (executor : Executor) (answer : Except Fault Unit)
  | running (deadline : Nat) (program : Program Unit)
  | waiting (deadline : Nat) (p : Rehearsal.Waiting)
  | closing (deadline : Nat) (held : Job) (outcome : Outcome Unit)
  | failing (e : TaskError)
  | ended (result : Except Fault Job)

/-- A run that holds its lease: for whom, of which job, and how far it has come. -/
structure Invocation where
  user : Account
  job : Job
  phase : Phase

/-- The session of a run of a job. -/
def Session.ofRun (limits : Limits) (user : Account) (job : Job) (deadline : Nat) : Session :=
  ⟨user, job.id, limits.timeoutFor job.task.kind, deadline⟩

namespace Invocation

def id (i : Invocation) : Identifier := i.job.id

/-- What a run does at once when it has its lease: it asks for the funds if its kind has an
executor. -/
def opening (s : Services σ) (registry : Registry) (user : Account) (job : Job) (w : World σ) :
    World σ × Phase :=
  match registry.executor job.task.kind with
  | .error e => (w, .failing e)
  | .ok executor =>
    let (w, answer) := checkFunds s user job.task.kind w
    (w, .asked executor answer)

/-- What a program does that is told the verdict on a request, or is dropped for want of one. -/
def told (w : World σ) (deadline : Nat) (held : Job) (q : Request)
    (next : Job → q.Answer → Program Unit) : Option (Verdict q.Answer) → World σ × Phase
  | some (.answer a) => (w.hear q a, .running deadline (next held a))
  | some (.crash message) => (w, .closing deadline held (.crashed message))
  | none => (w, .closing deadline held .dropped)

/-- Goes on with a program up to its next request. -/
def advance (s : Services σ) (r : Session) : Program Unit → World σ → World σ × Phase
  | .finish held result, w => (w, .closing r.deadline held (.returned result))
  | .crash held message, w => (w, .closing r.deadline held (.crashed message))
  | .stall held, w =>
    (w, if r.backstop ≤ w.now then .closing r.deadline held .dropped
      else .running r.deadline (.stall held))
  | .ask held q next, w =>
    match w.start s r held q with
    | (w, held, .over v) => told w r.deadline held q next (some v)
    | (w, held, .waiting due v) => (w, .waiting r.deadline ⟨held, q, due, v, next⟩)

/-- Goes on with a program that waits for a request. An interruption comes before an answer that is
there, and the answer before the backstop. -/
def resume (r : Session) (p : Rehearsal.Waiting) (w : World σ) : World σ × Phase :=
  match (w.interruption? r).bind p.request.interrupted? with
  | some a => told w r.deadline p.held p.request p.next (some (.answer a))
  | none =>
    if p.due ≤ w.now then told w r.deadline p.held p.request p.next (some p.verdict)
    else if r.backstop ≤ w.now then told w r.deadline p.held p.request p.next none
    else (w, .waiting r.deadline p)

/-- The next step of a run. -/
def next (s : Services σ) (i : Invocation) (w : World σ) : World σ × Phase :=
  match i.phase with
  | .asked _ (.error (.error e)) => (w, .failing e)
  | .asked _ (.error (.crash message)) => (w, .ended (.error (.crash message)))
  | .asked executor (.ok ()) =>
    let deadline := w.now + (s.limits.timeoutFor i.job.task.kind).nanos
    let r : Session := .ofRun s.limits i.user i.job deadline
    (w, .running deadline (executor.run (r.info s.limits) i.job))
  | .running deadline p => advance s (.ofRun s.limits i.user i.job deadline) p w
  | .waiting deadline p => resume (.ofRun s.limits i.user i.job deadline) p w
  | .closing deadline held outcome =>
    let (w, result) := closeRun s (.ofRun s.limits i.user i.job deadline) ⟨w, held, outcome⟩
    (w, .ended result)
  | .failing e =>
    let (w, result) := failRun s i.user i.job e w
    (w, .ended result)
  | .ended result => (w, .ended result)

theorem next_running (s : Services σ) (user : Account) (job : Job) (deadline : Nat)
    (p : Program Unit) (w : World σ) :
    next s ⟨user, job, .running deadline p⟩ w =
      advance s (.ofRun s.limits user job deadline) p w := rfl

theorem next_waiting (s : Services σ) (user : Account) (job : Job) (deadline : Nat)
    (p : Rehearsal.Waiting) (w : World σ) :
    next s ⟨user, job, .waiting deadline p⟩ w =
      resume (.ofRun s.limits user job deadline) p w := rfl

theorem next_closing (s : Services σ) (user : Account) (job : Job) (deadline : Nat) (held : Job)
    (outcome : Outcome Unit) (w : World σ) :
    next s ⟨user, job, .closing deadline held outcome⟩ w =
      let (w, result) := closeRun s (.ofRun s.limits user job deadline) ⟨w, held, outcome⟩
      (w, .ended result) := rfl

end Invocation

/-- A world, and the runs in it that are under way. -/
structure Traffic (σ : Type) where
  world : World σ
  live : List Invocation

/-- A world in which no run is under way. -/
def Traffic.fresh (w : World σ) : Traffic σ := ⟨{ w with leases := .none }, []⟩

/-- What may happen among the runs of jobs. A run is refused with its result, and who asks a run to
stop is told whether there was one. -/
inductive Move
  | start (id : Identifier)
  | refuse (id : Identifier) (result : Except Fault Job)
  | go (id : Identifier)
  | leave (id : Identifier)
  | stop (id : Identifier) (found : Bool)
  | pass

/-- One move. A run leaves when it has ended, or at any moment before if it is given up. While
nothing else happens time passes, and the store and the services may change. -/
inductive Takes (s : Services σ) (registry : Registry) : Traffic σ → Move → Traffic σ → Prop
  | start {w w' : World σ} {live : List Invocation} {user : Account} {job : Job}
    {leases : Leases} {phase : Phase} (hopen : job.status.isTerminal = false)
    (hacquire : w.leases.acquire? job.id = some leases)
    (hopening : Invocation.opening s registry user job { w with leases } = (w', phase)) :
    Takes s registry ⟨w, live⟩ (.start job.id) ⟨w', ⟨user, job, phase⟩ :: live⟩
  | refuse {w w' : World σ} {live : List Invocation} {user : Account} {job : Job}
    {result : Except Fault Job} (hopen : job.status.isTerminal = false)
    (hacquire : w.leases.acquire? job.id = none)
    (hrun : run s registry user job w = (w', result)) :
    Takes s registry ⟨w, live⟩ (.refuse job.id result) ⟨w', live⟩
  | go {w w' : World σ} {before after : List Invocation} {i : Invocation} {phase : Phase}
    (hnext : i.next s w = (w', phase)) :
    Takes s registry ⟨w, before ++ i :: after⟩ (.go i.id) ⟨w', before ++ { i with phase } :: after⟩
  | leave {w : World σ} {before after : List Invocation} {i : Invocation} :
    Takes s registry ⟨w, before ++ i :: after⟩ (.leave i.id) ⟨w.release i.id, before ++ after⟩
  | stop {w : World σ} {live : List Invocation} (id : Identifier) :
    Takes s registry ⟨w, live⟩ (.stop id (w.leases.isLive id)) ⟨w.stop id, live⟩
  | pass {w : World σ} {live : List Invocation} (time : Nat) (store : Store) (outside : σ) :
    Takes s registry ⟨w, live⟩ .pass ⟨{ w.waitUntil time with store, outside }, live⟩

/-- A run of a job begins. -/
def Traffic.enter (s : Services σ) (registry : Registry) (user : Account) (job : Job)
    (st : Traffic σ) : Traffic σ :=
  let x := Invocation.opening s registry user job
    { st.world with leases := ⟨⟨job.id, false⟩ :: st.world.leases.entries⟩ }
  ⟨x.1, ⟨user, job, x.2⟩ :: st.live⟩

/-- A run may begin whenever there is none of its job. -/
theorem Takes.enter {s : Services σ} {registry : Registry} {st : Traffic σ} (user : Account)
    (job : Job) (hopen : job.status.isTerminal = false)
    (hfree : st.world.leases.isLive job.id = false) :
    Takes s registry st (.start job.id) (st.enter s registry user job) := by
  refine .start hopen ?_ rfl
  unfold Leases.acquire?
  rw [hfree]
  rfl

/-- Any number of moves, the last one in front. -/
inductive Schedule (s : Services σ) (registry : Registry) (st : Traffic σ) :
    List Move → Traffic σ → Prop
  | refl : Schedule s registry st [] st
  | move {moves : List Move} {m : Move} {st' st'' : Traffic σ}
    (h : Schedule s registry st moves st') (htakes : Takes s registry st' m st'') :
    Schedule s registry st (m :: moves) st''

/-- One state of the traffic leads to another one by some moves. -/
def Traffic.Leads (s : Services σ) (registry : Registry) (st st' : Traffic σ) : Prop :=
  ∃ moves, Schedule s registry st moves st'

section

variable {s : Services σ} {registry : Registry} {st st' st'' : Traffic σ} {w : World σ}
  {before after live : List Invocation} {i : Invocation}

/-- The run in front goes on. -/
theorem Takes.go_front {x : World σ × Phase} (h : i.next s w = x) :
    Takes s registry ⟨w, i :: live⟩ (.go i.id) ⟨x.1, { i with phase := x.2 } :: live⟩ := by
  have hgo : Takes s registry ⟨w, [] ++ i :: live⟩ (.go i.id)
      ⟨x.1, [] ++ { i with phase := x.2 } :: live⟩ := .go h
  exact hgo

/-- The run in front leaves. -/
theorem Takes.leave_front :
    Takes s registry ⟨w, i :: live⟩ (.leave i.id) ⟨w.release i.id, live⟩ := by
  have hleave : Takes s registry ⟨w, [] ++ i :: live⟩ (.leave i.id)
      ⟨w.release i.id, [] ++ live⟩ := .leave
  exact hleave

/-- Schedules are played one after the other. -/
theorem Schedule.trans {moves later : List Move} (h : Schedule s registry st moves st')
    (h' : Schedule s registry st' later st'') : Schedule s registry st (later ++ moves) st'' := by
  induction h' with
  | refl => exact h
  | move _ htakes ih => exact ih.move htakes

namespace Traffic.Leads

theorem refl (st : Traffic σ) : Leads s registry st st := ⟨[], .refl⟩

theorem of_takes {m : Move} (h : Takes s registry st m st') : Leads s registry st st' :=
  ⟨[m], .move .refl h⟩

theorem trans (h : Leads s registry st st') (h' : Leads s registry st' st'') :
    Leads s registry st st'' := by
  obtain ⟨moves, h⟩ := h
  obtain ⟨later, h'⟩ := h'
  exact ⟨later ++ moves, h.trans h'⟩

/-- An invocation takes its next step while the others stand still. -/
theorem of_go {x : World σ × Phase} (h : i.next s w = x) :
    Leads s registry ⟨w, before ++ i :: after⟩ ⟨x.1, before ++ { i with phase := x.2 } :: after⟩ :=
  .of_takes (.go h)

theorem of_next {x : World σ × Phase} (h : i.next s w = x) :
    Leads s registry ⟨w, i :: live⟩ ⟨x.1, { i with phase := x.2 } :: live⟩ :=
  .of_takes (.go_front h)

variable {user : Account} {job : Job} {r : Session}

/-- A running invocation advances to its next wait. -/
theorem of_running (registry : Registry) (before after : List Invocation)
    (hr : r = .ofRun s.limits user job r.deadline) (p : Program Unit) :
    Leads s registry ⟨w, before ++ ⟨user, job, .running r.deadline p⟩ :: after⟩
      ⟨(Invocation.advance s r p w).1,
        before ++ ⟨user, job, (Invocation.advance s r p w).2⟩ :: after⟩ := by
  refine .of_go ?_
  rw [Invocation.next_running, ← hr]

/-- A waiting invocation resumes when its answer is due. -/
theorem of_waiting (registry : Registry) (before after : List Invocation)
    (hr : r = .ofRun s.limits user job r.deadline) (p : Rehearsal.Waiting) :
    Leads s registry ⟨w, before ++ ⟨user, job, .waiting r.deadline p⟩ :: after⟩
      ⟨(Invocation.resume r p w).1,
        before ++ ⟨user, job, (Invocation.resume r p w).2⟩ :: after⟩ := by
  refine .of_go ?_
  rw [Invocation.next_waiting, ← hr]

/-- An invocation closes in one step. -/
theorem of_closing (registry : Registry) (before after : List Invocation)
    (hr : r = .ofRun s.limits user job r.deadline) (held : Job) (outcome : Outcome Unit) :
    Leads s registry ⟨w, before ++ ⟨user, job, .closing r.deadline held outcome⟩ :: after⟩
      ⟨(closeRun s r ⟨w, held, outcome⟩).1,
        before ++ ⟨user, job, .ended (closeRun s r ⟨w, held, outcome⟩).2⟩ :: after⟩ := by
  let x := closeRun s r ⟨w, held, outcome⟩
  refine .of_go (x := (x.1, .ended x.2)) ?_
  rw [Invocation.next_closing, ← hr]

end Traffic.Leads

end

/-! ## Leases and time -/

namespace World

variable {s : Services σ} {w : World σ}

theorem now_getJob (id : Identifier) : (w.getJob s id).1.now = w.now := by
  simp only [getJob, fault?]
  rcases hx : s.fault? .get w.outside with ⟨outside, _ | e⟩ <;> simp only [hx]
  cases w.store.get? id <;> rfl

theorem now_updateJob (job : Job) : (w.updateJob s job).1.now = w.now := by
  simp only [updateJob, fault?]
  rcases hx : s.fault? .update w.outside with ⟨outside, _ | e⟩ <;> simp only [hx]
  cases w.store.update? job <;> rfl

theorem now_recordStatus (before : Status) (job : Job) :
    (w.recordStatus s before job).now = w.now := by
  simp only [recordStatus, fault?]
  split
  · rfl
  · rcases hx : s.fault? .history w.outside with ⟨outside, _ | e⟩ <;> simp only [hx]

theorem now_recordTransaction (entry : AuditEntry) : (w.recordTransaction s entry).now = w.now := by
  simp only [recordTransaction, fault?]
  rcases hx : s.fault? .audit w.outside with ⟨outside, _ | e⟩ <;> simp only [hx]

theorem now_settleCharge (login : String) (before : Status) (job : Job) :
    (w.settleCharge s login before job).1.now = w.now := by
  simp only [settleCharge]
  split
  · rcases hx : s.accept (.ofJob job login) w.outside with ⟨outside, ⟨⟩ | e | message⟩ <;>
      simp only [hx]
  · rfl

/-- Reconciling takes no time. -/
theorem now_reconcile (login : String) (job : Job) : (w.reconcile s login job).1.now = w.now := by
  have hget := now_getJob (s := s) (w := w) job.id
  unfold reconcile
  rcases hj : w.getJob s job.id with ⟨w₁, e | stored⟩
  all_goals rw [hj] at hget
  · exact hget
  have hrecord := now_recordStatus (s := s) (w := w₁) stored.status job
  simp only
  generalize w₁.recordStatus s stored.status job = w₂ at *
  have hupdate := now_updateJob (s := s) (w := w₂) (w₂.stamp s job)
  rcases hu : w₂.updateJob s (w₂.stamp s job) with ⟨w₃, e | ⟨⟨⟩⟩⟩
  all_goals rw [hu] at hupdate
  · exact hupdate.trans (hrecord.trans hget)
  · have hcharge := now_settleCharge (s := s) (w := w₃) login stored.status (w₂.stamp s job)
    exact hcharge.trans (hupdate.trans (hrecord.trans hget))

/-- Starting a request takes no time. -/
theorem now_startRequest (r : Session) (held : Job) (q : Request) :
    (w.startRequest s r held q).1.now = w.now := by
  -- only what reads or writes the store has to be looked at
  cases q with
  | reread => exact now_getJob held.id
  | note before =>
    simp only [startRequest]
    split
    · rfl
    · exact now_recordStatus before held
  | store => exact now_updateJob (w.stamp s held)
  | charge before =>
    simp only [startRequest]
    split
    · exact now_settleCharge r.user.login before held
    · rfl
  | audit entry => exact now_recordTransaction entry
  | _ => rfl

end World

/-- A step leaves the leases and the time alone. -/
structure World.KeepsTime (w w' : World σ) : Prop where
  leases_eq : w'.leases = w.leases
  now_eq : w'.now = w.now

section

variable {s : Services σ} {w w' w'' : World σ}

theorem World.KeepsTime.trans (h : World.KeepsTime w w') (h' : World.KeepsTime w' w'') :
    World.KeepsTime w w'' :=
  ⟨h'.leases_eq.trans h.leases_eq, h'.now_eq.trans h.now_eq⟩

theorem failRun_keepsTime (user : Account) (job : Job) (e : TaskError) :
    World.KeepsTime w (failRun s user job e w).1 := by
  refine ⟨(failRun_ignoresLeases user job e).leases_eq w, ?_⟩
  rw [failRun_world]
  exact World.now_reconcile ..

theorem checkFunds_keepsTime (user : Account) (kind : Kind) :
    World.KeepsTime w (checkFunds s user kind w).1 := by
  refine ⟨(checkFunds_ignoresLeases user kind).leases_eq w, ?_⟩
  simp only [checkFunds]
  split
  · rcases hx : s.funds user.login w.outside with ⟨outside, funds | e | message⟩ <;> simp only [hx]
    split <;> rfl
  · rfl

/-- Closing a run takes no time and keeps the leases. -/
theorem closeRun_keepsTime (r : Session) (held : Job) (outcome : Outcome Unit) :
    World.KeepsTime w (closeRun s r ⟨w, held, outcome⟩).1 := by
  refine ⟨(closeRun_ignoresLeases r held outcome).leases_eq w, ?_⟩
  -- failed, returned, crashed, dropped
  rcases outcome with (c | ⟨⟨⟩⟩) | message | _
  · have := World.now_getJob (s := s) (w := w) held.id
    simp only [closeRun]
    split
    · split <;> rename_i h <;> rw [h] at this <;> exact this
    · exact (failRun_keepsTime r.user held c).now_eq
  · have := World.now_reconcile (s := s) (w := w) r.user.login { held with error := none }
    simp only [closeRun]
    split <;> rename_i h <;> rw [h] at this <;> exact this
  · exact (failRun_keepsTime r.user held _).now_eq
  · exact (failRun_keepsTime r.user held _).now_eq

theorem World.start_keepsTime (r : Session) (held : Job) (q : Request) :
    World.KeepsTime w (w.start s r held q).1 := by
  unfold start
  split
  · exact ⟨rfl, rfl⟩
  · exact ⟨World.startRequest_leases r held q w, World.now_startRequest r held q⟩

theorem World.hear_keepsTime (q : Request) (a : q.Answer) :
    World.KeepsTime w (w.hear q a) := by
  cases q <;> exact ⟨rfl, rfl⟩

namespace Invocation

/-- Opening a run takes no time and keeps the leases. -/
theorem keepsTime_of_opening {registry : Registry} {user : Account} {job : Job} {phase : Phase}
    (h : opening s registry user job w = (w', phase)) : World.KeepsTime w w' := by
  unfold opening at h
  split at h
  · cases h
    exact ⟨rfl, rfl⟩
  · cases h
    exact checkFunds_keepsTime user job.task.kind

theorem told_keepsTime (deadline : Nat) (held : Job) (q : Request)
    (next : Job → q.Answer → Program Unit) (v : Option (Verdict q.Answer)) :
    World.KeepsTime w (told w deadline held q next v).1 := by
  rcases v with _ | a | message
  · exact ⟨rfl, rfl⟩
  · exact World.hear_keepsTime q a
  · exact ⟨rfl, rfl⟩

/-- Advancing to the next wait takes no time and keeps the leases. -/
theorem advance_keepsTime (r : Session) (p : Program Unit) :
    World.KeepsTime w (advance s r p w).1 := by
  cases p with
  | ask held q next =>
    have hstart := World.start_keepsTime (s := s) (w := w) r held q
    simp only [advance]
    rcases hq : w.start s r held q with ⟨w', held', v | ⟨due, v⟩⟩
    all_goals rw [hq] at hstart
    · exact hstart.trans (told_keepsTime r.deadline held' q next (some v))
    · exact hstart
  | _ => exact ⟨rfl, rfl⟩

/-- Resuming takes no time and keeps the leases. -/
theorem resume_keepsTime (r : Session) (p : Rehearsal.Waiting) :
    World.KeepsTime w (resume r p w).1 := by
  unfold resume
  split
  · exact told_keepsTime ..
  split
  · exact told_keepsTime ..
  split
  · exact told_keepsTime ..
  · exact ⟨rfl, rfl⟩

/-- **No step of a run changes a lease**, its own included. -/
theorem keepsTime_of_next {i : Invocation} {phase : Phase} (h : i.next s w = (w', phase)) :
    World.KeepsTime w w' := by
  obtain rfl : (i.next s w).1 = w' := congrArg Prod.fst h
  unfold next
  split
  · exact ⟨rfl, rfl⟩
  · exact ⟨rfl, rfl⟩
  · exact ⟨rfl, rfl⟩
  · exact advance_keepsTime ..
  · exact resume_keepsTime ..
  · exact closeRun_keepsTime ..
  · exact failRun_keepsTime ..
  · exact ⟨rfl, rfl⟩

end Invocation

end

/-! ## The table of leases -/

/-- The table of leases holds exactly the runs that are under way, and no two of them are of one
job. -/
structure Traffic.Tidy (st : Traffic σ) : Prop where
  table : st.world.leases.entries.map Lease.id = st.live.map Invocation.id
  nodup : (st.live.map Invocation.id).Nodup

section

variable {s : Services σ} {registry : Registry} {st st' : Traffic σ} {m : Move} {id : Identifier}
  {before after : List Invocation} {i : Invocation}

namespace Traffic.Tidy

/-- In tidy traffic a job has a lease exactly if an invocation works on it. -/
theorem isLive_iff (h : st.Tidy) : st.world.leases.isLive id = true ↔ ∃ i ∈ st.live, i.id = id := by
  rw [Leases.isLive_iff, h.table, List.mem_map]

/-- The run that leaves is the only one of its job. -/
theorem filter_eq (h : st.Tidy) (hlive : st.live = before ++ i :: after) :
    st.live.filter (·.id ≠ i.id) = before ++ after := by
  have hnodup := h.nodup
  rw [hlive, List.map_append, List.map_cons, List.nodup_append] at hnodup
  obtain ⟨-, hafter, hbefore⟩ := hnodup
  have hfirst : ∀ j ∈ before, decide (j.id ≠ i.id) = true := fun j hj =>
    decide_eq_true (hbefore _ (List.mem_map_of_mem hj) _ List.mem_cons_self)
  have hlast : ∀ j ∈ after, decide (j.id ≠ i.id) = true := by
    intro j hj
    refine decide_eq_true fun heq => (List.nodup_cons.1 hafter).1 ?_
    exact heq ▸ List.mem_map_of_mem hj
  rw [hlive, List.filter_append, List.filter_cons_of_neg (by simp), List.filter_eq_self.2 hfirst,
    List.filter_eq_self.2 hlast]

theorem of_eq (h : st.Tidy) (hleases : st'.world.leases = st.world.leases)
    (hlive : st'.live.map Invocation.id = st.live.map Invocation.id) : st'.Tidy :=
  ⟨by rw [hleases, hlive, h.table], by rw [hlive]; exact h.nodup⟩

end Traffic.Tidy

theorem Traffic.tidy_fresh (w : World σ) : (Traffic.fresh w).Tidy := ⟨rfl, .nil⟩

/-- **A move keeps the table tidy.** -/
theorem Takes.tidy (h : st.Tidy) (htakes : Takes s registry st m st') : st'.Tidy := by
  -- starting adds a lease with its invocation, leaving removes both
  cases htakes with
  | @start w w' live user job leases phase hopen hacquire hopening =>
    have hleases := (Invocation.keepsTime_of_opening hopening).leases_eq
    obtain ⟨hfree, hentries⟩ := Leases.entries_of_acquire? hacquire
    refine ⟨?_, ?_⟩
    · simp only [hleases, hentries, List.map_cons]
      rw [h.table]
      rfl
    · rw [List.map_cons, List.nodup_cons, ← h.table]
      refine ⟨fun hmem => ?_, h.table ▸ h.nodup⟩
      have hbusy : w.leases.isLive job.id = true := Leases.isLive_iff.2 hmem
      rw [hfree] at hbusy
      cases hbusy
  | @refuse w w' live user job result hopen hacquire hrun =>
    rw [(run_of_isLive registry user hopen (Leases.acquire?_eq_none_iff.1 hacquire)).1] at hrun
    cases hrun
    exact h
  | @go w w' before after i phase hnext =>
    exact h.of_eq (Invocation.keepsTime_of_next hnext).leases_eq (by simp [Invocation.id])
  | @leave w before after i =>
    rw [← h.filter_eq rfl]
    refine ⟨?_, h.nodup.sublist (List.filter_sublist.map Invocation.id)⟩
    change (w.leases.release i.id).entries.map Lease.id = _
    rw [Leases.map_id_release, h.table, List.filter_map]
    rfl
  | stop id =>
    refine ⟨?_, h.nodup⟩
    exact (Leases.map_id_cancel ..).trans h.table
  | pass => exact h.of_eq rfl rfl

/-- Traffic stays tidy under any schedule. -/
theorem Schedule.tidy {moves : List Move} (h : st.Tidy) (hs : Schedule s registry st moves st') :
    st'.Tidy := by
  induction hs with
  | refl => exact h
  | move _ htakes ih => exact htakes.tidy ih

theorem Traffic.Leads.tidy (h : Traffic.Leads s registry st st') (htidy : st.Tidy) : st'.Tidy := by
  obtain ⟨moves, h⟩ := h
  exact h.tidy htidy

end

/-- The sample job when its run has just begun. -/
def Traffic.begun : Traffic Outlook :=
  (Traffic.fresh (.seeded .stopped .sample)).enter .willing .standard .sample .sample

theorem schedule_begun :
    Schedule .willing .standard (.fresh (.seeded .stopped .sample)) [.start default] .begun :=
  .move .refl (.enter .sample .sample rfl rfl)

end WalletTasks
