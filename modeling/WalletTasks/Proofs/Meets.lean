import WalletTasks.Runner

/-!
# What a program comes to

A program of an executor ends with a value, or it halts: with a cause of failure, by a crash, or
because it was dropped. `Routine.Meets` says of a program in a world, holding a job, that one
condition holds where it ends with a value and another one where it halts; it is taken apart along
the program, so that every program is described by one lemma that names its ends.

* `Routine.meets_bind`: a program in `do` notation is taken apart at its binds.
* `Routine.meets_call`: a call is answered with a value, or it halts the program.
* `Routine.meets_ask_uninterruptible`: what cannot be interrupted comes to its verdict, or its
  program is dropped.
-/

namespace WalletTasks

/-- How a program ends short of a value. -/
inductive Halt
  | failed (e : TaskError)
  | crashed (message : String)
  | dropped

namespace Halt

/-- The cause that a run reports. -/
def cause (timeout : Span) : Halt → TaskError
  | failed e => e
  | crashed message => .executionFault message
  | dropped => .deadlineExceeded timeout

/-- Whether the run only has to be repeated. -/
def isRetryable : Halt → Bool
  | failed e => e.isRetryable
  | _ => false

/-- Whether the program was dropped. -/
def isDropped : Halt → Bool
  | dropped => true
  | _ => false

end Halt

variable {σ α β : Type}

/-- One condition holds if a program has ended with a value, another one if it has halted. -/
def Ending.Meets (e : Ending σ α) (done : World σ → Job → α → Prop)
    (halted : World σ → Job → Halt → Prop) : Prop :=
  match e.outcome with
  | .returned (.ok a) => done e.world e.held a
  | .returned (.error c) => halted e.world e.held (.failed c)
  | .crashed message => halted e.world e.held (.crashed message)
  | .dropped => halted e.world e.held .dropped

namespace Routine

/-- One condition holds where the program ends with a value, another one where it halts. -/
def Meets (m : Routine α) (s : Services σ) (r : Session) (w : World σ) (job : Job)
    (done : World σ → Job → α → Prop) (halted : World σ → Job → Halt → Prop) : Prop :=
  (drive s r (m job) w).Meets done halted

section

variable {s : Services σ} {r : Session} {w : World σ} {job : Job}
  {D : World σ → Job → α → Prop} {H : World σ → Job → Halt → Prop}

@[simp] theorem meets_pure (a : α) :
    (pure a : Routine α).Meets s r w job D H ↔ D w job a := Iff.rfl

@[simp] theorem meets_fail (e : TaskError) :
    (fail e : Routine α).Meets s r w job D H ↔ H w job (.failed e) := Iff.rfl

@[simp] theorem meets_crash (message : String) :
    (crash message : Routine α).Meets s r w job D H ↔ H w job (.crashed message) := Iff.rfl

@[simp] theorem meets_held {D : World σ → Job → Job → Prop} :
    held.Meets s r w job D H ↔ D w job job := Iff.rfl

@[simp] theorem meets_modify {D : World σ → Job → Unit → Prop} (f : Job → Job) :
    (modify f).Meets s r w job D H ↔ D w (f job) () := Iff.rfl

@[simp] theorem meets_setStatus {D : World σ → Job → Unit → Prop} (t : Status) :
    (setStatus t).Meets s r w job D H ↔ D w { job with status := t } () := Iff.rfl

/-- Routines that follow one another are looked at one by one, with the ways in which they halt in
common. -/
@[simp] theorem meets_bind {D : World σ → Job → β → Prop} (m : Routine α) (f : α → Routine β) :
    (m >>= f).Meets s r w job D H ↔
      m.Meets s r w job (fun w job a => (f a).Meets s r w job D H) H := by
  have h : (m >>= f) job = (m job).andThen fun job a => f a job := rfl
  unfold Meets
  rw [h, drive_andThen]
  rcases drive s r (m job) w with ⟨w', held, outcome⟩
  rcases outcome with (e | a) | message | _ <;> rfl

@[simp] theorem meets_ofExcept (x : Except TaskError α) :
    (ofExcept x).Meets s r w job D H ↔
      match x with
      | .ok a => D w job a
      | .error e => H w job (.failed e) := by
  cases x <;> rfl

@[simp] theorem meets_ofFault (x : Except Fault α) :
    (ofFault x).Meets s r w job D H ↔
      match x with
      | .ok a => D w job a
      | .error (.error e) => H w job (.failed e)
      | .error (.crash message) => H w job (.crashed message) := by
  rcases x with (e | m) | a <;> rfl

/-- What ends well in a strict sense ends well in a lax one. -/
theorem meets_mono {D' : World σ → Job → α → Prop} {H' : World σ → Job → Halt → Prop}
    {m : Routine α} (h : m.Meets s r w job D H) (hD : ∀ w job a, D w job a → D' w job a)
    (hH : ∀ w job e, H w job e → H' w job e) : m.Meets s r w job D' H' := by
  unfold Meets at *
  revert h
  rcases drive s r (m job) w with ⟨w', held, outcome⟩
  intro h
  rcases outcome with (e | a) | message | _
  · exact hH _ _ _ h
  · exact hD _ _ _ h
  · exact hH _ _ _ h
  · exact hH _ _ _ h

theorem meets_and {D' : World σ → Job → α → Prop} {H' : World σ → Job → Halt → Prop}
    {m : Routine α} (h : m.Meets s r w job D H) (h' : m.Meets s r w job D' H') :
    m.Meets s r w job (fun w job a => D w job a ∧ D' w job a)
      (fun w job e => H w job e ∧ H' w job e) := by
  unfold Meets at *
  revert h h'
  rcases drive s r (m job) w with ⟨w', held, (e | a) | message | _⟩
  all_goals exact fun h h' => ⟨h, h'⟩

/-- A request is answered, crashes, or drops the run. -/
theorem meets_ask {q : Request} {D : World σ → Job → q.Answer → Prop} :
    (ask q).Meets s r w job D H ↔
      match w.perform s r job q with
      | (w, job, some (.answer a)) => D (w.hear q a) job a
      | (w, job, some (.crash message)) => H w job (.crashed message)
      | (w, job, none) => H w job .dropped := by
  unfold Meets
  simp only [ask, drive]
  rcases w.perform s r job q with ⟨w', job', (_ | (a | message))⟩ <;> rfl

end

end Routine

/-! ## Calls -/

/-- An interruption: the run was asked to stop, or its deadline has passed. -/
def TaskError.IsInterruption (e : TaskError) : Prop :=
  e = .cancelled ∨ ∃ timeout, e = .deadlineExceeded timeout

theorem TaskError.isRetryable_of_isInterruption {e : TaskError} (h : e.IsInterruption) :
    e.isRetryable = false := by
  obtain rfl | ⟨timeout, rfl⟩ := h <;> rfl

/-- What passes between a run and a service on account of a call: the events, the newest in front,
and the verdict. A call is missed if the run is interrupted before the call starts, and cut if it is
interrupted before the answer comes. -/
inductive Exchange (s : Services σ) (c : Call) :
    List Event → Verdict (Except TaskError c.Answer) → Prop
  | missed {e : TaskError} (he : e.IsInterruption) :
    Exchange s c [.answered c (.error e)] (.answer (.error e))
  | cut {e : TaskError} (he : e.IsInterruption) (time : Nat) (x : σ) :
    Exchange s c [.answered c (.error e), .called time c (s.respond c x).2] (.answer (.error e))
  | heard (time : Nat) (x : σ) {a : c.Answer} (ha : (s.respond c x).2.reply = .value a) :
    Exchange s c [.answered c (.ok a), .called time c (s.respond c x).2] (.answer (.ok a))
  | refused (time : Nat) (x : σ) {e : c.Failure} (he : (s.respond c x).2.reply = .error e) :
    Exchange s c [.answered c (.error (c.cause e)), .called time c (s.respond c x).2]
      (.answer (.error (c.cause e)))
  | crashed (time : Nat) (x : σ) {message : String}
    (hm : (s.respond c x).2.reply = .crash message) :
    Exchange s c [.called time c (s.respond c x).2] (.crash message)

namespace World

variable {s : Services σ} {r : Session} {w : World σ}

theorem isInterruption_of_interruption? {e : TaskError} (h : w.interruption? r = some e) :
    e.IsInterruption := by
  unfold interruption? at h
  split at h
  · cases h
    exact .inl rfl
  split at h
  · cases h
    exact .inr ⟨_, rfl⟩
  · cases h

/-- A run is not interrupted as long as nobody has stopped it and its deadline lies ahead. -/
theorem interruption?_eq_none_iff :
    w.interruption? r = none ↔ w.leases.isCancelled r.lease = false ∧ w.now < r.deadline := by
  unfold interruption?
  split
  · rename_i hcancelled
    simp [hcancelled]
  · rename_i hcancelled
    simp [Bool.eq_false_iff.2 hcancelled]

theorem consult_eq (q : Request) :
    ∃ w' stopAt, w.consult s r q = (w', stopAt) ∧ w'.store = w.store ∧ w'.log = w.log := by
  unfold consult
  split
  · exact ⟨_, _, rfl, by split <;> rfl, by split <;> rfl⟩
  · exact ⟨_, _, rfl, rfl, rfl⟩

/-- The wait for what can be interrupted ends with its verdict or with an interruption. -/
theorem await_eq {q : Request} (interrupted : TaskError → q.Answer)
    (hq : ∀ e, q.interrupted? e = some (interrupted e)) (stopAt : Option Nat) (due : Nat)
    (v : Verdict q.Answer) :
    ∃ w' v', w.await r stopAt q due v = (w', some v') ∧ w'.store = w.store ∧ w'.log = w.log ∧
      (v' = v ∨ ∃ e, e.IsInterruption ∧ v' = .answer (interrupted e)) := by
  unfold await
  simp only [hq]
  split
  · exact ⟨_, _, rfl, rfl, rfl, .inr ⟨_, .inl rfl, rfl⟩⟩
  · refine ⟨_, _, rfl, rfl, rfl, ?_⟩
    split
    · exact .inr ⟨_, .inr ⟨_, rfl⟩, rfl⟩
    · exact .inl rfl

/-- A call is missed because the run is interrupted before, or it is made and then interrupted or
not. -/
theorem perform_call (job : Job) (c : Call) :
    ∃ w' v, w.perform s r job (.call c) = (w', job, some v) ∧ w'.store = w.store ∧
      ((∃ e, e.IsInterruption ∧ v = .answer (.error e) ∧ w'.log = w.log) ∨
        ∃ time x, w'.log = .called time c (s.respond c x).2 :: w.log ∧
          (v = .ofReply c (s.respond c x).2.reply ∨
            ∃ e, e.IsInterruption ∧ v = .answer (.error e))) := by
  obtain ⟨w₁, stopAt, hc, hstore, hlog⟩ := consult_eq (s := s) (r := r) (w := w) (.call c)
  unfold perform
  rw [hc]
  simp only [start]
  cases hi : w₁.interruption? r with
  | some e =>
    -- the call is not even started
    exact ⟨_, _, rfl, hstore, .inl ⟨e, isInterruption_of_interruption? hi, rfl, hlog⟩⟩
  | none =>
    simp only [Option.bind_none, startRequest, startCall, Started.after]
    -- an answer without delay cannot be interrupted any more
    split
    · rename_i heq
      split at heq
      · cases heq
        exact ⟨_, _, rfl, hstore, .inr ⟨_, _, by rw [← hlog], .inl rfl⟩⟩
      · cases heq
    · rename_i heq
      split at heq
      · cases heq
      · cases heq
        obtain ⟨w₂, v, hw, hstore₂, hlog₂, hv⟩ := await_eq (r := r) (q := .call c)
          (fun e => .error e) (fun e => rfl) stopAt
          (w := { w₁ with
            outside := (s.respond c w₁.outside).1
            log := .called w₁.now c (s.respond c w₁.outside).2 :: w₁.log })
          (w₁.now + (s.respond c w₁.outside).2.delay)
          (.ofReply c (s.respond c w₁.outside).2.reply)
        exact ⟨w₂, v, by rw [hw], hstore₂.trans hstore,
          .inr ⟨_, _, by rw [hlog₂, ← hlog], hv⟩⟩

/-- What becomes of a call that has been started and is not interrupted. -/
theorem exchange_ofReply (c : Call) (time : Nat) (x : σ) :
    match Verdict.ofReply c (s.respond c x).2.reply with
    | .answer a => Exchange s c [.answered c a, .called time c (s.respond c x).2] (.answer a)
    | .crash message => Exchange s c [.called time c (s.respond c x).2] (.crash message) := by
  cases h : (s.respond c x).2.reply with
  | value a => exact .heard time x h
  | error e => exact .refused time x h
  | crash message => exact .crashed time x h

end World

/-- How a call halts its program. -/
def CallHalts (s : Services σ) (c : Call) (events : List Event) (h : Halt) : Prop :=
  (∃ e, h = .failed e ∧ Exchange s c events (.answer (.error e))) ∨
    ∃ message, h = .crashed message ∧ Exchange s c events (.crash message)

/-- The events of a call that is answered with a value. -/
inductive Heard (s : Services σ) (c : Call) (a : c.Answer) : List Event → Prop
  | intro (time : Nat) (x : σ) (ha : (s.respond c x).2.reply = .value a) :
    Heard s c a [.answered c (.ok a), .called time c (s.respond c x).2]

/-- No halt at a call asks for another run. -/
theorem CallHalts.isRetryable {s : Services σ} {c : Call} {events : List Event} {h : Halt}
    (hh : CallHalts s c events h) : h.isRetryable = false := by
  obtain ⟨e, rfl, he⟩ | ⟨message, rfl, -⟩ := hh
  · cases he with
    | missed h | cut h => exact TaskError.isRetryable_of_isInterruption h
    | refused => exact c.isRetryable_cause _
  · rfl

namespace Routine

variable {s : Services σ} {r : Session} {w : World σ} {job : Job}
  {H : World σ → Job → Halt → Prop}

/-- All that a call can come to is an exchange. -/
theorem meets_ask_call {c : Call} {D : World σ → Job → Except TaskError c.Answer → Prop}
    (h : ∀ w' events v, w'.store = w.store → w'.log = events ++ w.log → Exchange s c events v →
      match v with
      | .answer a => D w' job a
      | .crash message => H w' job (.crashed message)) :
    (ask (.call c)).Meets s r w job D H := by
  rw [meets_ask]
  obtain ⟨w', v, hw, hstore, ⟨e, he, rfl, hlog⟩ | ⟨time, x, hlog, rfl | ⟨e, he, rfl⟩⟩⟩ :=
    World.perform_call (s := s) (r := r) (w := w) job c
  -- interrupted before the call, answered, interrupted during the call
  · rw [hw]
    exact h _ _ (.answer (.error e)) hstore (by simp [World.hear, hlog]) (.missed he)
  · rw [hw]
    have := World.exchange_ofReply (s := s) c time x
    generalize Verdict.ofReply c (s.respond c x).2.reply = v at *
    cases v with
    | answer a => exact h _ _ (.answer a) hstore (by simp [World.hear, hlog]) this
    | crash message => exact h _ _ (.crash message) hstore (by simp [hlog]) this
  · rw [hw]
    exact h _ _ (.answer (.error e)) hstore (by simp [World.hear, hlog]) (.cut he time x)

theorem meets_call {c : Call} {D : World σ → Job → c.Answer → Prop}
    (hhalt : ∀ w' events h, w'.store = w.store → w'.log = events ++ w.log →
      CallHalts s c events h → H w' job h)
    (hdone : ∀ w' events a, w'.store = w.store → w'.log = events ++ w.log →
      Heard s c a events → D w' job a) :
    (call c).Meets s r w job D H := by
  unfold call
  simp only [meets_bind, meets_ofExcept]
  refine meets_ask_call ?_
  intro w' events v hstore hlog hx
  cases hx with
  | missed h => exact hhalt _ _ _ hstore hlog (.inl ⟨_, rfl, .missed h⟩)
  | cut h time x => exact hhalt _ _ _ hstore hlog (.inl ⟨_, rfl, .cut h time x⟩)
  | heard time x ha => exact hdone _ _ _ hstore hlog (.intro time x ha)
  | refused time x he => exact hhalt _ _ _ hstore hlog (.inl ⟨_, rfl, .refused time x he⟩)
  | crashed time x hm => exact hhalt _ _ _ hstore hlog (.inr ⟨_, rfl, .crashed time x hm⟩)

/-- A rest ends in time or is interrupted, and leaves no trace. -/
theorem meets_ask_sleep {duration : Nat} {D : World σ → Job → Except TaskError Unit → Prop}
    (h : ∀ w' a, w'.store = w.store → w'.log = w.log →
      a = .ok () ∨ (∃ e, e.IsInterruption ∧ a = .error e) → D w' job a) :
    (ask (.sleep duration)).Meets s r w job D H := by
  rw [meets_ask]
  obtain ⟨w₁, stopAt, hc, hstore, hlog⟩ :=
    World.consult_eq (s := s) (r := r) (w := w) (.sleep duration)
  unfold World.perform
  rw [hc]
  simp only [World.start]
  cases hi : w₁.interruption? r with
  | some e =>
    exact h _ _ hstore hlog (.inr ⟨e, World.isInterruption_of_interruption? hi, rfl⟩)
  | none =>
    obtain ⟨w₂, v, hw, hstore₂, hlog₂, hv⟩ :=
      World.await_eq (w := w₁) (r := r) (q := .sleep duration)
        (fun e => .error e) (fun e => rfl) stopAt (w₁.now + duration)
        (.answer (.ok ()))
    simp only [Option.bind_none, World.startRequest, Started.after]
    -- a rest of no length is over at once
    by_cases hd : duration = 0
    · simp only [hd, if_true]
      exact h _ _ hstore hlog (.inl rfl)
    · simp only [hd, if_false, hw]
      obtain rfl | ⟨e, he, rfl⟩ := hv
      · exact h _ _ (hstore₂.trans hstore) (hlog₂.trans hlog) (.inl rfl)
      · exact h _ _ (hstore₂.trans hstore) (hlog₂.trans hlog) (.inr ⟨e, he, rfl⟩)

end Routine

/-! ## Requests that cannot be interrupted -/

namespace Started

/-- The verdict on a request, whenever it is over. -/
def verdict : Started α → Verdict α
  | .over v => v
  | .waiting _ v => v

theorem verdict_after (now delay : Nat) (v : Verdict α) :
    (Started.after now delay v).verdict = v := by
  unfold Started.after
  split <;> rfl

end Started

/-- A request that cannot be interrupted has no answer to an interruption. -/
theorem Request.interrupted?_eq_none {q : Request} (hq : q.isInterruptible = false)
    (e : TaskError) : q.interrupted? e = none := by
  cases q <;> first | rfl | cases hq

/-- No note is made of what is told about such a request. -/
theorem World.hear_eq {q : Request} (hq : q.isInterruptible = false) (a : q.Answer)
    (w : World σ) : w.hear q a = w := by
  cases q <;> first | rfl | cases hq

/-- A request that cannot be interrupted starts at once, and is waited for up to the backstop. -/
theorem World.perform_eq_of_uninterruptible {s : Services σ} {r : Session} {q : Request}
    (hq : q.isInterruptible = false) (held : Job) (w : World σ) :
    w.perform s r held q =
      match w.startRequest s r held q with
      | (w, held, .over v) => (w, held, some v)
      | (w, held, .waiting due v) =>
        if due ≤ r.backstop then (w.waitUntil due, held, some v)
        else (w.waitUntil r.backstop, held, none) := by
  have hinterrupted := Request.interrupted?_eq_none hq
  have hstart : w.start s r held q = w.startRequest s r held q := by
    unfold start
    cases w.interruption? r with
    | none => rfl
    | some e =>
      -- there is a reason to interrupt the run, but the request does not heed it
      simp [hinterrupted]
  unfold perform consult
  simp only [hq, Bool.false_eq_true, if_false, hstart]
  rcases w.startRequest s r held q with ⟨w₁, held₁, v | ⟨due, v⟩⟩
  · rfl
  · simp only [await, hinterrupted]
    split <;> rfl

/-- A request that cannot be interrupted is answered, or waits for longer than the run is kept. -/
theorem World.perform_uninterruptible {s : Services σ} {r : Session} {w w₁ : World σ}
    {job job₁ : Job} {q : Request} {started : Started q.Answer} (hq : q.isInterruptible = false)
    (hstart : w.startRequest s r job q = (w₁, job₁, started)) :
    ∃ now v, w.perform s r job q = ({ w₁ with now }, job₁, v) ∧
      (v = some started.verdict ∨ (v = none ∧ ∃ due v, started = .waiting due v)) := by
  rw [perform_eq_of_uninterruptible hq, hstart]
  rcases started with v | ⟨due, v⟩
  · exact ⟨_, _, rfl, .inl rfl⟩
  · dsimp only
    split
    · exact ⟨_, _, rfl, .inl rfl⟩
    · exact ⟨_, _, rfl, .inr ⟨rfl, _, _, rfl⟩⟩

namespace Routine

variable {s : Services σ} {r : Session} {w w₁ : World σ} {job job₁ : Job}
  {H : World σ → Job → Halt → Prop}

/-- The same for a routine: it goes on with the answer or is dropped. -/
theorem meets_ask_uninterruptible {q : Request} {started : Started q.Answer}
    {D : World σ → Job → q.Answer → Prop} (hq : q.isInterruptible = false)
    (hstart : w.startRequest s r job q = (w₁, job₁, started))
    (hdrop : ∀ w' due v, started = .waiting due v → w'.store = w₁.store → w'.log = w₁.log →
      H w' job₁ .dropped)
    (hover : ∀ w', w'.store = w₁.store → w'.log = w₁.log →
      match started.verdict with
      | .answer a => D w' job₁ a
      | .crash message => H w' job₁ (.crashed message)) :
    (ask q).Meets s r w job D H := by
  rw [meets_ask]
  obtain ⟨now, v, hw, rfl | ⟨rfl, due, v, hv⟩⟩ := World.perform_uninterruptible hq hstart
  · rw [hw]
    have := hover { w₁ with now } rfl rfl
    generalize started.verdict = v at *
    cases v with
    | answer a => cases q <;> first | exact this | cases hq
    | crash message => exact this
  · rw [hw]
    exact hdrop _ _ _ hv rfl rfl

end Routine

end WalletTasks
