import WalletTasks.Proofs.Storing

/-!
# What the log says

The log of a world is read through what it says of one subject, oldest first: the requests that
were submitted to chains, the answers to polls that runs have heard, the charges that were sent, and
the setbacks of runs on the way to a chain. What a call leaves in the log is known from the call,
and storing a job leaves nothing but its charge.

* `World.submissions`: how many transactions have been submitted for real.
* `Exchange.request`, `Exchange.poll`, `Exchange.charge`: what a call leaves.
-/

namespace WalletTasks

variable {σ α : Type}

/-- What events say of a subject, oldest first; the newest event stands in front. -/
def traceOf (f : Event → Option α) (events : List Event) : List α := events.reverse.filterMap f

@[simp] theorem traceOf_nil (f : Event → Option α) : traceOf f [] = [] := rfl

@[simp] theorem traceOf_cons (f : Event → Option α) (event : Event) (events : List Event) :
    traceOf f (event :: events) = traceOf f events ++ (f event).toList := by
  cases h : f event <;> simp [traceOf, h]

@[simp] theorem traceOf_append (f : Event → Option α) (newer older : List Event) :
    traceOf f (newer ++ older) = traceOf f older ++ traceOf f newer := by
  simp [traceOf]

namespace Call

/-- The request of a submission, with the client it is made to. -/
def request? : Call → Option (Network × SubmitRequest)
  | submit client request => some (client, request)
  | _ => none

/-- Whether a call submits a transaction for real. -/
def isReal : Call → Bool
  | submit _ request => !request.estimateOnly
  | _ => false

/-- Whether a call asks how far a transaction has come. -/
def isPoll : Call → Bool
  | poll .. => true
  | _ => false

/-- Whether a call is made on the way to a chain. -/
def isApproach : Call → Bool
  | profile _ | networkSettings .. | connect .. | networkId _ => true
  | _ => false

end Call

/-- What a poll is answered. -/
abbrev Poll := Except ChainError TransactionState

instance Poll.decidableEq : DecidableEq Poll
  | .ok a, .ok b => decidable_of_iff (a = b) (by simp)
  | .error a, .error b => decidable_of_iff (a = b) (by simp)
  | .ok _, .error _ | .error _, .ok _ => isFalse (by simp)

namespace Event

def request? : Event → Option (Network × SubmitRequest)
  | .called _ c _ => c.request?
  | _ => none

/-- The answer to a poll, unless the poll was interrupted. -/
def poll? : Event → Option Poll
  | .answered (.poll ..) (.ok state) => some (.ok state)
  | .answered (.poll ..) (.error (.chain e)) => some (.error e)
  | _ => none

def charge? : Event → Option Charge
  | .charged charge => some charge
  | _ => none

/-- Why a run did not get through to its chain. -/
def setback? : Event → Option TaskError
  | .answered c (.error e) => if c.isApproach then some e else none
  | _ => none

end Event

/-- How many transactions were submitted for real, and not for a dry run. -/
def submissionsIn (events : List Event) : Nat :=
  (traceOf Event.request? events).countP fun r => !r.2.estimateOnly

@[simp] theorem submissionsIn_append (newer older : List Event) :
    submissionsIn (newer ++ older) = submissionsIn older + submissionsIn newer := by
  simp [submissionsIn]

/-- The submissions are counted on the trace of the requests. -/
theorem submissionsIn_congr {events events' : List Event}
    (h : traceOf Event.request? events = traceOf Event.request? events') :
    submissionsIn events = submissionsIn events' := by
  rw [submissionsIn, h, submissionsIn]

/-- How many transactions have been submitted for real so far. -/
def World.submissions (w : World σ) : Nat := submissionsIn w.log

/-- Events that say nothing of a subject change nothing about it. -/
theorem World.traceOf_of_silent {w w' : World σ} {events : List Event} {f : Event → Option α}
    (hlog : w'.log = events ++ w.log) (hnone : traceOf f events = []) :
    traceOf f w'.log = traceOf f w.log := by
  rw [hlog, traceOf_append, hnone, List.append_nil]

theorem World.log_append {w w₁ w₂ : World σ} {newer older : List Event}
    (h₁ : w₁.log = older ++ w.log) (h₂ : w₂.log = newer ++ w₁.log) :
    w₂.log = (newer ++ older) ++ w.log := by
  rw [h₂, h₁, List.append_assoc]

/-! ## What a call leaves -/

section

variable {s : Services σ} {c : Call} {a : c.Answer} {events : List Event} {h : Halt}
  {v : Verdict (Except TaskError c.Answer)}

/-- An exchange asks for its call at most once. -/
theorem Exchange.request (hx : Exchange s c events v) :
    traceOf Event.request? events = [] ∨ traceOf Event.request? events = c.request?.toList := by
  cases hx with
  | missed => exact .inl rfl
  | cut | heard | refused | crashed => exact .inr (by simp [Event.request?])

/-- Only a real call can submit, and it submits once. -/
theorem Exchange.submissionsIn_le (hx : Exchange s c events v) :
    submissionsIn events ≤ if c.isReal then 1 else 0 := by
  unfold submissionsIn
  rcases hx.request with h | h
  · rw [h]
    exact Nat.zero_le _
  · rw [h]
    cases c with
    | submit client request =>
      cases he : request.estimateOnly <;> simp [Call.request?, Call.isReal, he]
    | _ => exact Nat.zero_le _

theorem Exchange.charge (hx : Exchange s c events v) : traceOf Event.charge? events = [] := by
  cases hx <;> rfl

theorem Exchange.poll (hx : Exchange s c events v) (hc : c.isPoll = false) :
    traceOf Event.poll? events = [] := by
  cases c with
  | poll => cases hc
  | _ => cases hx <;> rfl

theorem Heard.exchange (hx : Heard s c a events) : Exchange s c events (.answer (.ok a)) := by
  obtain ⟨time, x, ha⟩ := hx
  exact .heard time x ha

theorem Heard.request (hx : Heard s c a events) :
    traceOf Event.request? events = c.request?.toList := by
  cases hx
  simp [Event.request?]

/-- What is answered well is no setback. -/
theorem Heard.setback (hx : Heard s c a events) : traceOf Event.setback? events = [] := by
  cases hx
  rfl

theorem Heard.reply (hx : Heard s c a events) : ∃ x, (s.respond c x).2.reply = .value a := by
  obtain ⟨time, x, ha⟩ := hx
  exact ⟨x, ha⟩

theorem CallHalts.exchange (hx : CallHalts s c events h) : ∃ v, Exchange s c events v := by
  obtain ⟨e, -, h⟩ | ⟨message, -, h⟩ := hx <;> exact ⟨_, h⟩

end

/-! ## Silent stretches -/

/-- Events that say nothing of submissions, polls and charges. -/
structure Silent (events : List Event) : Prop where
  request : traceOf Event.request? events = []
  poll : traceOf Event.poll? events = []
  charge : traceOf Event.charge? events = []

namespace Silent

variable {s : Services σ} {c : Call} {v : Verdict (Except TaskError c.Answer)}
  {newer older events : List Event}

theorem nil : Silent [] := ⟨rfl, rfl, rfl⟩

theorem append (h : Silent newer) (h' : Silent older) : Silent (newer ++ older) := by
  constructor
  · rw [traceOf_append, h.request, h'.request, List.append_nil]
  · rw [traceOf_append, h.poll, h'.poll, List.append_nil]
  · rw [traceOf_append, h.charge, h'.charge, List.append_nil]

theorem submissionsIn_eq (h : Silent events) : submissionsIn events = 0 := by
  rw [submissionsIn, h.request]
  rfl

theorem of_exchange (hx : Exchange s c events v) (hrequest : c.request? = none)
    (hpoll : c.isPoll = false) : Silent events := by
  refine ⟨?_, hx.poll hpoll, hx.charge⟩
  rcases hx.request with h | h
  · exact h
  · rw [h, hrequest]
    rfl

end Silent

/-! ## What a run leaves otherwise -/

/-- A subject that storing a job says nothing of. -/
structure NotOfStoring (f : Event → Option α) : Prop where
  updated : ∀ job, f (.updated job) = none
  charged : ∀ charge, f (.charged charge) = none

namespace Event

theorem request?_notOfStoring : NotOfStoring request? := ⟨fun _ => rfl, fun _ => rfl⟩

theorem poll?_notOfStoring : NotOfStoring poll? := ⟨fun _ => rfl, fun _ => rfl⟩

theorem setback?_notOfStoring : NotOfStoring setback? := ⟨fun _ => rfl, fun _ => rfl⟩

end Event

section

variable {s : Services σ} {login : String} {stored job held : Job} {t₁ t₂ : Instant}
  {w w' : World σ} {f : Event → Option α}

theorem traceOf_chargeEvents (hf : NotOfStoring f) (p : BillingPolicy) (before : Status) :
    traceOf f (p.chargeEvents login before job) = [] := by
  unfold BillingPolicy.chargeEvents
  split
  · rw [traceOf_cons, hf.charged]
    rfl
  · rfl

namespace World

/-- A store leaves the traces alone that are not of storing. -/
theorem Stores.traceOf_eq (h : Stores s login stored job t₁ t₂ w w') (hf : NotOfStoring f) :
    traceOf f w'.log = traceOf f w.log := by
  rw [h.log_eq, traceOf_append, traceOf_chargeEvents hf, traceOf_cons, hf.updated]
  simp

theorem Stores.submissionsIn_eq (h : Stores s login stored job t₁ t₂ w w') :
    submissionsIn w'.log = submissionsIn w.log :=
  submissionsIn_congr (h.traceOf_eq Event.request?_notOfStoring)

theorem Stores.get? (h : Stores s login stored job t₁ t₂ w w') :
    w'.store.get? job.id = some (job.stamped t₂) := by
  rw [h.store_eq]
  exact Store.get?_overwritten_self ..

theorem Stores.get?_of_store_eq {w'' : World σ} (h : Stores s login stored job t₁ t₂ w w')
    (hstore : w''.store = w'.store) :
    w''.store.get? (job.stamped t₂).id = some (job.stamped t₂) := by
  rw [hstore]
  exact h.get?

theorem Storing.traceOf_eq (h : Storing s login stored job w w' held) (hf : NotOfStoring f) :
    traceOf f w'.log = traceOf f w.log := by
  cases h with
  | unwritten t hstore hlog => rw [hlog]
  | written t₁ t₂ hstore hlog =>
    rcases hlog with hlog | hlog
    · rw [hlog, traceOf_cons, hf.updated]
      simp
    · rw [hlog, traceOf_append, traceOf_chargeEvents hf, traceOf_cons, hf.updated]
      simp

theorem Storing.submissionsIn_eq (h : Storing s login stored job w w' held) :
    submissionsIn w'.log = submissionsIn w.log :=
  submissionsIn_congr (h.traceOf_eq Event.request?_notOfStoring)

theorem Storing.held_eq (h : Storing s login stored job w w' held) :
    held = job ∨ ∃ t, held = job.stamped t := by
  cases h with
  | unwritten => exact .inl rfl
  | written t₁ t₂ => exact .inr ⟨t₂, rfl⟩

theorem Storing.id_eq (h : Storing s login stored job w w' held) : held.id = job.id := by
  obtain rfl | ⟨t, rfl⟩ := h.held_eq <;> rfl

/-- A store that is cut short has left the copy that was there or the new one. -/
theorem Storing.get? (h : Storing s login stored job w w' held)
    (hj : w.store.get? job.id = some stored) :
    w'.store.get? job.id = some stored ∨ ∃ t, w'.store.get? job.id = some (job.stamped t) := by
  cases h with
  | unwritten t hstore hlog =>
    rcases hstore with hstore | hstore
    · exact .inl (by rw [hstore, hj])
    · exact .inl (by rw [hstore, Store.get?_noted, hj])
  | written t₁ t₂ hstore hlog =>
    refine .inr ⟨t₂, ?_⟩
    rw [hstore]
    exact Store.get?_overwritten_self ..

/-- Some job is stored whatever storing came to. -/
theorem Storing.exists_get? (h : Storing s login stored job w w' held)
    (hj : w.store.get? job.id = some stored) : ∃ j, w'.store.get? held.id = some j := by
  rw [h.id_eq]
  rcases h.get? hj with hget | ⟨t, hget⟩
  · exact ⟨stored, hget⟩
  · exact ⟨_, hget⟩

end World

end

end WalletTasks
