import WalletTasks.Proofs.Storing
import WalletTasks.Task.Update

/-!
# What a run may change in a job

A run only adds to the job that it is given: the transaction on record stays, at most it is marked
as confirmed, and so does the receipt of a vote. A job that has left something on chain is spent: it
is not submitted again.

* `Job.Grows`: a job is at least as far as another one.
* `Job.isSealed`: no run of the job submits anything any more.
-/

namespace WalletTasks

/-- A transaction is the same, or has been confirmed since. -/
def Footprint.Grows (f g : Footprint) : Prop := g = f ∨ g = { f with completed := true }

theorem Footprint.Grows.trans {f g k : Footprint} (h : f.Grows g) (h' : g.Grows k) :
    f.Grows k := by
  rcases h with rfl | rfl
  · exact h'
  · rcases h' with rfl | rfl
    · exact .inr rfl
    · exact .inr rfl

/-- A transaction keeps its identifier for good. -/
theorem Footprint.Grows.txId_eq {f g : Footprint} (h : f.Grows g) : g.txId = f.txId := by
  rcases h with rfl | rfl <;> rfl

namespace Payload

/-- What a cast vote has left. -/
def receipt? : Payload → Option String
  | vote v => v.receipt
  | _ => none

/-- A payload keeps what another one has left on chain. -/
structure Grows (p q : Payload) : Prop where
  footprint : ∀ f, p.footprint? = some f → ∃ g, q.footprint? = some g ∧ f.Grows g
  receipt : ∀ receipt, p.receipt? = some receipt → q.receipt? = some receipt

namespace Grows

variable {p q k : Payload}

theorem refl (p : Payload) : p.Grows p := ⟨fun f h => ⟨f, h, .inl rfl⟩, fun _ h => h⟩

theorem trans (h : p.Grows q) (h' : q.Grows k) : p.Grows k := by
  refine ⟨?_, fun receipt hr => h'.receipt _ (h.receipt _ hr)⟩
  intro f hf
  obtain ⟨g, hg, hfg⟩ := h.footprint f hf
  obtain ⟨m, hm, hgm⟩ := h'.footprint g hg
  exact ⟨m, hm, hfg.trans hgm⟩

/-- A payload without a transaction or a receipt may grow into anything. -/
theorem of_none (hf : p.footprint? = none) (hr : p.receipt? = none) : p.Grows q := by
  refine ⟨?_, ?_⟩
  · intro f h
    rw [hf] at h
    cases h
  · intro receipt h
    rw [hr] at h
    cases h

theorem withFootprint (f : Footprint) (h : p.footprint? = none) : p.Grows (p.withFootprint f) := by
  cases p with
  | chain action footprint => exact of_none h rfl
  | _ => exact refl _

theorem complete (p : Payload) : p.Grows p.complete := by
  cases p with
  | chain action footprint =>
    cases footprint with
    | none => exact refl _
    | some f =>
      refine ⟨?_, fun _ h => h⟩
      intro g hg
      cases hg
      exact ⟨_, rfl, .inr rfl⟩
  | _ => exact refl _

theorem withWaitUntil (t : Instant) (p : Payload) : p.Grows (p.withWaitUntil t) := by
  cases p with
  | delay d => exact of_none rfl rfl
  | _ => exact refl _

theorem withReceipt (receipt : String) (h : p.receipt? = none) :
    p.Grows (p.withReceipt receipt) := by
  cases p with
  | vote v => exact of_none rfl h
  | _ => exact refl _

end Grows

end Payload

namespace Job

/-- The same job, with all that it has left on chain. -/
structure Grows (a b : Job) : Prop where
  id_eq : b.id = a.id
  payload : a.task.payload.Grows b.task.payload

/-- Whether the job has left something on chain. -/
def isSpent (job : Job) : Bool :=
  job.task.payload.footprint?.isSome || job.task.payload.receipt?.isSome

/-- Whether the job has ended or has left something on chain. -/
def isSealed (job : Job) : Bool := job.status.isTerminal || job.isSpent

variable {a b c : Job}

namespace Grows

theorem refl (a : Job) : a.Grows a := ⟨rfl, .refl _⟩

theorem trans (h : a.Grows b) (h' : b.Grows c) : a.Grows c :=
  ⟨h'.id_eq.trans h.id_eq, h.payload.trans h'.payload⟩

/-- Nothing but the task counts. -/
theorem of_task_eq (h : a.Grows b) (hid : c.id = b.id) (htask : c.task = b.task) : a.Grows c :=
  ⟨hid.trans h.id_eq, htask ▸ h.payload⟩

theorem mapPayload {f : Payload → Payload} {hf : ∀ p, (f p).shape = p.shape} (h : a.Grows b)
    (hp : b.task.payload.Grows (f b.task.payload)) : a.Grows (b.mapPayload f hf) :=
  ⟨h.id_eq, h.payload.trans hp⟩

theorem isSpent (h : a.Grows b) (ha : a.isSpent = true) : b.isSpent = true := by
  unfold Job.isSpent at *
  simp only [Bool.or_eq_true, Option.isSome_iff_exists] at *
  rcases ha with ⟨f, hf⟩ | ⟨receipt, hr⟩
  · obtain ⟨g, hg, -⟩ := h.payload.footprint f hf
    exact .inl ⟨g, hg⟩
  · exact .inr ⟨receipt, h.payload.receipt _ hr⟩

end Grows

end Job

end WalletTasks
