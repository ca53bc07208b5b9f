import WalletTasks.Job

/-!
# What a run changes in a payload

A run adds to a payload and leaves its parameters alone: the footprint of an action that has been
submitted, the instant at which a delay ends, the receipt of a vote. Payloads of other shapes are
left as they are, so the shape never changes.

* `Payload.shape_withFootprint`, `Payload.shape_withWaitUntil`, `Payload.shape_withReceipt`.
-/

namespace WalletTasks

namespace Payload

/-- Sets the footprint of an action. -/
def withFootprint (f : Footprint) : Payload → Payload
  | chain action _ => chain action (some f)
  | p => p

/-- Marks the transaction of a footprint as confirmed. -/
def complete : Payload → Payload
  | chain action (some f) => chain action (some { f with completed := true })
  | p => p

/-- Sets the instant at which a delay ends. -/
def withWaitUntil (t : Instant) : Payload → Payload
  | delay d => delay { d with waitUntil := some t }
  | p => p

/-- Sets the receipt of a vote. -/
def withReceipt (receipt : String) : Payload → Payload
  | vote v => vote { v with receipt := some receipt }
  | p => p

theorem shape_withFootprint (f : Footprint) (p : Payload) :
    (p.withFootprint f).shape = p.shape := by
  cases p <;> rfl

theorem shape_complete (p : Payload) : p.complete.shape = p.shape := by
  cases p with
  | chain action footprint => cases footprint <;> rfl
  | _ => rfl

theorem shape_withWaitUntil (t : Instant) (p : Payload) :
    (p.withWaitUntil t).shape = p.shape := by
  cases p <;> rfl

theorem shape_withReceipt (receipt : String) (p : Payload) :
    (p.withReceipt receipt).shape = p.shape := by
  cases p <;> rfl

end Payload

/-- Changes the payload of a job by a function that keeps its shape. -/
def Job.mapPayload (f : Payload → Payload) (h : ∀ p, (f p).shape = p.shape) (job : Job) : Job :=
  { job with
    task := ⟨job.task.kind, f job.task.payload, (h job.task.payload).trans job.task.shape_eq⟩ }

end WalletTasks
