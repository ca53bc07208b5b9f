import WalletTasks.Proofs.Causes
import WalletTasks.Proofs.Records

/-!
# Kind and payload agree

A kind is paired with a payload of its shape when a task is made, and a text that pairs it with any
other payload is refused. From then on the payload changes only by a payload of the same shape. So
whoever looks a payload up by the shape of the kind finds it, and three tables may be told apart:
which payload a kind carries, which executor it has, and how it is described.

* `Wire.decodeText_task`: a text is decoded as a task exactly if its parts agree.
* `Task.edits`: what is left of a task behind any sequence of edits.
* `Task.render_eq`: the description of a task is never missed.
* `task_agrees`: all of this, and that no run fails over it.
-/

namespace WalletTasks

namespace Json

variable {α β : Type}

/-- A value that is checked behind its decoder is checked behind the whole text. -/
theorem decodeText_refine {d : Decoder α} {f : α → Except DecodeError β} {text : String} {a : α}
    (h : decodeText d text = .ok a) : decodeText (Decoder.refine d f) text = f a := by
  obtain ⟨hroot, hend⟩ := decodeText_eq_ok_iff.1 h
  simp only [decodeText, Decoder.refine, hroot, hend, bind, Except.bind]
  cases f a <;> rfl

end Json

/-! ## Making a task -/

namespace Wire

open Json

/-- Reads the parts of a task, whether or not they agree. -/
def partsDecoder : Decoder (Kind × Payload) :=
  (Prod.mk <$> Fields.required "kind" (choice Kind)
    <*> Fields.required "payload" payloadDecoder).decoder

/-- **A text whose parts are read is read as a task exactly if they agree.** -/
theorem decodeText_task {text : String} {kind : Kind} {payload : Payload}
    (h : decodeText partsDecoder text = .ok (kind, payload)) :
    decodeText taskDecoder text =
      (Task.pair kind payload).mapError fun e => .rejected e.message :=
  decodeText_refine h

end Wire

namespace Task

variable {t : Task}

/-! ## Looking at the payload and changing it -/

/-- A payload is found by the shape of the kind, and by no other. -/
theorem payloadAs_eq (t : Task) (shape : Shape) :
    t.payloadAs shape =
      if shape = t.kind.shape then .ok t.payload
      else .error (.payloadMismatch t.kind shape t.kind.shape) := by
  unfold payloadAs mismatch
  rw [t.shape_payload]
  split
  · rename_i h
    rw [if_pos h.symm]
  · rename_i h
    rw [if_neg (Ne.symm h)]

/-- What is left of a task behind an edit. An edit that is refused leaves it as it was. -/
def edit (t : Task) (payload : Payload) : Task := (t.replace payload).toOption.getD t

/-- What is left of a task behind a sequence of edits. -/
def edits (t : Task) (payloads : List Payload) : Task := payloads.foldl edit t

/-- An edit takes exactly a payload of the kind's shape. -/
theorem edit_eq (t : Task) (payload : Payload) :
    t.edit payload =
      if h : payload.shape = t.kind.shape then ⟨t.kind, payload, h⟩ else t := by
  unfold edit replace
  by_cases h : payload.shape = t.kind.shape
  · rw [dif_pos (t.shape_payload.trans h.symm), dif_pos h]
    rfl
  · rw [dif_neg fun h' => h (h'.symm.trans t.shape_payload), dif_neg h]
    rfl

theorem kind_edit (t : Task) (payload : Payload) : (t.edit payload).kind = t.kind := by
  rw [edit_eq]
  split <;> rfl

/-- The kind of a task stays, and its payload is the last one of the kind's shape. -/
theorem edits_eq (t : Task) (payloads : List Payload) :
    (t.edits payloads).kind = t.kind ∧
      (t.edits payloads).payload =
        (payloads.filter fun p => p.shape = t.kind.shape).getLast?.getD t.payload := by
  induction payloads generalizing t with
  | nil => exact ⟨rfl, rfl⟩
  | cons payload payloads ih =>
    obtain ⟨hkind, hpayload⟩ := ih (t.edit payload)
    refine ⟨hkind.trans (t.kind_edit payload), hpayload.trans ?_⟩
    rw [kind_edit, edit_eq]
    split
    · rename_i h
      simp [h, List.getLast?_cons]
    · rename_i h
      simp [h]

/-! ## Describing a task -/

/-- The description of a task, for who looks for the payload that the kind carries. -/
def render (t : Task) : Except TaskError String :=
  (t.payloadAs t.kind.shape).map fun payload => (Wire.params payload).pretty

/-- Every task can be described. -/
theorem render_eq (t : Task) : t.render = .ok (Wire.describe t) := by
  unfold render
  rw [t.payloadAs_shape]
  rfl

end Task

/-! ## All of it -/

/-- Nobody who goes by the kind of a task misses its payload, be it to look at it, to change it, to
describe it or to run it. -/
structure Task.Agrees (t : Task) : Prop where
  shape_eq : t.payload.shape = t.kind.shape
  found_iff : ∀ shape, (∃ payload, t.payloadAs shape = .ok payload) ↔ shape = t.kind.shape
  replaced_iff : ∀ payload, (∃ u, t.replace payload = .ok u) ↔ payload.shape = t.kind.shape
  described : t.render = .ok (Wire.describe t)
  executed : ∀ {σ : Type} (s : Services σ) (r : Session) (info : RunInfo) (job : Job) (w : World σ)
    (e : TaskError), job.task = t →
    (drive s r ((Executor.standard t.kind).run info job) w).outcome = .returned (.error e) →
    e.isMismatch = false
  ran : ∀ {σ : Type} (s : Services σ) (user : Account) (job : Job) (w : World σ) (e : TaskError),
    job.task = t → (run s .standard user job w).2 = .error (.error e) → e.isMismatch = false

theorem Task.agrees (t : Task) : t.Agrees where
  shape_eq := t.shape_payload
  found_iff shape := by
    rw [t.payloadAs_eq]
    split
    · rename_i h
      exact ⟨fun _ => h, fun _ => ⟨_, rfl⟩⟩
    · rename_i h
      exact ⟨fun ⟨_, hfound⟩ => (by cases hfound), fun h' => absurd h' h⟩
  -- a payload may take the place of another one exactly if it has the shape of the kind
  replaced_iff payload := by
    constructor
    · rintro ⟨u, hu⟩
      obtain ⟨hkind, rfl⟩ := replace_eq_ok_iff.1 hu
      rw [u.shape_payload, hkind]
    · intro h
      exact ⟨⟨t.kind, payload, h⟩, replace_eq_ok_iff.2 ⟨rfl, rfl⟩⟩
  described := t.render_eq
  executed s r info job w e htask he := by
    subst htask
    exact drive_failsOnly (fun _ => TaskError.isMismatch_of_isOutward)
      (Executor.standard_failsOnly info job) he
  ran s user job w e _ he := run_matches user job he

/-- **Kind and payload never disagree.** A task is made, or read from a text, exactly of a kind and
a payload of its shape; no sequence of edits changes the kind or lets another shape in; and behind
all of them whoever goes by the kind finds the payload. -/
theorem task_agrees :
    (∀ kind payload, (∃ t, Task.pair kind payload = .ok t) ↔ payload.shape = kind.shape) ∧
    (∀ text kind payload, Json.decodeText Wire.partsDecoder text = .ok (kind, payload) →
      ((∃ t, Json.decodeText Wire.taskDecoder text = .ok t) ↔ payload.shape = kind.shape)) ∧
    ∀ (t : Task) (payloads : List Payload),
      (t.edits payloads).kind = t.kind ∧ (t.edits payloads).Agrees := by
  have hpair : ∀ kind payload,
      (∃ t, Task.pair kind payload = .ok t) ↔ payload.shape = kind.shape := by
    intro kind payload
    constructor
    · rintro ⟨t, ht⟩
      obtain ⟨rfl, rfl⟩ := Task.pair_eq_ok_iff.1 ht
      exact t.shape_payload
    · intro h
      exact ⟨⟨kind, payload, h⟩, Task.pair_eq_ok_iff.2 ⟨rfl, rfl⟩⟩
  refine ⟨hpair, ?_, fun t payloads => ⟨(t.edits_eq payloads).1, Task.agrees _⟩⟩
  intro text kind payload hparts
  rw [← hpair, Wire.decodeText_task hparts]
  cases Task.pair kind payload with
  | error e => exact ⟨fun ⟨_, h⟩ => (by cases h), fun ⟨_, h⟩ => (by cases h)⟩
  | ok t => exact ⟨fun _ => ⟨t, rfl⟩, fun _ => ⟨t, rfl⟩⟩

/-- A mock task is read, and a mock task with a delay is not. -/
theorem sample_task_agrees :
    let text (kind : Kind) (payload : Payload) :=
      (Json.object [("kind", Wire.labelled kind), ("payload", Wire.payload payload)]).compact
    (∃ t, Json.decodeText Wire.taskDecoder (text .mock .mock) = .ok t) ∧
      ¬∃ t, Json.decodeText Wire.taskDecoder (text .mock (.delay ⟨1, none, none⟩)) = .ok t := by
  intro text
  have hread := task_agrees.2.1
  refine ⟨(hread _ .mock .mock (by decide +kernel)).2 rfl, fun h => ?_⟩
  have hshape := (hread _ .mock (.delay ⟨1, none, none⟩) (by decide +kernel)).1 h
  cases hshape

end WalletTasks
