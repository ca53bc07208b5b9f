import WalletTasks.Proofs.Leasing
import WalletTasks.Proofs.Record

/-!
# A transaction that is found confirmed

A run that has heard that its transaction is confirmed stores the job as done, unless it is dropped.
Nothing that it asks for behind that can be interrupted, so that it makes no difference whether it
is asked to stop or its deadline passes.

* `Executor.lifecycle_settles`: what such a run comes to.
* `Executor.lifecycle_secures`, `Program.Secures.drive_eq`: why a stop behind the confirmation makes
  no difference.
* `reruns_faithful`: what any number of runs store of a transaction, and what they make of its
  confirmation.
-/

namespace WalletTasks

variable {σ α β : Type}

/-! ## A run that hears of the confirmation -/

/-- No poll has been answered with a confirmation since `base` was all that had been heard. -/
def Unconfirmed (base : List Poll) (log : List Event) : Prop :=
  ∃ polls, traceOf Event.poll? log = base ++ polls ∧ .ok .confirmed ∉ polls

/-- A run that is not dropped and has heard of a confirmation has stored the job as done. -/
def Settles (base : List Poll) (id : Identifier) (dropped : Bool) (st : Store) (log : List Event)
    (_ : Except Fault Job) : Prop :=
  dropped = false → ¬ Unconfirmed base log → ∃ done, st.get? id = some done ∧ done.status = .done

section

variable {s : Services σ} {r : Session} {base : List Poll} {id : Identifier}
  {job held stored : Job} {w w' : World σ}

theorem Unconfirmed.of_eq {log log' : List Event} (h : Unconfirmed base log)
    (heq : traceOf Event.poll? log' = traceOf Event.poll? log) : Unconfirmed base log' := by
  unfold Unconfirmed
  rw [heq]
  exact h

theorem Unconfirmed.of_self {log : List Event} (h : traceOf Event.poll? log = base) :
    Unconfirmed base log := ⟨[], by rw [h, List.append_nil], by simp⟩

/-- A run that has not heard a confirmation may fail as it likes. -/
theorem Unconfirmed.failsTo (h : Unconfirmed base w.log) {login : String} {dropped : Bool}
    {e : TaskError} (hj : w.store.get? held.id = some stored) :
    FailsTo (Settles base id) s login dropped w held e := by
  refine ⟨stored, hj, ?_⟩
  intro w' t result hst _ _ hnot
  exact absurd (h.of_eq (hst.traceOf_eq Event.poll?_notOfStoring)) hnot

theorem Unconfirmed.closesHalted (h : Unconfirmed base w.log) {halt : Halt}
    (hretry : halt.isRetryable = false) (hj : w.store.get? held.id = some stored) :
    ClosesHalted (Settles base id) s r w held halt := by
  refine ⟨?_, fun _ => h.failsTo hj⟩
  intro htrue
  rw [hretry] at htrue
  cases htrue

/-- A run that has not heard a confirmation may end as it likes. -/
theorem Unconfirmed.closesDone (h : Unconfirmed base w.log)
    (hj : w.store.get? held.id = some stored) :
    ClosesDone (Settles base id) s r w held () := by
  refine ⟨stored, hj, ?_⟩
  intro w' t result hst _ _ hnot
  exact absurd (h.of_eq (hst.traceOf_eq Event.poll?_notOfStoring)) hnot

namespace Executor

open Routine

theorem Attempt.not_confirmed_of_isUndecided {polls : List Poll}
    (hall : ∀ p ∈ polls, IsUndecided p) : .ok .confirmed ∉ polls := fun h => hall _ h

/-- A wait that halts has not heard a confirmation. -/
theorem Attempt.WaitHalts.unconfirmed {a : Attempt} {txId : String} {events : List Event}
    {halt : Halt} (h : WaitHalts s a txId events halt)
    (hbase : traceOf Event.poll? w.log = base) (hlog : w'.log = events ++ w.log) :
    Unconfirmed base w'.log := by
  have hpolls : ∀ polls, Polling events polls → .ok .confirmed ∉ polls →
      Unconfirmed base w'.log := fun polls hpolling hnot =>
    ⟨polls, by rw [hlog, traceOf_append, hbase, hpolling.poll], hnot⟩
  -- all polls that were heard are undecided, but for a failure at the end
  cases h with
  | failed undecided hpolling hall =>
    refine hpolls _ hpolling ?_
    simp only [List.mem_append, List.mem_singleton, not_or]
    exact ⟨not_confirmed_of_isUndecided hall, by simp⟩
  | pending undecided hpolling hall =>
    exact hpolls _ hpolling (not_confirmed_of_isUndecided hall)
  | crashed undecided hpolling hall =>
    exact hpolls _ hpolling (not_confirmed_of_isUndecided hall)

/-- From the wait on, a confirmation leads to a job that is done. -/
theorem conclude_settles (hs : s.StoreSucceeds) {a : Attempt} {interval : Span} {f : Footprint}
    (hj : w.store.get? job.id = some job) (hf : job.task.payload.footprint? = some f)
    (hopen : f.completed = false) (hbase : traceOf Event.poll? w.log = base) :
    (do
      a.wait interval
      settle : Routine Unit).Meets s r w job (ClosesDone (Settles base job.id) s r)
      (ClosesHalted (Settles base job.id) s r) := by
  refine Attempt.meets_conclude hs hj hf hopen ?_ ?_ ?_ ?_
  · intro w' events undecided _ hlog hpolls hall _ hnot
    refine absurd ⟨undecided, ?_, Attempt.not_confirmed_of_isUndecided hall⟩ hnot
    rw [hlog, traceOf_append, hbase, hpolls.poll]
  · intro w' events halt hstore hlog hhalts _ _
    exact (hhalts.unconfirmed hbase hlog).failsTo (by rw [hstore, hj])
  · intro w' held stored hget _ _
    refine ⟨stored, hget, ?_⟩
    intro w'' t result _ _ hdropped
    cases hdropped
  · intro w₁ w' events undecided held _ _ _ _ hconcludes _ _
    exact ⟨held, hconcludes.get?, hconcludes.status_eq⟩

/-- A run that finds its transaction confirmed already polls no more. -/
theorem conclude_settles_of_completed (hs : s.StoreSucceeds) {a : Attempt} {interval : Span}
    {f : Footprint} (hj : w.store.get? job.id = some job)
    (hf : job.task.payload.footprint? = some f) (hcompleted : f.completed = true)
    (hbase : traceOf Event.poll? w.log = base) :
    (do
      a.wait interval
      settle : Routine Unit).Meets s r w job (ClosesDone (Settles base id) s r)
      (ClosesHalted (Settles base id) s r) := by
  have hquiet : Unconfirmed base w.log := .of_self hbase
  unfold Attempt.wait settle
  simp only [meets_bind, meets_held]
  rw [hf]
  simp only [hcompleted, if_true, meets_pure, hf, Option.any_some, meets_bind, meets_setStatus]
  have hj' : w.store.get? job.done.id = some job := hj
  refine meets_persist hs hj' ?_ ?_
  · intro w' held halt hst hh
    obtain ⟨stored, hget⟩ := hst.exists_get? hj'
    exact (hquiet.of_eq (hst.traceOf_eq Event.poll?_notOfStoring)).closesHalted hh.isRetryable hget
  · intro w' t₁ t₂ hst
    exact (hquiet.of_eq (hst.traceOf_eq Event.poll?_notOfStoring)).closesDone hst.get?

/-- **A run of a job that hears of the confirmation** and is not dropped stores the job as done. -/
theorem lifecycle_settles (hs : s.StoreSucceeds) {info : RunInfo} {action : Action}
    {footprint : Option Footprint} (hj : w.store.get? job.id = some job)
    (hopen : job.status.isTerminal = false) (hpayload : job.task.payload = .chain action footprint)
    (hbase : traceOf Event.poll? w.log = base) :
    ((lifecycle job.task.kind).run info).Meets s r w job (ClosesDone (Settles base job.id) s r)
      (ClosesHalted (Settles base job.id) s r) := by
  refine meets_lifecycle hs hj hopen hpayload ?_ ?_ ?_
  · intro w' held halt hst hh
    obtain ⟨stored, hget⟩ := hst.exists_get? hj
    exact (Unconfirmed.of_self ((hst.traceOf_eq Event.poll?_notOfStoring).trans hbase)).closesHalted
      hh.isRetryable hget
  · intro w₁ w' t₁ t₂ events halt hst hstore hlog hx
    refine (Unconfirmed.of_self ?_).closesHalted hx.isRetryable (hst.get?_of_store_eq hstore)
    rw [World.traceOf_of_silent hlog hx.poll, hst.traceOf_eq Event.poll?_notOfStoring, hbase]
  · intro w₁ w₂ t₁ t₂ events a settings hst hstore hlog ho _
    have hget := hst.get?_of_store_eq hstore
    have hbase₂ : traceOf Event.poll? w₂.log = base := by
      rw [World.traceOf_of_silent hlog ho.poll, hst.traceOf_eq Event.poll?_notOfStoring, hbase]
    -- without a transaction on record there is a submission first, and it polls nothing
    cases footprint with
    | none =>
      simp only [Option.isNone_none, if_true]
      rw [meets_bind]
      refine meets_submit hs hget rfl ?_ ?_
      · intro w₃ held stored halt hretry hpolls hget₃
        exact (Unconfirmed.of_self (hpolls.trans hbase₂)).closesHalted hretry hget₃
      · intro w₃ t now now' _ _ hpolls hget₃ _
        have hawaits : (((job.running.stamped t₂).submitted (t.footprint now)).stamped now').Awaits
            (t.footprint now) := Job.awaits_submitted_running hpayload
        have hget₃ : w₃.store.get? (((job.running.stamped t₂).submitted
            (t.footprint now)).stamped now').id = _ := hget₃
        exact conclude_settles hs hget₃ hawaits.footprint rfl (hpolls.trans hbase₂)
    | some f =>
      have hf : (job.running.stamped t₂).task.payload.footprint? = some f := by
        change job.task.payload.footprint? = some f
        rw [hpayload]
        rfl
      simp only [Option.isNone_some, Bool.false_eq_true, if_false]
      cases hc : f.completed with
      | false => exact conclude_settles hs hget hf hc hbase₂
      | true => exact conclude_settles_of_completed hs hget hf hc hbase₂

end Executor

end

/-! ## Why it is not interrupted -/

/-- The answer to a request is that a transaction is confirmed. -/
def Request.Confirms : (q : Request) → q.Answer → Prop
  | .call (.poll ..), a => a = .ok .confirmed
  | _, _ => False

/-- Only the answer to a poll confirms anything. -/
theorem Request.not_confirms_of_isRecording {q : Request} (h : q.isRecording = true)
    (a : q.Answer) : ¬ q.Confirms a := by
  cases q <;> first | exact id | cases h

theorem Request.not_confirms_of_call {c : Call} (h : c.isPoll = false)
    (a : (Request.call c).Answer) : ¬ (Request.call c).Confirms a := by
  cases c <;> first | exact id | cases h

/-- Once a program has heard that a transaction is confirmed, it only puts things on record. -/
def Program.Secures : Program α → Prop
  | .finish .. | .crash .. | .stall _ => True
  | .ask _ q next => ∀ job a, (next job a).Secures ∧
    (q.Confirms a → (next job a).KeepsTo (·.isRecording = true) fun _ => True)

namespace Routine

/-- A routine secures what it hears, whatever job it takes over. -/
def Secures (m : Routine α) : Prop := ∀ job, (m job).Secures

theorem secures_of_keepsTo {m : Routine α}
    (h : m.KeepsTo (fun q => ∀ a, ¬ q.Confirms a) fun _ => True) : m.Secures := by
  have haux : ∀ p : Program α, p.KeepsTo (fun q => ∀ a, ¬ q.Confirms a) (fun _ => True) →
      p.Secures := by
    intro p hp
    induction p with
    | finish | crash | stall => trivial
    | ask held q next ih =>
      exact fun job a => ⟨ih job a (hp.2.2 job a trivial), fun hc => absurd hc (hp.1 a)⟩
  exact fun job => haux _ (h job trivial)

/-- Behind a part that hears of no confirmation, all is as if it had not been there. -/
theorem secures_bind_silent {m : Routine α} {f : α → Routine β}
    (hm : m.KeepsTo (fun q => ∀ a, ¬ q.Confirms a) fun _ => True) (hf : ∀ a, (f a).Secures) :
    (m >>= f).Secures := by
  have haux : ∀ p : Program α, p.KeepsTo (fun q => ∀ a, ¬ q.Confirms a) (fun _ => True) →
      (p.andThen fun job a => f a job).Secures := by
    intro p hp
    induction p with
    | finish held result =>
      cases result with
      | ok a => exact hf a held
      | error e => trivial
    | crash | stall => trivial
    | ask held q next ih =>
      exact fun job a => ⟨ih job a (hp.2.2 job a trivial), fun hc => absurd hc (hp.1 a)⟩
  exact fun job => haux _ (hm job trivial)

/-- A part that may hear of a confirmation is followed by what only puts things on record. -/
theorem secures_bind {m : Routine α} {f : α → Routine β} (hm : m.Secures)
    (hf : ∀ a, (f a).KeepsTo (·.isRecording = true) fun _ => True) : (m >>= f).Secures := by
  have hsecures : ∀ a, (f a).Secures := fun a =>
    secures_of_keepsTo fun job _ =>
      (hf a job trivial).mono fun q hq => Request.not_confirms_of_isRecording hq
  have haux : ∀ p : Program α, p.Secures → (p.andThen fun job a => f a job).Secures := by
    intro p hp
    -- by the constructors of the first routine; what follows it only records
    induction p with
    | finish held result =>
      cases result with
      | ok a => exact hsecures a held
      | error e => trivial
    | crash | stall => trivial
    | ask held q next ih =>
      intro job a
      obtain ⟨hrest, hconfirmed⟩ := hp job a
      refine ⟨ih job a hrest, fun hc => ?_⟩
      exact keepsTo_bind (m := fun _ => next job a) (fun _ _ => hconfirmed hc) hf job trivial
  exact fun job => haux _ (hm job)

/-- A request secures what follows it, if the answers that confirm are followed by records alone. -/
theorem secures_ask {q : Request} {f : q.Answer → Routine α} (hf : ∀ a, (f a).Secures)
    (hconfirmed : ∀ a, q.Confirms a → (f a).KeepsTo (·.isRecording = true) fun _ => True) :
    (ask q >>= f).Secures :=
  fun _ job a => ⟨hf a job, fun hc => hconfirmed a hc job trivial⟩

end Routine

namespace Executor

open Routine

/-- Behind a confirmation the wait asks for nothing more. -/
theorem Attempt.secures_awaitDecision {a : Attempt} {txId : String} {interval : Nat} (polls : Nat) :
    (a.awaitDecision txId interval polls).Secures := by
  induction polls with
  | zero => exact secures_of_keepsTo (keepsTo_fail _)
  | succ polls ih =>
    have hagain : (do
        let slept ← ask (.sleep interval)
        ofExcept (slept.mapError waitInterrupted)
        a.awaitDecision txId interval polls : Routine Unit).Secures :=
      secures_bind_silent (keepsTo_ask fun _ => id) fun _ =>
        secures_bind_silent (keepsTo_ofExcept _) fun _ => ih
    refine secures_ask (fun answer => ?_) fun answer hconfirmed => ?_
    · split
      · exact secures_of_keepsTo (keepsTo_pure _)
      · exact secures_of_keepsTo (keepsTo_fail _)
      · exact hagain
      · exact hagain
      · exact secures_of_keepsTo (keepsTo_fail _)
    -- only the first of the answers confirms, and it ends the wait
    · cases hconfirmed
      exact keepsTo_pure _

theorem Attempt.secures_wait {a : Attempt} {interval : Span} : (a.wait interval).Secures := by
  refine secures_bind_silent keepsTo_held fun job => ?_
  split
  · exact secures_of_keepsTo (keepsTo_pure _)
  split
  · exact secures_of_keepsTo (keepsTo_pure _)
  refine secures_bind_silent (keepsTo_ask fun _ => id) fun remaining => ?_
  refine secures_bind (secures_awaitDecision _) fun _ => ?_
  exact keepsTo_confirm (fun _ _ _ _ => trivial) (fun _ => id) _

/-- **The executor of chain actions secures the confirmation of its transaction**: behind it there
is nothing that could be interrupted. -/
theorem lifecycle_secures (kind : Kind) (info : RunInfo) :
    ((lifecycle kind).run info).Secures := by
  have hrecording : ∀ q : Request, q.isRecording = true → ∀ a, ¬ q.Confirms a :=
    fun _ => Request.not_confirms_of_isRecording
  have hcall : ∀ c : Call, c.isPoll = false → ∀ a, ¬ (Request.call c).Confirms a :=
    fun _ => Request.not_confirms_of_call
  have hconclude : ∀ a : Attempt, (do
      a.wait info.pollInterval
      settle : Routine Unit).Secures := fun a =>
    secures_bind Attempt.secures_wait fun _ => keepsTo_settle (fun _ => id) fun _ _ => trivial
  refine secures_bind_silent keepsTo_held fun job => ?_
  split
  · exact secures_of_keepsTo (keepsTo_pure _)
  refine secures_bind_silent (keepsTo_ofExcept _) fun payload => ?_
  split
  · rename_i action footprint
    refine secures_bind_silent (keepsTo_setStatus fun _ _ => trivial) fun _ => ?_
    refine secures_bind_silent (keepsTo_persist fun q hq =>
      hrecording q (Request.isRecording_of_isAside hq)) fun _ => ?_
    refine secures_bind_silent (Attempt.keepsTo_reach hcall) fun ⟨attempt, settings⟩ => ?_
    dsimp only
    split
    · refine secures_bind_silent ?_ fun _ => hconclude attempt
      exact Attempt.keepsTo_submit (fun _ _ _ _ => trivial) hrecording hcall
    · exact hconclude attempt
  · exact secures_of_keepsTo (keepsTo_pure _)

end Executor

/-! ## Within a run -/

/-- Driven through a world, a program comes to what is left of it in another world. -/
inductive ComesTo (s : Services σ) (r : Session) : Program α → World σ → Program α → World σ → Prop
  | refl {p : Program α} {w : World σ} : ComesTo s r p w p w
  | ask {held held' : Job} {q : Request} {next : Job → q.Answer → Program α} {a : q.Answer}
    {p : Program α} {w w₁ w₂ : World σ}
    (hperform : w.perform s r held q = (w₁, held', some (.answer a)))
    (h : ComesTo s r (next held' a) (w₁.hear q a) p w₂) : ComesTo s r (.ask held q next) w p w₂

section

variable {s : Services σ} {r : Session} {p p' : Program α} {w w' : World σ}

/-- A program runs on as what it has come to. -/
theorem ComesTo.drive_eq (h : ComesTo s r p w p' w') : drive s r p w = drive s r p' w' := by
  induction h with
  | refl => rfl
  | ask hperform _ ih =>
    rw [← ih]
    simp only [drive, hperform]

theorem ComesTo.keepsTo {ok : Request → Prop} (h : ComesTo s r p w p' w')
    (hp : p.KeepsTo ok fun _ => True) : p'.KeepsTo ok fun _ => True := by
  induction h with
  | refl => exact hp
  | ask _ _ ih => exact ih (hp.2.2 _ _ trivial)

/-- On its way a program only adds to the log. -/
theorem ComesTo.log_eq (h : ComesTo s r p w p' w') : ∃ later, w'.log = later ++ w.log := by
  induction h with
  | refl => exact ⟨[], rfl⟩
  | @ask held held' q next a p w w₁ w₂ hperform h ih =>
    obtain ⟨events, hlog, -⟩ := World.perform_logsOnly (s := s) (r := r) (w := w) held q
    obtain ⟨heard, hheard, -⟩ := (World.hear_logsOnly (w := w₁) q a).1
    obtain ⟨later, hlater⟩ := ih
    rw [hperform] at hlog
    exact ⟨later ++ heard ++ events, by rw [hlater, hheard, hlog]; simp⟩

/-- Performing a request does not note what its run is told. -/
theorem World.perform_unheard (held : Job) (q : Request) :
    World.LogsOnly (fun e => ∀ c a, e ≠ .answered c a) w (w.perform s r held q).1 := by
  have hstart : ∀ w₀ : World σ, World.LogsOnly (fun e => ∀ c a, e ≠ .answered c a) w₀
      (w₀.startRequest s r held q).1 := by
    intro w₀
    cases q with
    | call c => exact .single rfl fun _ _ h => by cases h
    | _ =>
      refine (startRequest_logsOnly held _).mono ?_
      rintro e he c a rfl
      cases he
  obtain ⟨w₀, -, hlog₀, w', held', v, hp, ⟨-, hlog, -⟩ | ⟨-, hlog, -⟩⟩ :=
    perform_eq_start (s := s) (r := r) (w := w) held q
  · rw [hp]
    exact .of_eq hlog
  · rw [hp]
    have := hstart w₀
    unfold LogsOnly at *
    rw [hlog, ← hlog₀]
    exact this

/-- What is noted of a confirmation is that this very request was answered so. -/
theorem Request.confirms_of_heard {q : Request} {a : q.Answer} {heard : List Event}
    {client : Network} {txId : String} (hlog : (w.hear q a).log = heard ++ w.log)
    (hmem : .answered (.poll client txId) (.ok .confirmed) ∈ heard) : q.Confirms a := by
  cases q with
  | call c =>
    obtain rfl : [.answered c a] = heard := List.append_cancel_right hlog
    cases List.mem_singleton.1 hmem
    rfl
  | _ =>
    obtain rfl := List.self_eq_append_left.1 hlog
    cases hmem

/-- Behind the confirmation, only what puts things on record is left of a program. -/
theorem Program.Secures.keepsTo_of_comesTo (hp : p.Secures) (h : ComesTo s r p w p' w')
    {newer : List Event} (hlog : w'.log = newer ++ w.log) {client : Network} {txId : String}
    (hmem : .answered (.poll client txId) (.ok .confirmed) ∈ newer) :
    p'.KeepsTo (·.isRecording = true) fun _ => True := by
  induction h generalizing newer with
  | refl =>
    obtain rfl := List.self_eq_append_left.1 hlog
    cases hmem
  | @ask held held' q next a p w w₁ w₂ hperform h ih =>
    obtain ⟨hrest, hconfirmed⟩ := hp held' a
    obtain ⟨later, hlater⟩ := h.log_eq
    obtain ⟨heard, hheard, -⟩ := (World.hear_logsOnly (w := w₁) q a).1
    obtain ⟨events, hevents, hunheard⟩ :=
      World.perform_unheard (s := s) (r := r) (w := w) held q
    have hevents : w₁.log = events ++ w.log := by rw [← hevents, hperform]
    obtain rfl : newer = later ++ (heard ++ events) := by
      refine List.append_cancel_right (hlog.symm.trans ?_)
      rw [hlater, hheard, hevents, List.append_assoc, List.append_assoc]
    obtain hmem | hmem := List.mem_append.1 hmem
    -- confirmed later, by this answer, or while the request was performed, which logs no answers
    · exact ih hrest hlater hmem
    obtain hmem | hmem := List.mem_append.1 hmem
    · exact h.keepsTo (hconfirmed (Request.confirms_of_heard hheard hmem))
    · exact absurd rfl (hunheard _ hmem _ _)

/-- **A stop behind the confirmation** makes no difference to the rest of a program that secures it,
and neither does any other change of the leases. -/
theorem Program.Secures.drive_eq (hp : p.Secures) (h : ComesTo s r p w p' w')
    {newer : List Event} (hlog : w'.log = newer ++ w.log) {client : Network} {txId : String}
    (hmem : .answered (.poll client txId) (.ok .confirmed) ∈ newer) (l : Leases) :
    drive s r p' (w'.withLeases l) =
      { drive s r p w with world := (drive s r p w).world.withLeases l } := by
  rw [h.drive_eq]
  exact drive_withLeases (fun _ _ _ => trivial) (hp.keepsTo_of_comesTo h hlog hmem) w' l

end

/-! ## Whole runs -/

/-- A run of the stored job completes what it has heard of. Once a poll has been answered that the
transaction is confirmed, the job is stored as done, unless the run is dropped; and from then on the
run comes to the same whatever becomes of the leases. -/
structure World.Completes (s : Services σ) (id : Identifier) (turn : Turn) (w : World σ) :
    Prop where
  done : ∀ newer client txId, (w.rerun s id turn).1.log = newer ++ w.log →
    .answered (.poll client txId) (.ok .confirmed) ∈ newer → w.isRerunDropped s id turn = false →
    ∃ done, (w.rerun s id turn).1.store.get? id = some done ∧ done.status = .done
  undisturbed : ∀ job r p w₁ p' w₂ newer client txId, w.store.get? id = some job →
    beginRun s .standard turn.user job (w.waitUntil turn.start) = (w₁, .underway r p) →
    ComesTo s r p w₁ p' w₂ → w₂.log = newer ++ w₁.log →
    .answered (.poll client txId) (.ok .confirmed) ∈ newer → ∀ l,
      (endRun s r (drive s r p' (w₂.withLeases l))).1.store = (w.rerun s id turn).1.store ∧
      (endRun s r (drive s r p' (w₂.withLeases l))).2 = (w.rerun s id turn).2

section

variable {s : Services σ} {w : World σ} {seed job : Job} {action : Action}
  {footprint : Option Footprint} {base events : List Event}

/-- A job of the kind of a chain action is one. -/
theorem Job.MayStore.exists_chain (h : seed.MayStore events job)
    (hpayload : seed.task.payload = .chain action footprint) :
    ∃ action footprint, job.task.payload = .chain action footprint := by
  have hshape : job.task.payload.shape = action.shape := by
    rw [job.task.shape_eq, h.kind_eq, ← seed.task.shape_eq, hpayload]
    rfl
  cases hp : job.task.payload with
  | chain action footprint => exact ⟨action, footprint, rfl⟩
  | _ => rw [hp] at hshape; cases action <;> cases hshape

theorem Event.poll?_mem_of_confirmed {client : Network} {txId : String}
    (hmem : .answered (.poll client txId) (.ok .confirmed) ∈ events) :
    .ok .confirmed ∈ traceOf Event.poll? events :=
  List.mem_filterMap.2 ⟨_, List.mem_reverse.2 hmem, rfl⟩

/-- A run that has heard a confirmation leaves the job done, unless it is dropped. -/
theorem run_settles (hs : s.StoreSucceeds) (user : Account)
    (hj : w.store.get? job.id = some job) (hpayload : job.task.payload = .chain action footprint) :
    Settles (traceOf Event.poll? w.log) job.id (isDropped s .standard user job w)
      (run s .standard user job w).1.store (run s .standard user job w).1.log
      (run s .standard user job w).2 := by
  refine run_of_meets (P := Settles (traceOf Event.poll? w.log) job.id) hs ?_ ?_ ?_ ?_ ?_
  -- ends before the program: nothing has been heard
  · exact fun _ _ hnot => absurd (.of_self rfl) hnot
  · exact fun _ _ hnot => absurd (.of_self rfl) hnot
  · intro events message hgate _ hnot
    refine absurd (.of_self ?_) hnot
    rw [traceOf_append, hgate.silent.poll, List.append_nil]
  · intro events e w' _ hgate hstore hlog
    have hbase := World.traceOf_of_silent hlog hgate.silent.poll
    exact (Unconfirmed.of_self hbase).failsTo (by rw [hstore, hj])
  · intro events w' r hopen hgate hstore hlog _ _ _
    rw [Executor.standard_of_chain hpayload]
    exact Executor.lifecycle_settles hs (by rw [hstore, hj]) hopen hpayload
      (World.traceOf_of_silent hlog hgate.silent.poll)

theorem endRun_withLeases (r : Session) (e : Ending σ Unit) (l : Leases) :
    (endRun s r { e with world := e.world.withLeases l }).1.store = (endRun s r e).1.store ∧
      (endRun s r { e with world := e.world.withLeases l }).2 = (endRun s r e).2 := by
  have hclose := closeRun_ignoresLeases (s := s) r e.held e.outcome e.world l
  dsimp only at hclose
  unfold endRun
  rw [hclose]
  exact ⟨rfl, rfl⟩

/-- A run of a stored job that acts on a chain completes what it has heard of. -/
theorem rerun_completes (hs : s.StoreSucceeds) (hj : w.store.get? job.id = some job)
    (hpayload : job.task.payload = .chain action footprint) (turn : Turn) :
    w.Completes s job.id turn := by
  obtain ⟨hrerun, hdropped⟩ := World.rerun_of_get? (s := s) turn hj
  refine ⟨?_, ?_⟩
  · intro newer client txId hlog hmem hkept
    rw [hdropped] at hkept
    rw [hrerun] at hlog ⊢
    refine run_settles (w := w.waitUntil turn.start) hs turn.user hj hpayload hkept ?_
    rintro ⟨polls, htrace, hnone⟩
    rw [hlog, traceOf_append] at htrace
    rw [← List.append_cancel_left htrace] at hnone
    exact hnone (Event.poll?_mem_of_confirmed hmem)
  · intro stored r p w₁ p' w₂ newer client txId hget hbegin hcomes hlog hmem l
    obtain rfl : job = stored := Option.some.inj (hj.symm.trans hget)
    have hsecures : p.Secures := by
      obtain ⟨w', result, heq, -⟩ | ⟨w', r', events, heq, -⟩ :=
        beginRun_cases (s := s) turn.user job (w.waitUntil turn.start)
      · rw [heq] at hbegin
        cases hbegin
      · rw [heq, Executor.standard_of_chain hpayload] at hbegin
        cases hbegin
        exact Executor.lifecycle_secures _ _ job
    have hrun : w.rerun s job.id turn = endRun s r (drive s r p w₁) := by
      rw [hrerun]
      unfold run
      rw [hbegin]
    rw [hsecures.drive_eq hcomes hlog hmem l, hrun]
    exact endRun_withLeases r _ l

/-- A run of the stored job leaves all writes vouched for. -/
theorem rerun_faithful (hs : s.StoreSucceeds)
    (hpayload : seed.task.payload = .chain action footprint)
    (hlog : w.log = events ++ base) (hfaithful : Faithful seed w.store events) (turn : Turn) :
    ∃ events', (w.rerun s seed.id turn).1.log = events' ++ base ∧
      Faithful seed (w.rerun s seed.id turn).1.store events' := by
  obtain ⟨stored, hget, hmay, -⟩ := hfaithful.stored
  obtain ⟨hrerun, -⟩ := World.rerun_of_get? (s := s) turn hget
  rw [hrerun]
  exact run_endsFaithful (w := w.waitUntil turn.start) hs turn.user hlog hfaithful hmay
    ⟨action, footprint, hpayload⟩

/-- What is stored stays faithful to what has been heard over any sequence of runs. -/
theorem reruns_endsFaithful (hs : s.StoreSucceeds)
    (hpayload : seed.task.payload = .chain action footprint) (hlog : w.log = events ++ base)
    (hfaithful : Faithful seed w.store events) (turns : List Turn) :
    ∃ events', (w.reruns s seed.id turns).log = events' ++ base ∧
      Faithful seed (w.reruns s seed.id turns).store events' := by
  induction turns generalizing w events with
  | nil => exact ⟨events, hlog, hfaithful⟩
  | cons turn turns ih =>
    obtain ⟨events', hlog', hfaithful'⟩ := rerun_faithful hs hpayload hlog hfaithful turn
    exact ih hlog' hfaithful'

/-- A stored job without a transaction vouches for itself. -/
theorem Faithful.start (hj : w.store.get? job.id = some job)
    (hpayload : job.task.payload = .chain action none) : Faithful job w.store [] := by
  refine ⟨?_, job, hj, ⟨rfl, rfl, ?_, ?_⟩, .inl rfl⟩
  · intro job' earlier hsuffix
    cases List.suffix_nil.1 hsuffix
  · intro old hold
    cases hold
  · intro f hf
    rw [hpayload] at hf
    cases hf

/-- **The record of a transaction.** Over any sequence of runs of a stored job that acts on a chain
and had no transaction, all its writes are vouched for: its transaction stays as it is once it is
stored, is marked as confirmed only behind a poll of it that was answered so and stays marked, and
the job is stored as done only with the mark. And whenever a run hears of the confirmation, it
completes the job unless it is dropped, be it stopped or not. -/
theorem reruns_faithful (hs : s.StoreSucceeds) {id : Identifier} (hj : w.store.get? id = some job)
    (hpayload : job.task.payload = .chain action none) (turns : List Turn) :
    (∃ events, (w.reruns s id turns).log = events ++ w.log ∧
      Faithful job (w.reruns s id turns).store events) ∧
    ∀ turn, (w.reruns s id turns).Completes s id turn := by
  obtain rfl := Store.get?_id hj
  have hstart : w.log = [] ++ w.log := rfl
  obtain ⟨events, hlog, hfaithful⟩ :=
    reruns_endsFaithful hs hpayload hstart (.start hj hpayload) turns
  refine ⟨⟨events, hlog, hfaithful⟩, fun turn => ?_⟩
  obtain ⟨stored, hget, hmay, -⟩ := hfaithful.stored
  obtain ⟨action', footprint', hpayload'⟩ := hmay.exists_chain hpayload
  rw [← hmay.id_eq] at hget ⊢
  exact rerun_completes hs hget hpayload' turn

end

/-- The first run of the sample job is stopped with its transaction on record, and the second one
hears of the confirmation and stores the job as done. -/
theorem sample_reruns_faithful :
    let w := World.seeded .stopped .sample
    let turn : Turn := ⟨.sample, 0⟩
    let w' := w.reruns .willing default [turn]
    (∃ events, w'.log = events ++ w.log ∧ Faithful .sample w'.store events) ∧
      w'.isRerunDropped .willing default turn = false ∧
      (w'.store.get? default).bind (·.task.payload.footprint?.map (·.completed)) = some false ∧
      ((w'.rerun .willing default turn).1.store.get? default).map (·.status) = some .done ∧
      w'.Completes .willing default turn := by
  intro w turn w'
  obtain ⟨hfaithful, hcompletes⟩ := reruns_faithful Services.storeSucceeds_willing
    (get?_seeded .stopped .sample) rfl [turn]
  exact ⟨hfaithful, by decide +kernel, by decide +kernel, by decide +kernel, hcompletes turn⟩

end WalletTasks
