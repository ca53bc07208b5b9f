import WalletTasks.Proofs.Chronicle
import WalletTasks.Proofs.Interruption

/-!
# From the submission to the decision

What the submission of a job and the decision on its transaction make of the chronicle of the job.
If the services answer the same whenever they are asked, polls apart, then a job is submitted on the
same terms by every run; and what its chronicle comes to is known from these terms and from the
decision.

* `LeadsTo.unique`: the services lead a job to one attempt and one set of terms.
* `Executor.conclude_ends`: a run that waits hears the decision, or changes nothing.
* `Executor.meets_submit`: the submission.
-/

namespace WalletTasks

variable {σ : Type}

/-- Calls are answered the same whenever they are made, polls apart. -/
def Services.Steady (s : Services σ) : Prop :=
  ∀ c x y, c.isPoll = false → (s.respond c x).2.reply = (s.respond c y).2.reply

theorem Services.steady_willing : Services.willing.Steady := by
  intro c x y hc
  cases c with
  | poll => cases hc
  | _ => rfl

section

variable {s : Services σ} (hsteady : s.Steady)

include hsteady

/-- Steady services answer a call other than a poll in the same way each time. -/
theorem Heard.unique {c : Call} {a b : c.Answer} {e e' : List Event} (hc : c.isPoll = false)
    (h : Heard s c a e) (h' : Heard s c b e') : a = b := by
  obtain ⟨x, hx⟩ := h.reply
  obtain ⟨y, hy⟩ := h'.reply
  rw [hsteady c x y hc, hy] at hx
  cases hx
  rfl

namespace Executor.Attempt

/-- Steady services lead to the same client and settings each time. -/
theorem Reached.unique {kind : Kind} {action : Action} {job : Job} {a a' : Attempt}
    {settings settings' : NetworkSettings} (h : Reached s kind action job a settings)
    (h' : Reached s kind action job a' settings') : a = a' ∧ settings = settings' := by
  obtain ⟨h₁, h₂, h₃, h₄⟩ := h
  obtain ⟨k₁, k₂, k₃, k₄⟩ := h'
  obtain rfl := Heard.unique hsteady rfl h₁ k₁
  obtain rfl := Heard.unique hsteady rfl h₂ k₂
  obtain rfl := Heard.unique hsteady rfl h₃ k₃
  obtain rfl := Heard.unique hsteady rfl h₄ k₄
  exact ⟨rfl, rfl⟩

omit hsteady in
/-- Of the job, only whose it is matters. -/
theorem Reached.congr {kind : Kind} {action : Action} {job job' : Job} {a : Attempt}
    {settings : NetworkSettings} (h : Reached s kind action job a settings)
    (hprofile : job.profileId = job'.profileId) (huser : job.userId = job'.userId) :
    Reached s kind action job' a settings := by
  obtain ⟨h₁, h₂, h₃, h₄⟩ := h
  rw [hprofile] at h₁
  rw [huser] at h₂
  exact .intro h₁ h₂ h₃ h₄

/-- Steady services lead to the same amount each time. -/
theorem Budgeted.unique {a : Attempt} {address : String} {amount amount' : Wei}
    (h : Budgeted s a address amount) (h' : Budgeted s a address amount') : amount = amount' := by
  -- an action spends an amount or it does not, and the attempt says which
  cases h with
  | spent hspend h hamount =>
    cases h' with
    | spent hspend' h' hamount' =>
      rw [hspend] at hspend'
      cases hspend'
      obtain rfl := Heard.unique hsteady rfl h h'
      rw [hamount] at hamount'
      cases hamount'
      rfl
    | free hspend' =>
      rw [hspend] at hspend'
      cases hspend'
  | free hspend =>
    cases h' with
    | spent hspend' =>
      rw [hspend] at hspend'
      cases hspend'
    | free => rfl

/-- Steady services lead to the same terms each time. -/
theorem Agreed.unique {a : Attempt} {settings : NetworkSettings} {t t' : Terms}
    (h : Agreed s a settings t) (h' : Agreed s a settings t') : t = t' := by
  cases h with
  | intro h₁ h₂ hslippage h₃ hplan h₄ =>
  cases h' with
  | intro k₁ k₂ kslippage k₃ kplan k₄ =>
  cases t with
  | mk amount slippage plan submission =>
  cases t' with
  | mk amount' slippage' plan' submission' =>
  obtain rfl := Heard.unique hsteady rfl h₁ k₁
  obtain rfl := Budgeted.unique hsteady h₂ k₂
  simp only at *
  rw [hslippage] at kslippage
  cases kslippage
  obtain rfl := Heard.unique hsteady rfl h₃ k₃
  rw [hplan] at kplan
  cases kplan
  obtain rfl := Heard.unique hsteady rfl h₄ k₄
  rfl

end Executor.Attempt

omit hsteady in
/-- What the services answer leads a job to an attempt on these terms. -/
def LeadsTo (s : Services σ) (action : Action) (job : Job) (a : Executor.Attempt)
    (t : Executor.Attempt.Terms) : Prop :=
  ∃ settings, Executor.Attempt.Reached s job.task.kind action job a settings ∧
    Executor.Attempt.Agreed s a settings t

/-- There is one attempt and one set of terms that steady services lead a job to. -/
theorem LeadsTo.unique {action : Action} {job : Job} {a a' : Executor.Attempt}
    {t t' : Executor.Attempt.Terms} (h : LeadsTo s action job a t)
    (h' : LeadsTo s action job a' t') : a = a' ∧ t = t' := by
  obtain ⟨settings, hreached, hagreed⟩ := h
  obtain ⟨settings', hreached', hagreed'⟩ := h'
  obtain ⟨rfl, rfl⟩ := hreached.unique hsteady hreached'
  exact ⟨rfl, hagreed.unique hsteady hagreed'⟩

end

/-! ## What a submission and a decision make of the chronicle -/

/-- The footprint that a submission leaves. -/
def Executor.Attempt.Terms.footprint (t : Executor.Attempt.Terms) (now : Instant) : Footprint :=
  ⟨t.submission.txId, t.submission.approveTxId, some t.plan, false, now⟩

/-- A job that has been submitted on these terms. -/
def Job.underway (job : Job) (t : Executor.Attempt.Terms) : Job :=
  job.running.submitted (t.footprint default)

section

variable {job stored : Job} {t : Executor.Attempt.Terms} {now now' t₂ : Instant} {action : Action}

theorem Job.bare_submitted_running :
    (((job.running.stamped t₂).submitted (t.footprint now)).stamped now').bare =
      job.bare.underway t := by
  rw [Job.bare_stamped, Job.bare_submitted, Job.bare_stamped, Job.bare_running]
  rfl

/-- Once its submission is stored, a job waits for that transaction. -/
theorem Job.awaits_submitted_running (hpayload : job.task.payload = .chain action none) :
    (((job.running.stamped t₂).submitted (t.footprint now)).stamped now').Awaits
      (t.footprint now) := by
  refine ⟨rfl, ?_, rfl⟩
  show (job.task.payload.withFootprint (t.footprint now)).footprint? = _
  rw [hpayload]
  rfl

theorem Payload.eq_of_timeless {p : Payload} {f : Footprint}
    (h : p.timeless = .chain action (some f)) :
    ∃ f', p = .chain action (some f') ∧ f'.timeless = f := by
  cases p with
  | chain action' footprint =>
    cases footprint with
    | none => cases h
    | some f' =>
      simp only [Payload.timeless, Option.map_some, Payload.chain.injEq, Option.some.injEq] at h
      exact ⟨f', by rw [h.1], h.2⟩
  | _ => cases h

/-- A job that is underway on some terms awaits the transaction of these terms. -/
theorem Job.awaits_of_bare (hbare : stored.bare = job.bare.underway t)
    (hpayload : job.task.payload = .chain action none) :
    ∃ f, stored.task.payload = .chain action (some f) ∧ f.timeless = t.footprint default ∧
      stored.Awaits f := by
  have htimeless : stored.task.payload.timeless = .chain action (some (t.footprint default)) := by
    have h := congrArg (fun j : Job => j.task.payload) hbare
    have hjob : (job.bare.underway t).task.payload =
        (job.task.payload.timeless).withFootprint (t.footprint default) := rfl
    rw [hjob, hpayload] at h
    exact h
  obtain ⟨f, hf, hft⟩ := Payload.eq_of_timeless htimeless
  have hstatus := congrArg Job.status hbare
  have hcompleted := congrArg Footprint.completed hft
  exact ⟨f, hf, hft, hstatus, by rw [hf]; rfl, hcompleted⟩

end

namespace Chronicle

open Executor

/-- What the submission of a running job makes of its chronicle. -/
def deliver (p : BillingPolicy) (login : String) (a : Attempt) (t : Attempt.Terms) (job : Job)
    (c : Chronicle) : Chronicle :=
  let c := (c.submit (a.requests t)).persist p login .running
    (job.submitted (t.footprint default))
  match t.submission.approveTxId with
  | some approve => c.audit (a.entry job approve .approve (some t.plan) default)
  | none => c

/-- What a run that submits a job makes of its chronicle. -/
def undertake (p : BillingPolicy) (login : String) (a : Attempt) (t : Attempt.Terms) (job : Job)
    (c : Chronicle) : Chronicle :=
  (c.persist p login job.status job.running).deliver p login a t job.running

/-- What the decision on its transaction makes of the chronicle of a submitted job. -/
def conclude (p : BillingPolicy) (login : String) (a : Attempt) (f : Footprint) (job : Job)
    (c : Chronicle) : TransactionState → Chronicle
  | .pending => c
  | .failed reason => c.persist p login .running (job.failed (.transactionFailed f.txId reason))
  | .confirmed =>
    let c := (c.persist p login .running job.confirmed).audit
      (a.entry job.confirmed f.txId .primary f.gas default)
    (c.persist p login .running job.confirmed.done).persist p login .done
      job.confirmed.done.cleared

end Chronicle

/-- How a run of a submitted job ends. Without times, the job is `job` and its chronicle is `c`; a
decision makes `decided` of it; and `base` is what had been heard about the transaction before. -/
inductive Ends (job : Job) (c : Chronicle) (decided : TransactionState → Chronicle)
    (base : List Poll) : Bool → Store → List Event → Except Fault Job → Prop
  | dropped {st : Store} {log : List Event} {fault : Fault} :
    Ends job c decided base true st log (.error fault)
  | broken {dropped : Bool} {st : Store} {log : List Event} {fault : Fault}
    (undecided : List Poll) (hall : ∀ p ∈ undecided, Executor.Attempt.IsUndecided p)
    (hpolls : traceOf Event.poll? log = base ++ undecided) :
    Ends job c decided base dropped st log (.error fault)
  | pending {st : Store} {log : List Event} {stored : Job} (undecided : List Poll)
    (hall : ∀ p ∈ undecided, Executor.Attempt.IsUndecided p)
    (hpolls : traceOf Event.poll? log = base ++ undecided)
    (hget : st.get? job.id = some stored) (hbare : stored.bare = job)
    (hdescribed : stored.IsDescribed) (hc : chronicleOf job.id st log = c) :
    Ends job c decided base false st log (.ok stored)
  | decided {st : Store} {log : List Event} {result : Except Fault Job} (undecided : List Poll)
    (hall : ∀ p ∈ undecided, Executor.Attempt.IsUndecided p) (state : TransactionState)
    (hstate : state ≠ .pending)
    (hpolls : traceOf Event.poll? log = base ++ (undecided ++ [.ok state]))
    (hresult : ∀ t, result = .ok t → t.status.isTerminal = true)
    (hc : chronicleOf job.id st log = decided state) :
    Ends job c decided base false st log result

section

variable {s : Services σ} {r : Session} {w w' : World σ} {job held stored : Job} {f : Footprint}
  {c : Chronicle} {decided : TransactionState → Chronicle} {base : List Poll}

/-- A run that stores its job as failed short of a decision has broken off. -/
theorem failsTo_broken {login : String} {dropped : Bool} {e : TaskError}
    (undecided : List Poll) (hall : ∀ p ∈ undecided, Executor.Attempt.IsUndecided p)
    (hpolls : traceOf Event.poll? w.log = base ++ undecided)
    (hj : w.store.get? held.id = some stored) :
    FailsTo (Ends job c decided base) s login dropped w held e := by
  refine ⟨stored, hj, ?_⟩
  intro w' t result hst hresult
  have hpolls' : traceOf Event.poll? w'.log = base ++ undecided := by
    rw [hst.traceOf_eq Event.poll?_notOfStoring, hpolls]
  rcases hresult with rfl | ⟨-, message, rfl⟩
  · exact .broken undecided hall hpolls'
  · exact .broken undecided hall hpolls'

/-- A confirmation is entered into the chronicle in four steps: confirmed, audited, done and cleared
of its cause. -/
theorem Executor.Attempt.Concludes.chronicle {login : String} {a : Attempt}
    (h : Concludes s login a f job w w' held) (hstatus : job.status = .running) :
    w'.chronicle job.id =
      (w.chronicle job.id).conclude s.billing login a f job.bare .confirmed := by
  cases h with
  | @intro w₁ w₂ w₃ t₁ t₂ t₃ t₄ t₅ t₆ h₁ haudit hlog h₂ h₃ =>
    -- one equation per write
    have hc₁ : w₁.chronicle job.id =
        (w.chronicle job.id).persist s.billing login .running job.bare.confirmed := by
      have h := h₁.chronicle
      rw [hstatus, Job.bare_confirmed] at h
      exact h
    have hc₂ : w₂.chronicle job.id = (w₁.chronicle job.id).audit
        (a.entry job.bare.confirmed f.txId .primary f.gas default) := by
      have h := World.chronicle_audit rfl haudit hlog
      exact h
    have hc₃ : w₃.chronicle job.id =
        (w₂.chronicle job.id).persist s.billing login .running job.bare.confirmed.done := by
      have h := h₂.chronicle
      rw [Job.bare_done, Job.bare_stamped, Job.bare_confirmed] at h
      rw [← hstatus]
      exact h
    have hc₄ : w'.chronicle job.id = (w₃.chronicle job.id).persist s.billing login .done
        job.bare.confirmed.done.cleared := by
      have h := h₃.chronicle
      rw [Job.bare_cleared, Job.bare_stamped, Job.bare_done, Job.bare_stamped,
        Job.bare_confirmed] at h
      exact h
    rw [hc₄, hc₃, hc₂, hc₁]
    rfl

namespace Executor

open Routine

/-- Storing the job and then getting through to its chain leaves what storing it leaves. -/
theorem Attempt.Approach.after_stores {w₁ w₂ : World σ} {login : String} {t₁ t₂ : Instant}
    {events : List Event} (ho : Attempt.Approach events)
    (hst : World.Stores s login stored job t₁ t₂ w w₁) (hstore : w₂.store = w₁.store)
    (hlog : w₂.log = events ++ w₁.log) :
    traceOf Event.poll? w₂.log = traceOf Event.poll? w.log ∧
      w₂.chronicle job.id =
        (w.chronicle job.id).persist s.billing login stored.status job.bare := by
  refine ⟨?_, ?_⟩
  · rw [World.traceOf_of_silent hlog ho.poll, hst.traceOf_eq Event.poll?_notOfStoring]
  · rw [World.chronicle_quiet job.id hstore hlog ho.request ho.charge, hst.chronicle]

/-- **From the wait on.** -/
theorem conclude_ends (hs : s.StoreSucceeds) (a : Attempt) (interval : Span)
    (hj : w.store.get? job.id = some job) (hawaits : job.Awaits f)
    (hdescribed : job.IsDescribed) :
    (do a.wait interval; settle : Routine Unit).Meets s r w job
      (ClosesDone (Ends job.bare (w.chronicle job.id)
        ((w.chronicle job.id).conclude s.billing r.user.login a f job.bare)
        (traceOf Event.poll? w.log)) s r)
      (ClosesHalted (Ends job.bare (w.chronicle job.id)
        ((w.chronicle job.id).conclude s.billing r.user.login a f job.bare)
        (traceOf Event.poll? w.log)) s r) := by
  refine Attempt.meets_conclude hs hj hawaits.footprint hawaits.incomplete ?_ ?_ ?_ ?_
  · intro w' events undecided hstore hlog hpolls hall
    refine .pending undecided hall ?_ (by rw [hstore]; exact hj) rfl hdescribed ?_
    · rw [hlog, traceOf_append, hpolls.poll]
    · exact World.chronicle_quiet job.id hstore hlog hpolls.request hpolls.charge
  · intro w' events h hstore hlog hw hretry hdropped
    have hget : w'.store.get? job.id = some job := by rw [hstore, hj]
    -- failed by the chain, interrupted, or crashed
    cases hw with
    | @failed undecided reason x hpolls hall hx =>
      refine ⟨job, hget, ?_⟩
      intro w'' t result hst hresult
      refine .decided undecided hall (.failed reason) (by simp) ?_ ?_ ?_
      · rw [hst.traceOf_eq Event.poll?_notOfStoring, hlog, traceOf_append,
          hpolls.poll]
      · rintro j rfl
        rcases hresult with herror | ⟨-, message, herror⟩ <;> cases herror
      · have hchronicle := hst.chronicle
        rw [hawaits.status_eq, Job.bare_failed] at hchronicle
        have hquiet := World.chronicle_quiet job.id hstore hlog hpolls.request hpolls.charge
        show w''.chronicle job.id = _
        rw [← hquiet]
        exact hchronicle
    | pending => cases hretry
    | crashed undecided hpolls hall hx =>
      refine failsTo_broken undecided hall ?_ hget
      rw [hlog, traceOf_append, hpolls.poll]
  · intro w' held j hj' _ _
    refine ⟨j, hj', ?_⟩
    intro w'' t result _ hresult
    rcases hresult with rfl | ⟨-, message, rfl⟩ <;> exact .dropped
  · intro w₁ w' events undecided held hstore hlog hpolls hall hconcludes
    refine .decided undecided hall .confirmed (by simp) ?_ ?_ ?_
    · rw [hconcludes.traceOf_eq Event.poll?_notOfStoring, hlog, traceOf_append,
        hpolls.poll]
    · rintro j hj'
      cases hj'
      rw [hconcludes.status_eq]
      rfl
    · have hquiet := World.chronicle_quiet job.id hstore hlog hpolls.request hpolls.charge
      show w'.chronicle job.id = _
      rw [← hquiet]
      exact hconcludes.chronicle hawaits.status_eq

end Executor

/-- A run that is dropped may be anywhere. -/
theorem closesHalted_of_dropped (hj : w.store.get? held.id = some stored) :
    ClosesHalted (Ends job c decided base) s r w held .dropped := by
  refine ⟨by simp [Halt.isRetryable], fun _ => ⟨stored, hj, ?_⟩⟩
  intro w' t result _ hresult
  rcases hresult with rfl | ⟨-, message, rfl⟩ <;> exact .dropped

theorem closesHalted_broken {h : Halt} (hretry : h.isRetryable = false)
    (hpolls : traceOf Event.poll? w.log = base) (hj : w.store.get? held.id = some stored) :
    ClosesHalted (Ends job c decided base) s r w held h := by
  refine ⟨?_, fun _ => failsTo_broken [] (by simp) (by rw [hpolls, List.append_nil]) hj⟩
  intro htrue
  rw [hretry] at htrue
  cases htrue

/-- **The submission.** Either it halts its run before anything is heard of the transaction, or the
job is stored with the footprint, and the chronicle says so. -/
theorem Executor.meets_submit (hs : s.StoreSucceeds) {a : Attempt} {settings : NetworkSettings}
    {D : World σ → Job → Unit → Prop} {H : World σ → Job → Halt → Prop}
    (hj : w.store.get? job.id = some job) (hstatus : job.status = .running)
    (hhalt : ∀ w' held stored h, h.isRetryable = false →
      traceOf Event.poll? w'.log = traceOf Event.poll? w.log →
      w'.store.get? held.id = some stored → H w' held h)
    (hdone : ∀ w' t now now', Attempt.Agreed s a settings t → t.submission.txId.isEmpty = false →
      traceOf Event.poll? w'.log = traceOf Event.poll? w.log →
      w'.store.get? job.id = some ((job.submitted (t.footprint now)).stamped now') →
      w'.chronicle job.id =
        (w.chronicle job.id).deliver s.billing r.user.login a t job.bare →
      D w' ((job.submitted (t.footprint now)).stamped now') ()) :
    (a.submit settings).Meets s r w job D H := by
  unfold Attempt.submit
  simp only [Routine.meets_bind]
  refine Attempt.meets_broadcast ?_ ?_
  · intro w' events h hstore hlog hx
    refine hhalt w' job job h hx.isRetryable ?_ (by rw [hstore, hj])
    exact World.traceOf_of_silent hlog hx.poll
  intro w₁ events t hstore₁ hlog₁ htells hagreed hid
  refine Routine.meets_clock ?_
  intro w₂ now hstore₂ hlog₂
  rw [hstore₁] at hstore₂
  rw [hlog₁] at hlog₂
  have hpolls₂ : traceOf Event.poll? w₂.log = traceOf Event.poll? w.log :=
    World.traceOf_of_silent hlog₂ htells.poll
  have hchronicle₂ := World.chronicle_submit job.id hstore₂ hlog₂ htells.request htells.charge
  simp only [Routine.meets_modify]
  have hj₂ : w₂.store.get? (job.submitted (t.footprint now)).id = some job := by
    rw [hstore₂]
    exact hj
  refine Routine.meets_persist hs hj₂ ?_ ?_
  · intro w' held h hst hh
    have hpolls' := (hst.traceOf_eq Event.poll?_notOfStoring).trans hpolls₂
    obtain ⟨stored, hget⟩ := hst.exists_get? hj₂
    exact hhalt w' held stored h hh.isRetryable hpolls' hget
  -- the footprint is on record, and no poll has been heard yet
  intro w₃ t₁ t₂ hst
  have hst : World.Stores s r.user.login job (job.submitted (t.footprint now)) t₁ t₂ w₂ w₃ := hst
  have hpolls₃ := (hst.traceOf_eq Event.poll?_notOfStoring).trans hpolls₂
  have hchronicle₃ : w₃.chronicle job.id =
      ((w.chronicle job.id).submit (a.requests t)).persist s.billing r.user.login .running
        (job.bare.submitted (t.footprint default)) := by
    have h := hst.chronicle
    rw [hstatus, Job.bare_submitted] at h
    rw [← hchronicle₂]
    exact h
  have hget₃ : w₃.store.get? job.id = some ((job.submitted (t.footprint now)).stamped t₂) :=
    hst.get?
  split
  · rename_i approve happrove
    have hdeliver : ∀ (w' : World σ) t₃, w'.store = w₃.store.audit (a.entry
          ((job.submitted (t.footprint now)).stamped t₂) approve .approve (some t.plan) t₃) →
        w'.log = w₃.log → w'.chronicle job.id =
          (w.chronicle job.id).deliver s.billing r.user.login a t job.bare := by
      intro w' t₃ hstore hlog
      have h := World.chronicle_audit rfl hstore hlog
      unfold Chronicle.deliver
      rw [happrove, ← hchronicle₃]
      exact h
    refine Attempt.meets_auditing hs ?_ ?_
    · intro w' t₃ hstore hlog
      refine hhalt w' _ ((job.submitted (t.footprint now)).stamped t₂) .dropped rfl
        (by rw [hlog, hpolls₃]) ?_
      rw [hstore, Store.get?_audit]
      exact hget₃
    · intro w' t₃ hstore hlog
      refine hdone w' t now t₂ hagreed hid (by rw [hlog, hpolls₃]) ?_ (hdeliver w' t₃ hstore hlog)
      rw [hstore, Store.get?_audit]
      exact hget₃
  · rename_i happrove
    refine hdone w₃ t now t₂ hagreed hid hpolls₃ hget₃ ?_
    unfold Chronicle.deliver
    rw [happrove, ← hchronicle₃]

end

end WalletTasks
