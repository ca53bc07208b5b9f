import WalletTasks.Proofs.Passing
import WalletTasks.Proofs.Transcript

/-!
# Real submissions are dry runs scaled up

A run that submits an action for real has made a dry run of it before. What the real submission
spends, what it may cost and everything else about it are worked out from what this run was told of
the calls in front of it, and nothing is carried over from another run.

* `Attempt.scalesUp_real`: the real submission of an attempt scales its dry run up.
* `run_prepares`: whatever a run submits for real has been prepared by the run itself.
-/

namespace WalletTasks

variable {σ α : Type}

/-- What a run is told until it submits an action for real. There is a balance if the action spends
some of it. -/
structure Briefing where
  profile : Profile
  settings : NetworkSettings
  networkId : UInt64
  address : String
  balance : Option Balance
  estimated : Submission

/-- The calls of a run that has made a dry run of an action, with their answers. -/
def Briefing.told (b : Briefing) (job : Job) (action : Action) (client : Network)
    (dry : SubmitRequest) : List Told :=
  [⟨.profile job.profileId, .ok b.profile⟩,
    ⟨.networkSettings job.userId action.source, .ok b.settings⟩,
    ⟨.connect b.profile b.settings action.source, .ok client⟩,
    ⟨.networkId client, .ok b.networkId⟩,
    ⟨.walletAddress client, .ok b.address⟩] ++
  (b.balance.map fun balance =>
    (⟨.balance client b.address action.fromToken, .ok balance⟩ : Told)).toList ++
  [⟨.submit client dry, .ok b.estimated⟩]

/-- What an action spends is worked out from the balance; an action that spends nothing does not
need one. -/
inductive Affords : Option Spend → Option Balance → Wei → Prop
  | spent {spend : Spend} {balance : Balance} {amount : Wei}
    (h : Amount.resolve spend balance.wei = .ok amount) (hpos : 0 < amount.toNat)
    (hle : amount.toNat ≤ balance.wei.toNat) : Affords (some spend) (some balance) amount
  | free : Affords none none .zero

/-- A real submission of an action does what a dry run has tried with nine tenths of the amount. Its
gas plan is made from the cost of the dry run, and keeps to the user's cap. -/
structure ScalesUp (b : Briefing) (kind : Kind) (action : Action) (dry real : SubmitRequest) :
    Prop where
  dry_estimateOnly : dry.estimateOnly = true
  dry_gas : dry.gas = none
  dry_amount : dry.amount.toNat = 9 * real.amount.toNat / 10
  operation : real.operation = action.operation kind ∧ dry.operation = real.operation
  fromToken : real.fromToken = action.fromToken ∧ dry.fromToken = real.fromToken
  slippage : dry.slippage = real.slippage
  amount : Affords action.spend? b.balance real.amount
  gas : ∃ plan, real.gas = some plan ∧
    Gas.plan (Gas.estimate b.estimated.cost action.source) b.settings action.destination =
      .ok plan ∧
    ∀ limit, b.settings.maxFee = some limit → plan.maxFee.toNat ≤ limit.toNat

/-- The events in front of a real submission prepare it: the run has made one dry run, which it
scales up by what it was told. -/
def Prepared (job : Job) (action : Action) (client : Network) (real : SubmitRequest)
    (earlier : List Event) : Prop :=
  ∃ b dry, Recounts (Briefing.told b job action client dry) earlier ∧
    traceOf Event.request? earlier = [(client, dry)] ∧ ScalesUp b job.task.kind action dry real

/-- Whatever is submitted for real among some events is prepared by those in front of it. The newest
event stands first. -/
def Prepares (job : Job) (action : Action) (events : List Event) : Prop :=
  ∀ time client real response earlier,
    .called time (.submit client real) response :: earlier <:+ events →
      real.estimateOnly = false → Prepared job action client real earlier

namespace Prepares

variable {s : Services σ} {job : Job} {action : Action} {newer older : List Event} {e : Event}

theorem nil : Prepares job action [] := by
  intro time client real response earlier h
  cases List.suffix_nil.1 h

theorem cons (he : e.isReal = false) (h : Prepares job action older) :
    Prepares job action (e :: older) := by
  intro time client real response earlier hsuffix hreal
  rcases List.suffix_cons_iff.1 hsuffix with heq | hsuffix
  · cases heq
    simp [Event.isReal, Call.isReal, hreal] at he
  · exact h time client real response earlier hsuffix hreal

/-- Events that submit nothing change nothing. -/
theorem append (hnewer : ∀ e ∈ newer, e.isReal = false) (h : Prepares job action older) :
    Prepares job action (newer ++ older) := by
  induction newer with
  | nil => exact h
  | cons e newer ih =>
    rw [List.forall_mem_cons] at hnewer
    exact (ih hnewer.2).cons hnewer.1

theorem of_unreal (h : ∀ e ∈ older, e.isReal = false) : Prepares job action older := by
  have : Prepares job action (older ++ []) := nil.append h
  rwa [List.append_nil] at this

/-- A submission has to have been prepared by the events before it. -/
theorem cons_real {time : Nat} {client : Network} {real : SubmitRequest}
    {response : Response (.submit client real)} (hprepared : Prepared job action client real older)
    (h : Prepares job action older) :
    Prepares job action (.called time (.submit client real) response :: older) := by
  intro time' client' real' response' earlier hsuffix hreal
  rcases List.suffix_cons_iff.1 hsuffix with heq | hsuffix
  · cases heq
    exact hprepared
  · exact h time' client' real' response' earlier hsuffix hreal

/-- The call of a prepared submission, whatever becomes of it. -/
theorem exchange {client : Network} {real : SubmitRequest}
    {v : Verdict (Except TaskError (Call.submit client real).Answer)}
    (hprepared : Prepared job action client real older) (h : Prepares job action older)
    (hx : Exchange s (.submit client real) newer v) :
    Prepares job action (newer ++ older) := by
  cases hx with
  | missed => exact h.cons rfl
  | cut | heard | refused => exact (h.cons_real hprepared).cons rfl
  | crashed => exact h.cons_real hprepared

end Prepares

theorem Briefing.requests_told (b : Briefing) (job : Job) (action : Action) (client : Network)
    (dry : SubmitRequest) :
    (b.told job action client dry).filterMap (fun t => t.1.request?) = [(client, dry)] := by
  rcases b with ⟨profile, settings, networkId, address, _ | balance, estimated⟩ <;> rfl

/-- Since a log, nothing has been submitted for real that has not been prepared. -/
def World.Prepares (job : Job) (action : Action) (base : List Event) (w : World σ) : Prop :=
  ∃ events, w.log = events ++ base ∧ WalletTasks.Prepares job action events

/-- What submits nothing leaves everything prepared. -/
theorem World.Prepares.logsOnly {job : Job} {action : Action} {base : List Event} {w w' : World σ}
    (h : w.Prepares job action base) (hlog : World.LogsOnly (·.isReal = false) w w') :
    w'.Prepares job action base := by
  obtain ⟨events, hlog₀, h⟩ := h
  obtain ⟨newer, hlog, hnewer⟩ := hlog
  exact ⟨newer ++ events, by rw [hlog, hlog₀, List.append_assoc], h.append hnewer⟩

namespace Executor

open Routine

variable {s : Services σ} {r : Session} {job held : Job} {w : World σ} {base older : List Event}
  {told : List Told}

namespace Attempt

variable {a : Attempt} {settings : NetworkSettings}

/-- **The real submission of an attempt** scales its dry run up. -/
theorem scalesUp_real {b : Briefing} {amount : Wei} {plan : GasPlan}
    (hamount : Affords a.action.spend? b.balance amount)
    (hplan : Gas.plan (Gas.estimate b.estimated.cost a.action.source) b.settings
      a.action.destination = .ok plan) (slippage : Option Decimal) :
    ScalesUp b a.kind a.action (a.dryRun amount slippage) (a.real amount slippage plan) where
  dry_estimateOnly := rfl
  dry_gas := rfl
  dry_amount := Amount.estimate_eq amount
  operation := ⟨rfl, rfl⟩
  fromToken := ⟨rfl, rfl⟩
  slippage := rfl
  amount := hamount
  gas := ⟨plan, rfl, hplan, fun _ => Gas.maxFee_le hplan⟩

/-- What is heard on the way to the chain is told in the order of the four calls. -/
theorem meets_reach_told {kind : Kind} {action : Action}
    {D : World σ → Job → Attempt × NetworkSettings → Prop} {H : World σ → Job → Halt → Prop}
    (hlog : w.log = older ++ base) (ho : Recounts [] older)
    (hhalt : ∀ w' events h, w'.log = events ++ base → (∀ e ∈ events, e.isReal = false) →
      H w' held h)
    (hdone : ∀ w' events profile settings client networkId, w'.log = events ++ base →
      Recounts [⟨.profile held.profileId, .ok profile⟩,
        ⟨.networkSettings held.userId action.source, .ok settings⟩,
        ⟨.connect profile settings action.source, .ok client⟩,
        ⟨.networkId client, .ok networkId⟩] events →
      D w' held (⟨kind, action, client, networkId⟩, settings)) :
    (reach kind action).Meets s r w held D H := by
  unfold reach
  simp only [meets_bind, meets_held, meets_pure]
  refine meets_told rfl hlog ho hhalt ?_
  intro w₁ events₁ profile hlog₁ ho₁
  refine meets_told rfl hlog₁ ho₁ hhalt ?_
  intro w₂ events₂ settings hlog₂ ho₂
  refine meets_told rfl hlog₂ ho₂ hhalt ?_
  intro w₃ events₃ client hlog₃ ho₃
  refine meets_told rfl hlog₃ ho₃ hhalt ?_
  intro w₄ events₄ networkId hlog₄ ho₄
  exact hdone w₄ events₄ profile settings client networkId hlog₄ ho₄

/-- An amount is told by the balance that it is a share of, if it is one. -/
theorem meets_amount_told {address : String} {D : World σ → Job → Wei → Prop}
    {H : World σ → Job → Halt → Prop} (hlog : w.log = older ++ base) (ho : Recounts told older)
    (hhalt : ∀ w' events h, w'.log = events ++ base → (∀ e ∈ events, e.isReal = false) →
      H w' held h)
    (hdone : ∀ w' events balance amount, w'.log = events ++ base →
      Recounts (told ++ (balance.map fun balance =>
        (⟨.balance a.client address a.action.fromToken, .ok balance⟩ : Told)).toList) events →
      Affords a.action.spend? balance amount → D w' held amount) :
    (a.amount address).Meets s r w held D H := by
  unfold amount
  -- an action that spends something asks for the balance; any other asks for nothing
  cases hspend : a.action.spend? with
  | some spend =>
    simp only [meets_bind, meets_ofExcept]
    refine meets_told rfl hlog ho hhalt ?_
    intro w₁ events₁ balance hlog₁ ho₁
    cases hamount : Amount.resolve spend balance.wei with
    | ok amount =>
      obtain ⟨hpos, hle⟩ := Amount.resolve_le hamount
      exact hdone w₁ events₁ (some balance) amount hlog₁ ho₁
        (by rw [hspend]; exact .spent hamount hpos hle)
    | error e => exact hhalt w₁ events₁ _ hlog₁ ho₁.unreal
  | none =>
    refine hdone w older none .zero hlog ?_ (by rw [hspend]; exact .free)
    rwa [Option.map_none, Option.toList_none, List.append_nil]

/-- A submission submits nothing for real that is not prepared, wherever it ends. -/
theorem meets_broadcast_prepares {profile : Profile} {settings : NetworkSettings}
    {D : World σ → Job → GasPlan × Submission → Prop} {H : World σ → Job → Halt → Prop}
    (hkind : a.kind = job.task.kind) (hlog : w.log = older ++ base)
    (ho : Recounts [⟨.profile job.profileId, .ok profile⟩,
      ⟨.networkSettings job.userId a.action.source, .ok settings⟩,
      ⟨.connect profile settings a.action.source, .ok a.client⟩,
      ⟨.networkId a.client, .ok a.networkId⟩] older)
    (hhalt : ∀ w' h, w'.Prepares job a.action base → H w' held h)
    (hdone : ∀ w' result, w'.Prepares job a.action base → D w' held result) :
    (a.broadcast settings).Meets s r w held D H := by
  have hunreal : ∀ w' events h, w'.log = events ++ base → (∀ e ∈ events, e.isReal = false) →
      H w' held h :=
    fun w' events h hlog hevents => hhalt w' h ⟨events, hlog, .of_unreal hevents⟩
  unfold broadcast
  simp only [meets_bind]
  refine meets_told rfl hlog ho hunreal ?_
  intro w₁ events₁ address hlog₁ ho₁
  refine meets_amount_told hlog₁ ho₁ hunreal ?_
  intro w₂ events₂ balance amount hlog₂ ho₂ hafford
  simp only [meets_ofExcept]
  cases hslip : a.slippage settings with
  | error e => exact hunreal w₂ events₂ _ hlog₂ ho₂.unreal
  | ok slippage =>
  refine meets_told (c := .submit a.client (a.dryRun amount slippage)) rfl hlog₂ ho₂ hunreal ?_
  intro w₃ events₃ estimated hlog₃ ho₃
  simp only [meets_ofFault]
  rcases hplan : Gas.plan (Gas.estimate estimated.cost a.action.source) settings
    a.action.destination with (e | message) | plan
  · exact hunreal w₃ events₃ _ hlog₃ ho₃.unreal
  · exact hunreal w₃ events₃ _ hlog₃ ho₃.unreal
  -- everything that the real submission is made of has been told by now
  let b : Briefing := ⟨profile, settings, a.networkId, address, balance, estimated⟩
  have hprepared : Prepared job a.action a.client (a.real amount slippage plan) events₃ := by
    refine ⟨b, a.dryRun amount slippage, ho₃, ?_, ?_⟩
    · rw [ho₃.request]
      exact b.requests_told job a.action a.client _
    · rw [← hkind]
      exact scalesUp_real hafford hplan slippage
  have hcall : ∀ (w' : World σ) events v, w'.log = events ++ w₃.log →
      Exchange s (.submit a.client (a.real amount slippage plan)) events v →
      w'.Prepares job a.action base := by
    intro w' events v hlog' hx
    refine ⟨events ++ events₃, by rw [hlog', hlog₃, List.append_assoc], ?_⟩
    exact (Prepares.of_unreal ho₃.unreal).exchange hprepared hx
  refine meets_call ?_ ?_
  · intro w' events h _ hlog' hx
    obtain ⟨v, hv⟩ := hx.exchange
    exact hhalt w' h (hcall w' events v hlog' hv)
  · intro w' events submission _ hlog' hx
    have := hcall w' events _ hlog' hx.exchange
    split
    · exact hhalt w' _ this
    · exact hdone w' _ this

/-- A submission is prepared by its dry run. -/
theorem meets_submit_prepares {profile : Profile} {settings : NetworkSettings}
    {D : World σ → Job → Unit → Prop} {H : World σ → Job → Halt → Prop}
    (hkind : a.kind = job.task.kind) (hlog : w.log = older ++ base)
    (ho : Recounts [⟨.profile job.profileId, .ok profile⟩,
      ⟨.networkSettings job.userId a.action.source, .ok settings⟩,
      ⟨.connect profile settings a.action.source, .ok a.client⟩,
      ⟨.networkId a.client, .ok a.networkId⟩] older)
    (hhalt : ∀ w' held' h, w'.Prepares job a.action base → H w' held' h)
    (hdone : ∀ w' held', w'.Prepares job a.action base → D w' held' ()) :
    (a.submit settings).Meets s r w held D H := by
  rw [submit_eq, meets_bind]
  refine meets_broadcast_prepares hkind hlog ho (fun w' h => hhalt w' held h) ?_
  intro w' result hw'
  exact meets_unreal
    (keepsTo_record (fun _ _ _ h => h)
      (fun _ hq => Request.isReal_of_isFollowUp (Request.isFollowUp_of_isRecording hq)) result)
    (fun w'' held' h hlog => hhalt w'' held' h (hw'.logsOnly hlog))
    fun w'' held' _ hlog => hdone w'' held' (hw'.logsOnly hlog)

end Attempt

/-- **The executor of chain actions** submits nothing for real that is not prepared. -/
theorem meets_lifecycle_prepares {action : Action} {footprint : Option Footprint} (info : RunInfo)
    (hterm : job.status.isTerminal = false) (hpayload : job.task.payload = .chain action footprint)
    (hlog : w.log = older ++ base) (ho : Recounts [] older) :
    ((lifecycle job.task.kind).run info).Meets s r w job
      (fun w' _ _ => w'.Prepares job action base) (fun w' _ _ => w'.Prepares job action base) := by
  have hpay : job.task.payloadAs job.task.kind.shape = .ok (.chain action footprint) := by
    rw [job.task.payloadAs_shape, hpayload]
  have hunreal : ∀ (w' : World σ) events, w'.log = events ++ base →
      (∀ e ∈ events, e.isReal = false) → w'.Prepares job action base :=
    fun w' events hlog hevents => ⟨events, hlog, .of_unreal hevents⟩
  simp only [lifecycle, meets_bind, meets_held, hterm, Bool.false_eq_true, if_false,
    meets_ofExcept, hpay, meets_setStatus]
  have hstored : ∀ w' : World σ, World.LogsOnly (·.isOfStoring = true) w w' →
      ∃ events, w'.log = events ++ base ∧ Recounts [] events := by
    rintro w' ⟨events, hlog', hevents⟩
    exact ⟨events ++ older, by rw [hlog', hlog, List.append_assoc],
      (Recounts.of_storing hevents).append ho⟩
  refine meets_persist_storing ?_ ?_
  · intro w' held' h hlog'
    obtain ⟨events, hlog₁, ho₁⟩ := hstored w' hlog'
    exact hunreal w' events hlog₁ ho₁.unreal
  intro w₁ held hlog' hprofile huser
  obtain ⟨events₁, hlog₁, ho₁⟩ := hstored w₁ hlog'
  refine Attempt.meets_reach_told hlog₁ ho₁ (fun w' events _ => hunreal w' events) ?_
  intro w₂ events₂ profile settings client networkId hlog₂ ho₂
  rw [show held.profileId = job.profileId from hprofile,
    show held.userId = job.userId from huser] at ho₂
  -- what is left of the run waits for the transaction, and ends with the job done
  have hrest : ∀ (w' : World σ) held', w'.Prepares job action base →
      ((Attempt.mk job.task.kind action client networkId).wait info.pollInterval >>= fun _ =>
        settle).Meets s r w' held' (fun w' _ _ => w'.Prepares job action base)
        (fun w' _ _ => w'.Prepares job action base) := by
    intro w' held' hw'
    have hok : ∀ q : Request, q.isFollowUp = true → q.isReal = false :=
      fun _ => Request.isReal_of_isFollowUp
    refine meets_unreal (keepsTo_bind ?_ fun _ =>
      keepsTo_settle (fun q hq => hok q (Request.isFollowUp_of_isRecording hq)) fun _ h => h)
      (fun _ _ _ hlog => hw'.logsOnly hlog) fun _ _ _ hlog => hw'.logsOnly hlog
    exact Attempt.keepsTo_wait (fun _ _ _ h => h) hok
  simp only [meets_bind] at hrest
  split
  · simp only [meets_bind]
    exact Attempt.meets_submit_prepares rfl hlog₂ ho₂ (fun _ _ _ hw' => hw')
      fun w' held' hw' => hrest w' held' hw'
  · simp only [meets_bind]
    exact hrest w₂ held (hunreal w₂ events₂ hlog₂ ho₂.unreal)

end Executor

/-- **Every real submission is a dry run scaled up.** Whatever a run of a task with an action on a
chain submits for real is prepared by what the run was told before: it has made one dry run, of the
same operation with nine tenths of the amount, and takes the amount and the gas plan from what this
run was answered. -/
theorem run_prepares {s : Services σ} {job : Job} {action : Action}
    {footprint : Option Footprint} (hpayload : job.task.payload = .chain action footprint)
    (user : Account) (w : World σ) :
    ∃ events, (run s .standard user job w).1.log = events ++ w.log ∧
      Prepares job action events := by
  show (run s .standard user job w).1.Prepares job action w.log
  unfold run
  obtain ⟨w', result, hbegin, hlog⟩ | ⟨w', r, events, hbegin, hterm, hgate, hlog⟩ :=
    beginRun_cases (s := s) user job w
  · have hstart : w.Prepares job action w.log := ⟨[], rfl, .nil⟩
    rw [hbegin]
    exact hstart.logsOnly (hlog.mono fun _ he => Event.isReal_of_call?_eq_none he)
  · have hexec := Executor.meets_lifecycle_prepares (s := s) (r := r) (r.info s.limits) hterm
      hpayload hlog (.of_gate hgate)
    rw [← Executor.standard_of_chain hpayload] at hexec
    have hclose := (closeRun_ofStoring (s := s) r
      (drive s r ((Executor.standard job.task.kind).run (r.info s.limits) job) w')).mono
        fun _ he => Event.isReal_of_call?_eq_none (Event.call?_of_isOfStoring he)
    rw [hbegin]
    exact (Ending.world_of_meets hexec).logsOnly hclose

/-- A job that swaps half of what the wallet holds. -/
def Job.sampleSwap : Job :=
  .create default default default Account.sample.id
    ⟨.syncSwap, .chain (.swap .zksyncEra .eth .usdc (.percent (.tenths 500))) none, rfl⟩ .epoch

/-- Services of a user who holds a little and has set a cap on fees. -/
def Services.thrifty : Services Outlook :=
  { Services.willing with
    respond := fun c x =>
      match c with
      | .balance .. => (x, ⟨0, .value ⟨⟨1001, by decide⟩, .one⟩⟩)
      | .networkSettings _ network =>
        (x, ⟨0, .value ⟨network, .default, "", none, some ⟨10 ^ 13, by decide⟩⟩⟩)
      | c => Services.willing.respond c x }

/-- The sample swap is tried with nine tenths of the amount, and is submitted once. -/
theorem sample_run_prepares :
    let w := World.seeded ⟨[], 0⟩ Job.sampleSwap
    let w' := (run .thrifty .standard .sample .sampleSwap w).1
    (traceOf Event.request? w'.log).map (fun q => (q.2.estimateOnly, q.2.amount.toNat)) =
        [(true, 450), (false, 500)] ∧
      ∃ events, w'.log = events ++ w.log ∧
        Prepares .sampleSwap (.swap .zksyncEra .eth .usdc (.percent (.tenths 500))) events := by
  intro w w'
  exact ⟨by decide +kernel, run_prepares rfl .sample w⟩

end WalletTasks
