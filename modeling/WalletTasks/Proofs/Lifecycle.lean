import WalletTasks.Proofs.Closing
import WalletTasks.Proofs.Trace

/-!
# The parts of a life on a chain

What each part of the executor of chain actions comes to: reaching the network, the submission, and
the wait for a decision. A wait that is interrupted asks for another run; whatever else halts a part
does not.

* `Attempt.meets_reach`, `Attempt.meets_broadcast`, `Attempt.meets_auditing`: one lemma for each
  part, with all its ends.
* `Attempt.meets_awaitDecision`: the wait hears polls that decide nothing up to the one that does.
-/

namespace WalletTasks

variable {σ : Type}

/-- Whether a cause lies in the figures of a job: its amount, its delay, its gas or its slippage. -/
def TaskError.isOfFigures : TaskError → Bool
  | insufficientBalance .. | invalidAmount _ | unsupportedNetwork .. | unsupportedSlippage ..
  | gasLimitExceeded .. => true
  | _ => false

theorem TaskError.isRetryable_of_isOfFigures {e : TaskError} (h : e.isOfFigures = true) :
    e.isRetryable = false := by
  cases e <;> first | rfl | cases h

/-- The question for the funds leaves nothing but itself. -/
theorem Gate.silent {s : Services σ} {login : String} {kind : Kind} {events : List Event}
    {result : Except Fault Unit} (h : Gate s login kind events result) : Silent events := by
  cases h <;> exact ⟨rfl, rfl, rfl⟩

namespace Executor.Attempt

open Routine

variable {s : Services σ} {r : Session} {w : World σ} {job : Job}
  {H : World σ → Job → Halt → Prop}

/-! ## Reaching the network -/

/-- Calls on the way to a chain have all been answered with values. -/
structure Approach (events : List Event) : Prop extends Silent events where
  setback : traceOf Event.setback? events = []

theorem Approach.nil : Approach [] := ⟨.nil, rfl⟩

theorem Approach.cons {c : Call} {a : c.Answer} {newer older : List Event}
    (hx : Heard s c a newer) (hc : c.isApproach = true) (h : Approach older) :
    Approach (newer ++ older) := by
  have hsilent : Silent newer := by
    apply Silent.of_exchange hx.exchange
    · cases c <;> first | rfl | cases hc
    · cases c <;> first | rfl | cases hc
  refine ⟨hsilent.append h.toSilent, ?_⟩
  rw [traceOf_append, h.setback, hx.setback, List.append_nil]

/-- The network has been reached for a job. -/
inductive Reached (s : Services σ) (kind : Kind) (action : Action) (job : Job) :
    Attempt → NetworkSettings → Prop
  | intro {profile : Profile} {settings : NetworkSettings} {client : Network} {networkId : UInt64}
    {e₁ e₂ e₃ e₄ : List Event}
    (h₁ : Heard s (.profile job.profileId) profile e₁)
    (h₂ : Heard s (.networkSettings job.userId action.source) settings e₂)
    (h₃ : Heard s (.connect profile settings action.source) client e₃)
    (h₄ : Heard s (.networkId client) networkId e₄) :
    Reached s kind action job ⟨kind, action, client, networkId⟩ settings

/-- A call on the way to the network halts the program. -/
structure ReachHalts (s : Services σ) (events : List Event) (h : Halt) : Prop
    extends Silent events where
  isRetryable : h.isRetryable = false
  cause : (∃ message c x, c.isPoll = false ∧ (s.respond c x).2.reply = .crash message ∧
      h = .crashed message) ∨
    ∃ e, h = .failed e ∧ traceOf Event.setback? events = [e]

/-- A call on the way to the chain that halts the run is not a submission, and tells why it halts.
-/
theorem ReachHalts.intro {c : Call} {newer older : List Event} {h : Halt}
    (hx : CallHalts s c newer h) (hc : c.isApproach = true) (ho : Approach older) :
    ReachHalts s (newer ++ older) h := by
  have hpoll : c.isPoll = false := by
    cases c <;> first | rfl | cases hc
  have hsilent : Silent newer := by
    obtain ⟨v, hv⟩ := hx.exchange
    refine Silent.of_exchange hv ?_ hpoll
    cases c <;> first | rfl | cases hc
  refine ⟨hsilent.append ho.toSilent, hx.isRetryable, ?_⟩
  rw [traceOf_append, ho.setback, List.nil_append]
  -- failed with a cause, which is a setback, or crashed
  rcases hx with ⟨e, rfl, hx⟩ | ⟨message, rfl, hx⟩
  · refine .inr ⟨e, rfl, ?_⟩
    cases hx <;> simp [Event.setback?, hc]
  · cases hx with
    | crashed time x hm => exact .inl ⟨message, c, x, hpoll, hm, rfl⟩

/-- One more call on the way to the network, seen from where the way started. -/
theorem meets_approach {c : Call} {w₀ : World σ} {older : List Event}
    {D : World σ → Job → c.Answer → Prop} (hc : c.isApproach = true)
    (hstore₀ : w.store = w₀.store) (hlog₀ : w.log = older ++ w₀.log) (ho : Approach older)
    (hhalt : ∀ w' events h, w'.store = w₀.store → w'.log = events ++ w₀.log →
      ReachHalts s events h → H w' job h)
    (hdone : ∀ w' e events a, w'.store = w₀.store → w'.log = events ++ w₀.log →
      Approach events → Heard s c a e → D w' job a) :
    (call c).Meets s r w job D H := by
  refine meets_call ?_ ?_
  · intro w' e h hstore hlog hx
    exact hhalt w' (e ++ older) h (hstore.trans hstore₀) (World.log_append hlog₀ hlog)
      (.intro hx hc ho)
  · intro w' e a hstore hlog hx
    exact hdone w' e (e ++ older) a (hstore.trans hstore₀) (World.log_append hlog₀ hlog)
      (.cons hx hc ho) hx

/-- On the way to the chain there are four calls, each of which can halt the run. -/
theorem meets_reach {kind : Kind} {action : Action}
    {D : World σ → Job → Attempt × NetworkSettings → Prop}
    (hhalt : ∀ w' events h, w'.store = w.store → w'.log = events ++ w.log →
      ReachHalts s events h → H w' job h)
    (hdone : ∀ w' events a settings, w'.store = w.store → w'.log = events ++ w.log →
      Approach events → Reached s kind action job a settings → D w' job (a, settings)) :
    (reach kind action).Meets s r w job D H := by
  unfold reach
  simp only [meets_bind, meets_held, meets_pure]
  -- profile, settings, client and network, one behind the other
  refine meets_approach rfl rfl rfl .nil hhalt ?_
  intro w₁ e₁ events₁ profile hstore₁ hlog₁ ho₁ h₁
  refine meets_approach rfl hstore₁ hlog₁ ho₁ hhalt ?_
  intro w₂ e₂ events₂ settings hstore₂ hlog₂ ho₂ h₂
  refine meets_approach rfl hstore₂ hlog₂ ho₂ hhalt ?_
  intro w₃ e₃ events₃ client hstore₃ hlog₃ ho₃ h₃
  refine meets_approach rfl hstore₃ hlog₃ ho₃ hhalt ?_
  intro w₄ e₄ events₄ networkId hstore₄ hlog₄ ho₄ h₄
  exact hdone w₄ events₄ _ settings hstore₄ hlog₄ ho₄ (.intro h₁ h₂ h₃ h₄)

/-! ## The submission -/

/-- What a submission was worked out to be, and what the client answered. -/
structure Terms where
  amount : Wei
  slippage : Option Decimal
  plan : GasPlan
  submission : Submission

/-- The requests of a submission: the dry run, and then the real one. -/
def requests (a : Attempt) (t : Terms) : List (Network × SubmitRequest) :=
  [(a.client, a.dryRun t.amount t.slippage), (a.client, a.real t.amount t.slippage t.plan)]

/-- The amount that an action spends has been worked out. -/
inductive Budgeted (s : Services σ) (a : Attempt) (address : String) : Wei → Prop
  | spent {spend : Spend} {balance : Balance} {amount : Wei} {e : List Event}
    (hspend : a.action.spend? = some spend)
    (h : Heard s (.balance a.client address a.action.fromToken) balance e)
    (hamount : Amount.resolve spend balance.wei = .ok amount) : Budgeted s a address amount
  | free (hspend : a.action.spend? = none) : Budgeted s a address .zero

/-- A submission has been made on terms that the services have agreed to. -/
inductive Agreed (s : Services σ) (a : Attempt) (settings : NetworkSettings) : Terms → Prop
  | intro {address : String} {estimated : Submission} {t : Terms} {e₁ e₃ e₄ : List Event}
    (h₁ : Heard s (.walletAddress a.client) address e₁)
    (h₂ : Budgeted s a address t.amount)
    (hslippage : a.slippage settings = .ok t.slippage)
    (h₃ : Heard s (.submit a.client (a.dryRun t.amount t.slippage)) estimated e₃)
    (hplan : Gas.plan (Gas.estimate estimated.cost a.action.source) settings
      a.action.destination = .ok t.plan)
    (h₄ : Heard s (.submit a.client (a.real t.amount t.slippage t.plan)) t.submission e₄) :
    Agreed s a settings t

/-- Events that tell of these requests, and of no poll and no charge. -/
structure Tells (requests : List (Network × SubmitRequest)) (events : List Event) : Prop where
  request : traceOf Event.request? events = requests
  poll : traceOf Event.poll? events = []
  charge : traceOf Event.charge? events = []

theorem Tells.of_silent {events : List Event} (h : Silent events) : Tells [] events :=
  ⟨h.request, h.poll, h.charge⟩

/-- A dry run is not counted as a submission. -/
theorem Tells.submissionsIn_eq {requests : List (Network × SubmitRequest)} {events : List Event}
    (h : Tells requests events) :
    submissionsIn events = requests.countP fun r => !r.2.estimateOnly := by
  rw [submissionsIn, h.request]

theorem Tells.heard {requests : List (Network × SubmitRequest)} {c : Call} {a : c.Answer}
    {newer older : List Event} (h : Tells requests older) (hx : Heard s c a newer)
    (hc : c.isPoll = false) : Tells (requests ++ c.request?.toList) (newer ++ older) := by
  refine ⟨?_, ?_, ?_⟩
  · rw [traceOf_append, h.request, hx.request]
  · rw [traceOf_append, h.poll, hx.exchange.poll hc, List.append_nil]
  · rw [traceOf_append, h.charge, hx.exchange.charge, List.append_nil]

/-- A submission halts the program; it may have been made. -/
structure SubmissionHalts (events : List Event) (h : Halt) : Prop where
  isRetryable : h.isRetryable = false
  poll : traceOf Event.poll? events = []
  submissionsIn_le : submissionsIn events ≤ 1

theorem SubmissionHalts.of_tells {requests : List (Network × SubmitRequest)}
    {events : List Event} {h : Halt} (ht : Tells requests events)
    (hle : (requests.countP fun r => !r.2.estimateOnly) ≤ 1) (hretry : h.isRetryable = false) :
    SubmissionHalts events h :=
  ⟨hretry, ht.poll, by rw [ht.submissionsIn_eq]; exact hle⟩

/-- A call of a submission halts the program. -/
theorem SubmissionHalts.of_call {requests : List (Network × SubmitRequest)} {c : Call}
    {newer older : List Event} {h : Halt} (hx : CallHalts s c newer h) (hc : c.isPoll = false)
    (ht : Tells requests older) (hnone : (requests.countP fun r => !r.2.estimateOnly) = 0) :
    SubmissionHalts (newer ++ older) h := by
  obtain ⟨v, hv⟩ := hx.exchange
  refine ⟨hx.isRetryable, ?_, ?_⟩
  · rw [traceOf_append, ht.poll, hv.poll hc, List.append_nil]
  · have hle := hv.submissionsIn_le
    rw [submissionsIn_append, ht.submissionsIn_eq, hnone]
    split at hle <;> omega

/-- An amount can only be missed over figures. -/
theorem isOfFigures_of_resolve {spend : Spend} {balance : Wei} {e : TaskError}
    (h : Amount.resolve spend balance = .error e) : e.isOfFigures = true := by
  have hunchecked : ∀ e, Amount.unchecked balance spend = .error e → e.isOfFigures = true := by
    intro e he
    cases spend with
    | absolute amount =>
      simp only [Amount.unchecked] at he
      split at he
      · cases he
        rfl
      · cases he
    | percent share =>
      simp only [Amount.unchecked] at he
      cases hp : Amount.percentOf share balance with
      | ok amount =>
        rw [hp] at he
        cases he
      | error fault =>
        rw [hp] at he
        cases he
        rfl
  unfold Amount.resolve at h
  cases hu : Amount.unchecked balance spend with
  | error e' =>
    rw [hu] at h
    cases h
    exact hunchecked _ hu
  | ok amount =>
    rw [hu] at h
    simp only [bind, Except.bind] at h
    split at h
    · cases h
      rfl
    · cases h

/-- A slippage can only be missed over figures. -/
theorem isOfFigures_of_slippage {a : Attempt} {settings : NetworkSettings} {e : TaskError}
    (h : a.slippage settings = .error e) : e.isOfFigures = true := by
  unfold slippage Slippage.tolerance at h
  split at h
  · cases ht : Slippage.tolerance? settings.source a.kind with
    | some d =>
      rw [ht] at h
      cases h
    | none =>
      rw [ht] at h
      cases h
      rfl
  · cases h

/-- A plan of the gas can only be missed over figures. -/
theorem isOfFigures_of_plan {estimate : Estimate} {settings : NetworkSettings}
    {destination : Network} {e : TaskError}
    (h : Gas.plan estimate settings destination = .error (.error e)) : e.isOfFigures = true := by
  -- the multiplier, the price, the limit and the cap can be off
  unfold Gas.plan at h
  simp only [bind, Except.bind] at h
  split at h
  · cases h
    rfl
  split at h
  · cases h
    rfl
  split at h
  · rename_i fault hlimit
    cases h
    unfold Gas.scaledLimit at hlimit
    split at hlimit
    · cases hlimit
    · dsimp only at hlimit
      split at hlimit
      · cases hlimit
      · cases hlimit
        rfl
  · unfold Gas.withinCap at h
    split at h
    · cases h
    · split at h
      · cases h
        rfl
      · cases h

/-- One more call of a submission, seen from where the submission started. -/
theorem meets_submission_call {c : Call} {w₀ : World σ}
    {requests : List (Network × SubmitRequest)} {older : List Event}
    {D : World σ → Job → c.Answer → Prop} (hc : c.isPoll = false)
    (hnone : (requests.countP fun r => !r.2.estimateOnly) = 0) (hstore₀ : w.store = w₀.store)
    (hlog₀ : w.log = older ++ w₀.log) (ht : Tells requests older)
    (hhalt : ∀ w' events h, w'.store = w₀.store → w'.log = events ++ w₀.log →
      SubmissionHalts events h → H w' job h)
    (hdone : ∀ w' e events a, w'.store = w₀.store → w'.log = events ++ w₀.log →
      Tells (requests ++ c.request?.toList) events → Heard s c a e → D w' job a) :
    (call c).Meets s r w job D H := by
  refine meets_call ?_ ?_
  · intro w' e h hstore hlog hx
    exact hhalt w' (e ++ older) h (hstore.trans hstore₀) (World.log_append hlog₀ hlog)
      (.of_call hx hc ht hnone)
  · intro w' e a hstore hlog hx
    exact hdone w' e (e ++ older) a (hstore.trans hstore₀) (World.log_append hlog₀ hlog)
      (ht.heard hx hc) hx

/-- An amount needs at most one call, for the balance. -/
theorem meets_amount {a : Attempt} {address : String} {D : World σ → Job → Wei → Prop}
    (hhalt : ∀ w' events h, w'.store = w.store → w'.log = events ++ w.log → Silent events →
      h.isRetryable = false → H w' job h)
    (hdone : ∀ w' events amount, w'.store = w.store → w'.log = events ++ w.log → Silent events →
      Budgeted s a address amount → D w' job amount) :
    (a.amount address).Meets s r w job D H := by
  unfold amount
  split
  · rename_i spend hspend
    simp only [meets_bind, meets_ofExcept]
    refine meets_call ?_ ?_
    · intro w' e h hstore hlog hx
      obtain ⟨v, hv⟩ := hx.exchange
      exact hhalt w' e h hstore hlog (.of_exchange hv rfl rfl) hx.isRetryable
    intro w₁ e balance hstore hlog hx
    have hsilent := Silent.of_exchange hx.exchange rfl rfl
    split
    · rename_i amount hamount
      exact hdone w₁ e amount hstore hlog hsilent (.spent hspend hx hamount)
    · rename_i c hc
      exact hhalt w₁ e _ hstore hlog hsilent
        (TaskError.isRetryable_of_isOfFigures (isOfFigures_of_resolve hc))
  · rename_i hspend
    exact hdone w [] .zero rfl rfl .nil (.free hspend)

/-- A submission halts before it is made, while it is made or over its answer, or comes to terms
that the services agree with. -/
theorem meets_broadcast {a : Attempt} {settings : NetworkSettings}
    {D : World σ → Job → GasPlan × Submission → Prop}
    (hhalt : ∀ w' events h, w'.store = w.store → w'.log = events ++ w.log →
      SubmissionHalts events h → H w' job h)
    (hdone : ∀ w' events t, w'.store = w.store → w'.log = events ++ w.log →
      Tells (a.requests t) events → Agreed s a settings t → t.submission.txId.isEmpty = false →
      D w' job (t.plan, t.submission)) :
    (a.broadcast settings).Meets s r w job D H := by
  unfold broadcast
  simp only [meets_bind]
  refine meets_submission_call rfl rfl rfl rfl (.of_silent .nil) hhalt ?_
  intro w₁ e₁ events₁ address hstore₁ hlog₁ ht₁ h₁
  have hs₁ : Silent events₁ := ⟨ht₁.request, ht₁.poll, ht₁.charge⟩
  refine meets_amount ?_ ?_
  · intro w' e h hstore hlog hsilent hretry
    exact hhalt w' (e ++ events₁) h (hstore.trans hstore₁) (World.log_append hlog₁ hlog)
      (.of_tells (.of_silent (hsilent.append hs₁)) (Nat.zero_le 1) hretry)
  intro w₂ e₂ amount hstore hlog hs₂ h₂
  have hstore₂ := hstore.trans hstore₁
  have hlog₂ := World.log_append hlog₁ hlog
  have ht₂ := Tells.of_silent (hs₂.append hs₁)
  simp only [meets_ofExcept]
  cases hslip : a.slippage settings with
  | error c =>
    exact hhalt w₂ _ _ hstore₂ hlog₂
      (.of_tells ht₂ (Nat.zero_le 1)
        (TaskError.isRetryable_of_isOfFigures (isOfFigures_of_slippage hslip)))
  | ok slippage =>
    -- the dry run
    refine meets_submission_call rfl rfl hstore₂ hlog₂ ht₂ hhalt ?_
    intro w₃ e₃ events₃ estimated hstore₃ hlog₃ ht₃ h₃
    simp only [meets_ofFault]
    split
    · rename_i plan hplan
      -- the real submission; nothing has been submitted before it but the dry run
      refine meets_submission_call rfl rfl hstore₃ hlog₃ ht₃ hhalt ?_
      intro w₄ e₄ events₄ submission hstore₄ hlog₄ ht₄ h₄
      split
      · exact hhalt w₄ _ _ hstore₄ hlog₄ (.of_tells ht₄ (Nat.le_refl 1) rfl)
      · rename_i hid
        exact hdone w₄ _ ⟨amount, slippage, plan, submission⟩ hstore₄ hlog₄ ht₄
          (.intro h₁ h₂ hslip h₃ hplan h₄) (by simpa using hid)
    · rename_i c hplan
      exact hhalt w₃ _ _ hstore₃ hlog₃
        (.of_tells ht₃ (Nat.zero_le 1)
          (TaskError.isRetryable_of_isOfFigures (isOfFigures_of_plan hplan)))
    · exact hhalt w₃ _ _ hstore₃ hlog₃ (.of_tells ht₃ (Nat.zero_le 1) rfl)

/-! ## The audit list -/

theorem meets_auditing (hs : s.StoreSucceeds) {a : Attempt} {txId : String}
    {role : TransactionRole} {gas : Option GasPlan} {D : World σ → Job → Unit → Prop}
    (hdrop : ∀ w' t, w'.store = w.store.audit (a.entry job txId role gas t) → w'.log = w.log →
      H w' job .dropped)
    (hdone : ∀ w' t, w'.store = w.store.audit (a.entry job txId role gas t) → w'.log = w.log →
      D w' job ()) :
    (a.audit txId role gas).Meets s r w job D H := by
  unfold audit
  simp only [meets_bind, meets_held]
  refine meets_clock ?_
  intro w₁ t hstore₁ hlog₁
  refine meets_audit hs ?_ ?_
  · intro w' hstore hlog
    exact hdrop w' t (by rw [hstore, hstore₁]) (by rw [hlog, hlog₁])
  · intro w' hstore hlog
    exact hdone w' t (by rw [hstore, hstore₁]) (by rw [hlog, hlog₁])

/-! ## The wait -/

/-- The answer to a poll leaves a transaction undecided: it is pending, or there is no answer. -/
def IsUndecided : Poll → Prop
  | .ok .pending | .error _ => True
  | _ => False

/-- Events that say nothing but what polls were answered. -/
structure Polling (events : List Event) (polls : List Poll) :
    Prop where
  request : traceOf Event.request? events = []
  poll : traceOf Event.poll? events = polls
  charge : traceOf Event.charge? events = []
  setback : traceOf Event.setback? events = []

theorem Polling.append {newer older : List Event}
    {polls polls' : List Poll} (h : Polling older polls)
    (h' : Polling newer polls') : Polling (newer ++ older) (polls ++ polls') := by
  constructor
  · rw [traceOf_append, h.request, h'.request, List.append_nil]
  · rw [traceOf_append, h.poll, h'.poll]
  · rw [traceOf_append, h.charge, h'.charge, List.append_nil]
  · rw [traceOf_append, h.setback, h'.setback, List.append_nil]

theorem waitInterrupted_eq {e : TaskError} (h : e.IsInterruption) :
    waitInterrupted e = .transactionNotReady := by
  obtain rfl | ⟨timeout, rfl⟩ := h <;> rfl

theorem Polling.of_interruption {client : Network} {txId : String} {e : TaskError}
    (h : e.IsInterruption) : Polling [.answered (.poll client txId) (.error e)] [] := by
  obtain rfl | ⟨timeout, rfl⟩ := h <;> exact ⟨rfl, rfl, rfl, rfl⟩

/-- How the wait for the decision on a transaction halts: the transaction failed, there is no
decision yet, or the client crashed. -/
inductive WaitHalts (s : Services σ) (a : Attempt) (txId : String) (events : List Event) :
    Halt → Prop
  | failed (undecided : List Poll) {reason : String} {x : σ}
    (hpolls : Polling events (undecided ++ [.ok (.failed reason)]))
    (hall : ∀ p ∈ undecided, IsUndecided p)
    (hx : (s.respond (.poll a.client txId) x).2.reply = .value (.failed reason)) :
    WaitHalts s a txId events (.failed (.transactionFailed txId reason))
  | pending (undecided : List Poll)
    (hpolls : Polling events undecided) (hall : ∀ p ∈ undecided, IsUndecided p) :
    WaitHalts s a txId events (.failed .transactionNotReady)
  | crashed (undecided : List Poll) {message : String} {x : σ}
    (hpolls : Polling events undecided) (hall : ∀ p ∈ undecided, IsUndecided p)
    (hx : (s.respond (.poll a.client txId) x).2.reply = .crash message) :
    WaitHalts s a txId events (.crashed message)

/-- What halts a wait behind an undecided poll halts it with that poll. -/
theorem WaitHalts.append {a : Attempt} {txId : String} {newer older : List Event} {h : Halt}
    {p : Poll} (ho : Polling older [p]) (hp : IsUndecided p)
    (hw : WaitHalts s a txId newer h) : WaitHalts s a txId (newer ++ older) h := by
  cases hw with
  | failed undecided hpolls hall hx =>
    exact .failed (p :: undecided) (ho.append hpolls) (List.forall_mem_cons.2 ⟨hp, hall⟩) hx
  | pending undecided hpolls hall =>
    exact .pending (p :: undecided) (ho.append hpolls) (List.forall_mem_cons.2 ⟨hp, hall⟩)
  | crashed undecided hpolls hall hx =>
    exact .crashed (p :: undecided) (ho.append hpolls) (List.forall_mem_cons.2 ⟨hp, hall⟩) hx

theorem WaitHalts.polling {a : Attempt} {txId : String} {events : List Event} {h : Halt}
    (hw : WaitHalts s a txId events h) : ∃ polls, Polling events polls := by
  cases hw with
  | failed undecided hpolls => exact ⟨_, hpolls⟩
  | pending undecided hpolls => exact ⟨_, hpolls⟩
  | crashed undecided hpolls => exact ⟨_, hpolls⟩

/-- Polls submit nothing. -/
theorem Polling.submissionsIn_eq {events older : List Event}
    {polls : List Poll} (h : Polling events polls) :
    submissionsIn (events ++ older) = submissionsIn older := by
  apply submissionsIn_congr
  rw [traceOf_append, h.request, List.append_nil]

/-- **The wait for a decision**: the polls that were answered decide nothing, up to the last one if
there is a decision. -/
theorem meets_awaitDecision {a : Attempt} {txId : String} {interval : Nat} (polls : Nat)
    {D : World σ → Job → Unit → Prop}
    (hhalt : ∀ w' events h, w'.store = w.store → w'.log = events ++ w.log →
      WaitHalts s a txId events h → H w' job h)
    (hdone : ∀ w' events undecided, w'.store = w.store → w'.log = events ++ w.log →
      Polling events (undecided ++ [.ok .confirmed]) → (∀ p ∈ undecided, IsUndecided p) →
      D w' job ()) :
    (a.awaitDecision txId interval polls).Meets s r w job D H := by
  induction polls generalizing w with
  | zero => exact hhalt w [] _ rfl rfl (.pending [] ⟨rfl, rfl, rfl, rfl⟩ (by simp))
  | succ polls ih =>
    -- a poll that decides nothing leads through a rest to the polls that are left
    have hagain : ∀ w₁ events p, w₁.store = w.store → w₁.log = events ++ w.log →
        Polling events [p] → IsUndecided p →
        (do
          let slept ← ask (.sleep interval)
          ofExcept (slept.mapError waitInterrupted)
          a.awaitDecision txId interval polls : Routine Unit).Meets s r w₁ job D H := by
      intro w₁ events p hstore₁ hlog₁ hpolls hp
      simp only [meets_bind, meets_ofExcept]
      refine meets_ask_sleep ?_
      rintro w₂ slept hstore₂ hlog₂ (rfl | ⟨e, he, rfl⟩)
      · refine ih ?_ ?_
        · intro w' newer h hstore hlog hw
          exact hhalt w' (newer ++ events) h (by rw [hstore, hstore₂, hstore₁])
            (World.log_append hlog₁ (by rw [hlog, hlog₂])) (hw.append hpolls hp)
        · intro w' newer undecided hstore hlog hw hall
          exact hdone w' (newer ++ events) (p :: undecided) (by rw [hstore, hstore₂, hstore₁])
            (World.log_append hlog₁ (by rw [hlog, hlog₂])) (hpolls.append hw)
            (List.forall_mem_cons.2 ⟨hp, hall⟩)
      · rw [show Except.mapError waitInterrupted (.error e : Except TaskError Unit) =
          .error .transactionNotReady from congrArg _ (waitInterrupted_eq he)]
        exact hhalt w₂ events _ (by rw [hstore₂, hstore₁]) (by rw [hlog₂, hlog₁])
          (.pending [p] hpolls (List.forall_mem_singleton.2 hp))
    -- an interruption is told apart from a failure of the chain only once its cause is known
    have hinterrupted : ∀ w₁ events e, e.IsInterruption → w₁.store = w.store →
        w₁.log = events ++ w.log → Polling events [] →
        H w₁ job (.failed (waitInterrupted e)) := by
      intro w₁ events e he hstore hlog hpolls
      rw [waitInterrupted_eq he]
      exact hhalt w₁ events _ hstore hlog (.pending [] hpolls (by simp))
    unfold awaitDecision
    simp only [meets_bind]
    refine meets_ask_call ?_
    intro w₁ events v hstore hlog hx
    cases hx with
    | missed he =>
      have := hinterrupted w₁ _ _ he hstore hlog (.of_interruption he)
      obtain rfl | ⟨timeout, rfl⟩ := he <;> exact this
    | cut he time x =>
      have := hinterrupted w₁ _ _ he hstore hlog
        (Polling.append ⟨rfl, rfl, rfl, rfl⟩ (.of_interruption he))
      obtain rfl | ⟨timeout, rfl⟩ := he <;> exact this
    | @heard time x state ha =>
      cases state with
      | pending => exact hagain w₁ _ (.ok .pending) hstore hlog ⟨rfl, rfl, rfl, rfl⟩ trivial
      | confirmed => exact hdone w₁ _ [] hstore hlog ⟨rfl, rfl, rfl, rfl⟩ (by simp)
      | failed reason =>
        exact hhalt w₁ _ _ hstore hlog (.failed [] ⟨rfl, rfl, rfl, rfl⟩ (by simp) ha)
    | @refused time x e he =>
      exact hagain w₁ _ (.error e) hstore hlog ⟨rfl, rfl, rfl, rfl⟩ trivial
    | crashed time x hm =>
      exact hhalt w₁ _ _ hstore hlog (.crashed [] ⟨rfl, rfl, rfl, rfl⟩ (by simp) hm)

end Executor.Attempt

/-! ## The executor -/

/-- The job set to running. -/
def Job.running (job : Job) : Job := { job with status := .running }

theorem Job.running_eq_self {job : Job} (h : job.status = .running) : job.running = job := by
  cases job
  cases h
  rfl

namespace Executor

open Routine

/-- A task with an action on a chain runs through such a life. -/
theorem standard_of_chain {task : Task} {action : Action} {footprint : Option Footprint}
    (h : task.payload = .chain action footprint) : standard task.kind = lifecycle task.kind := by
  have hshape : action.shape = task.kind.shape := by
    rw [← task.shape_payload, h]
    rfl
  unfold standard
  rw [← hshape]
  cases action <;> rfl

/-- **The executor of chain actions**: the job is stored as running, the network is reached, and the
rest is a matter of whether there is a footprint. -/
theorem meets_lifecycle {s : Services σ} {r : Session} {w : World σ} {job stored : Job}
    {action : Action} {footprint : Option Footprint} {info : RunInfo}
    {D : World σ → Job → Unit → Prop} {H : World σ → Job → Halt → Prop} (hs : s.StoreSucceeds)
    (hj : w.store.get? job.id = some stored) (hterm : job.status.isTerminal = false)
    (hpayload : job.task.payload = .chain action footprint)
    (hcut : ∀ w' held h, World.Storing s r.user.login stored job.running w w' held →
      h.IsOfStoring (s.billing.chargeOwed stored.status .running job.task.kind) → H w' held h)
    (hhalt : ∀ w₁ w' t₁ t₂ events h, World.Stores s r.user.login stored job.running t₁ t₂ w w₁ →
      w'.store = w₁.store → w'.log = events ++ w₁.log → Attempt.ReachHalts s events h →
      H w' (job.running.stamped t₂) h)
    (hrest : ∀ w₁ w' t₁ t₂ events a settings,
      World.Stores s r.user.login stored job.running t₁ t₂ w w₁ → w'.store = w₁.store →
      w'.log = events ++ w₁.log → Attempt.Approach events →
      Attempt.Reached s job.task.kind action (job.running.stamped t₂) a settings →
      (if footprint.isNone then do
          a.submit settings
          a.wait info.pollInterval
          settle
        else do
          a.wait info.pollInterval
          settle : Routine Unit).Meets s r w' (job.running.stamped t₂) D H) :
    ((lifecycle job.task.kind).run info).Meets s r w job D H := by
  have hpay : job.task.payloadAs job.task.kind.shape = .ok (.chain action footprint) := by
    rw [job.task.payloadAs_shape, hpayload]
  simp only [lifecycle, meets_bind, meets_held, hterm, Bool.false_eq_true, if_false,
    meets_ofExcept, hpay, meets_setStatus]
  refine meets_persist hs hj hcut ?_
  intro w₁ t₁ t₂ hst
  refine Attempt.meets_reach ?_ ?_
  · intro w' events h hstore hlog hx
    exact hhalt w₁ w' t₁ t₂ events h hst hstore hlog hx
  · intro w' events a settings hstore hlog ho hreached
    exact hrest w₁ w' t₁ t₂ events a settings hst hstore hlog ho hreached

end Executor

end WalletTasks
