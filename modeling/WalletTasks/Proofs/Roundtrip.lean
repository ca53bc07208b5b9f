import WalletTasks.Proofs.Calendar
import WalletTasks.Proofs.Restoring
import WalletTasks.Wire.Job

/-!
# What is stored is restored

Tasks, jobs, the settings of a network, the entries of the audit list and charges are written as
text and read back as they were, with the scale of every decimal. There is one lemma for each
record, along its fields; a field that a writer and a reader name differently would have none.

What holds instants is restored if these are read back from their texts, as all are but those inside
a leap second that does not end a minute (`Instant.legible_iff`).

* `Wire.restores_…`: one lemma for each record.
* `stored_restored`: all of them, from text to text.
-/

namespace WalletTasks

/-! ## The instants that a value holds -/

namespace Payload

/-- The instants in a payload: when its wait ends, or when it was submitted. -/
def instants : Payload → List Instant
  | .delay d => d.waitUntil.toList
  | .mock | .vote _ => []
  | .chain _ footprint => (footprint.map (·.submittedAt)).toList

end Payload

/-- The instants in a job. -/
def Job.instants (job : Job) : List Instant :=
  job.createdAt :: job.updatedAt :: job.task.payload.instants

namespace Wire

open Json

/-! ## Fees, footprints and parameters -/

theorem restores_gasPlan (p : GasPlan) : Restores gasPlanDecoder (gasPlan p) p :=
  (((Fields.Restores.field (restores_uint64 p.gasLimit)).map GasPlan.mk).seq
    (.field (restores_wei p.gasPrice))).decoder (by simp)

theorem restores_optionalGasPlan (p : Option GasPlan) :
    Restores (Decoder.option gasPlanDecoder) (.option gasPlan p) p :=
  .option nofun fun p _ => restores_gasPlan p

theorem restores_optionalString (s : Option String) :
    Restores (Decoder.option Decoder.string) (.option .string s) s :=
  .option nofun fun s _ => .string s

theorem restores_optionalInstant {t : Option Instant} (h : ∀ u ∈ t.toList, u.Legible) :
    Restores (Decoder.option instantDecoder) (.option instant t) t :=
  .option (by simp [instant]) fun u hu => restores_instant (h u (by simp [hu]))

/-- A transaction on record is restored if its instant is legible. -/
theorem restores_footprint {f : Footprint} (h : f.submittedAt.Legible) :
    Restores footprintDecoder (footprint f) f :=
  (((((((Fields.Restores.field (.string f.txId)).map Footprint.mk).seq
    (.field (restores_optionalString f.approveTxId))).seq
    (.field (restores_optionalGasPlan f.gas))).seq
    (.field (.bool f.completed))).seq
    (.field (restores_instant h)))).decoder (by simp)

theorem restores_spend (a : Spend) : Restores spendDecoder (spend a) a := by
  cases a with
  | absolute w => exact .variants rfl ((restores_wei w).map Spend.absolute)
  | percent d => exact .variants rfl ((restores_decimal d).map Spend.percent)

theorem restores_delayRange (r : DelayRange) : Restores delayRangeDecoder (delayRange r) r :=
  (((Fields.Restores.field (restores_uint64 r.least)).map DelayRange.mk).seq
    (.field (restores_uint64 r.most))).decoder (by simp)

theorem restores_delay {d : Delay} (h : ∀ t ∈ d.waitUntil.toList, t.Legible) :
    Restores delayDecoder (delay d) d := by
  have hrange : Restores (Decoder.option delayRangeDecoder) (.option delayRange d.range) d.range :=
    .option nofun fun r _ => restores_delayRange r
  exact ((((Fields.Restores.field (restores_uint64 d.seconds)).map Delay.mk).seq
    (.field hrange)).seq (.field (restores_optionalInstant h))).decoder (by simp)

theorem restores_network (n : Network) : Restores (choice Network) (labelled n) n :=
  .choice n.ofLabel?_label

theorem restores_token (t : Token) : Restores (choice Token) (labelled t) t :=
  .choice t.ofLabel?_label

theorem restores_kind (k : Kind) : Restores (choice Kind) (labelled k) k :=
  .choice k.ofLabel?_label

theorem restores_status (t : Status) : Restores (choice Status) (labelled t) t :=
  .choice t.ofLabel?_label

theorem restores_role (r : TransactionRole) :
    Restores (choice TransactionRole) (labelled r) r :=
  .choice (by cases r <;> rfl)

theorem restores_source (s : SettingsSource) : Restores (choice SettingsSource) (labelled s) s :=
  .choice (by cases s <;> rfl)

theorem restores_vote (v : Vote) : Restores voteDecoder (vote v) v :=
  ((((((Fields.Restores.field (restores_network v.network)).map Vote.mk).seq
    (.field (.string v.space))).seq
    (.field (.string v.proposal))).seq
    (.field (restores_uint32 v.choice))).seq
    (.field (restores_optionalString v.receipt))).decoder (by simp)

/-- The fields of an action are read by the reader of its shape. -/
theorem restores_action (a : Action) :
    ∃ fields, actionFieldsOf a.shape = some fields ∧ fields.Restores (actionFields a) a := by
  cases a with
  | swap network fromToken toToken amount =>
    exact ⟨_, rfl, ((((Fields.Restores.field (restores_network network)).map Action.swap).seq
      (.field (restores_token fromToken))).seq
      (.field (restores_token toToken))).seq
      (.field (restores_spend amount))⟩
  | bridge fromNetwork toNetwork fromToken toToken amount =>
    exact ⟨_, rfl, (((((Fields.Restores.field (restores_network fromNetwork)).map Action.bridge).seq
      (.field (restores_network toNetwork))).seq
      (.field (restores_token fromToken))).seq
      (.field (restores_token toToken))).seq
      (.field (restores_spend amount))⟩
  | deposit network token amount address =>
    exact ⟨_, rfl, ((((Fields.Restores.field (restores_network network)).map Action.deposit).seq
      (.field (restores_token token))).seq
      (.field (restores_spend amount))).seq
      (.field (.string address))⟩
  | withdraw network exchange token amount =>
    exact ⟨_, rfl, ((((Fields.Restores.field (restores_network network)).map Action.withdraw).seq
      (.field (.string exchange))).seq
      (.field (restores_token token))).seq
      (.field (restores_wei amount))⟩
  | liquidity network tokenA tokenB add amount =>
    exact ⟨_, rfl, (((((Fields.Restores.field (restores_network network)).map Action.liquidity).seq
      (.field (restores_token tokenA))).seq
      (.field (restores_token tokenB))).seq
      (.field (.bool add))).seq
      (.field (restores_spend amount))⟩
  | nftBridge fromNetwork toNetwork =>
    exact ⟨_, rfl, ((Fields.Restores.field (restores_network fromNetwork)).map Action.nftBridge).seq
      (.field (restores_network toNetwork))⟩
  | deployAccount network =>
    exact ⟨_, rfl, (Fields.Restores.field (restores_network network)).map Action.deployAccount⟩

/-! ## Payloads, tasks and jobs -/

/-- The parameters of a task are restored, the transaction on record included. -/
theorem restores_params {p : Payload} (h : ∀ t ∈ p.instants, t.Legible) :
    Restores (paramsDecoder p.shape) (params p) p := by
  cases p with
  | delay d => exact (restores_delay h).map Payload.delay
  | mock => exact (Fields.Restores.pure Payload.mock).decoder (by simp)
  | vote v => exact (restores_vote v).map Payload.vote
  | chain action trace =>
    obtain ⟨fields, hfields, hrestores⟩ := restores_action action
    have htrace : Restores (Decoder.option footprintDecoder) (.option footprint trace) trace :=
      .option (by simp [footprint]) fun f hf =>
        restores_footprint (h f.submittedAt (by simp [Payload.instants, hf]))
    -- the transaction stands behind the fields of the action, which are different for each of the
    -- shapes
    have hdecoder : paramsDecoder action.shape =
        (Payload.chain <$> fields
          <*> Fields.withDefault "tx" (Decoder.option footprintDecoder) none).decoder := by
      unfold paramsDecoder
      rw [hfields]
      cases action <;> rfl
    show Restores (paramsDecoder action.shape) _ _
    rw [hdecoder]
    refine ((hrestores.map Payload.chain).seq (.field htrace)).decoder ?_
    cases action <;> simp [actionFields]

theorem restores_payload {p : Payload} (h : ∀ t ∈ p.instants, t.Legible) :
    Restores payloadDecoder (payload p) p :=
  .variants (by rw [p.shape.ofLabel?_label]; rfl) (restores_params h)

/-- A task is restored with its kind. -/
theorem restores_task {t : Task} (h : ∀ u ∈ t.payload.instants, u.Legible) :
    Restores taskDecoder (task t) t := by
  refine Restores.refine (a := (t.kind, t.payload)) ?_ ?_
  · exact (((Fields.Restores.field (restores_kind t.kind)).map Prod.mk).seq
      (.field (restores_payload h))).decoder (by simp)
  · rw [Task.pair_eq_ok_iff.2 ⟨rfl, rfl⟩]
    rfl

/-- A job is restored with all its fields. -/
theorem restores_job {j : Job} (h : ∀ t ∈ j.instants, t.Legible) :
    Restores jobDecoder (job j) j := by
  have htask : ∀ t ∈ j.task.payload.instants, t.Legible := fun t ht =>
    h t (List.mem_cons_of_mem _ (List.mem_cons_of_mem _ ht))
  exact (((((((((((Fields.Restores.field (restores_identifier j.id)).map Job.mk).seq
    (.field (restores_identifier j.processId))).seq
    (.field (restores_identifier j.profileId))).seq
    (.field (.string j.userId))).seq
    (.field (restores_task htask))).seq
    (.field (restores_status j.status))).seq
    (.field (restores_optionalString j.error))).seq
    (.field (.string j.description))).seq
    (.field (restores_instant (h j.createdAt (by simp [Job.instants]))))).seq
    (.field (restores_instant (h j.updatedAt (by simp [Job.instants]))))).decoder (by simp)

theorem restores_auditEntry {e : AuditEntry} (h : e.recordedAt.Legible) :
    Restores auditEntryDecoder (auditEntry e) e :=
  ((((((((((Fields.Restores.field (restores_identifier e.jobId)).map AuditEntry.mk).seq
    (.field (restores_identifier e.processId))).seq
    (.field (restores_identifier e.profileId))).seq
    (.field (restores_network e.network))).seq
    (.field (restores_uint64 e.networkId))).seq
    (.field (.string e.txId))).seq
    (.field (restores_role e.role))).seq
    (.field (restores_optionalGasPlan e.gas))).seq
    (.field (restores_instant h))).decoder (by simp)

theorem restores_charge (c : Charge) : Restores chargeDecoder (charge c) c :=
  ((((((((Fields.Restores.field (restores_identifier c.jobId)).map Charge.mk).seq
    (.field (restores_identifier c.processId))).seq
    (.field (restores_identifier c.profileId))).seq
    (.field (.string c.userId))).seq
    (.field (.string c.login))).seq
    (.field (restores_kind c.kind))).seq
    (.field (restores_status c.status))).decoder (by simp)

/-- An amount that may be null is read by a reader of its own. -/
theorem restores_optionalWei (w : Option Wei) :
    Restores optionalWeiDecoder (.option wei w) w := by
  cases w with
  | none => exact ⟨trivial, rfl⟩
  | some w =>
    refine (restores_optionalString (some w.text)).refine ?_
    show (weiOfString w.text).map some = _
    rw [weiOfString, readWei_text]
    rfl

theorem restores_networkSettings (s : NetworkSettings) :
    Restores networkSettingsDecoder (networkSettings s) s := by
  have hmultiplier : Restores (Decoder.option decimalDecoder) (.option decimal s.gasMultiplier)
      s.gasMultiplier :=
    .option (by simp [decimal]) fun d _ => restores_decimal d
  exact ((((((Fields.Restores.field (restores_network s.network)).map NetworkSettings.mk).seq
    (.field (restores_source s.source))).seq
    (.field (.string s.rpcEndpoint))).seq
    (.field hmultiplier)).seq
    (.field (restores_optionalWei s.maxFee))).decoder (by simp)

end Wire

/-! ## From text to text -/

namespace Json

variable {α : Type}

/-- A value is decoded from its compact text as it was, and what is decoded has the same text. -/
def RoundTrips (encode : α → Json) (d : Decoder α) (a : α) : Prop :=
  ∃ b, decodeText d (encode a).compact = .ok b ∧ b = a ∧ (encode b).compact = (encode a).compact

theorem Restores.roundTrips {encode : α → Json} {d : Decoder α} {a : α}
    (h : Restores d (encode a) a) : RoundTrips encode d a :=
  ⟨a, h.decodeText, rfl, rfl⟩

end Json

open Json

/-- **What is stored is restored.** Tasks of every kind, jobs, the settings of a network, entries of
the audit list and charges are decoded from their texts as they were, whatever strings, amounts and
decimals they hold, with the scales of these. Their instants have to be read back from their own
texts. -/
theorem stored_restored :
    (∀ t : Task, (∀ u ∈ t.payload.instants, u.Legible) → RoundTrips Wire.task Wire.taskDecoder t) ∧
    (∀ j : Job, (∀ t ∈ j.instants, t.Legible) → RoundTrips Wire.job Wire.jobDecoder j) ∧
    (∀ s : NetworkSettings, RoundTrips Wire.networkSettings Wire.networkSettingsDecoder s) ∧
    (∀ e : AuditEntry, e.recordedAt.Legible →
      RoundTrips Wire.auditEntry Wire.auditEntryDecoder e) ∧
    ∀ c : Charge, RoundTrips Wire.charge Wire.chargeDecoder c :=
  ⟨fun _ h => (Wire.restores_task h).roundTrips, fun _ h => (Wire.restores_job h).roundTrips,
    fun s => (Wire.restores_networkSettings s).roundTrips,
    fun _ h => (Wire.restores_auditEntry h).roundTrips,
    fun c => (Wire.restores_charge c).roundTrips⟩

/-- A swap that was submitted, with a scale that is kept and a name that is escaped. -/
theorem sample_stored_restored :
    let gas : GasPlan := ⟨21000, ⟨250000000, by decide⟩⟩
    let trace : Footprint := ⟨"0x1f", some "0x1e", some gas, true, .epoch⟩
    let task : Task := ⟨.syncSwap,
      .chain (.swap .zksyncEra .eth .usdc (.percent (.tenths 500))) (some trace), rfl⟩
    let job : Job := .create default default default "the \"owner\"\n" task .epoch
    let entry : AuditEntry :=
      ⟨default, default, default, .zksyncEra, 324, "0x1f", .primary, some gas, .epoch⟩
    RoundTrips Wire.task Wire.taskDecoder task ∧ RoundTrips Wire.job Wire.jobDecoder job ∧
      RoundTrips Wire.auditEntry Wire.auditEntryDecoder entry := by
  intro gas trace task job entry
  have hepoch : Instant.epoch.Legible := Instant.read?_text (.inl (by decide))
  obtain ⟨htask, hjob, -, hentry, -⟩ := stored_restored
  refine ⟨htask task ?_, hjob job ?_, hentry entry hepoch⟩
  · rintro _ (_ | ⟨_, ⟨⟩⟩)
    exact hepoch
  · rintro _ (_ | ⟨_, _ | ⟨_, _ | ⟨_, ⟨⟩⟩⟩⟩) <;> exact hepoch

end WalletTasks
