import WalletTasks.Job
import WalletTasks.Wire.Task

/-!
# Stored form of jobs and what belongs to them
-/

namespace WalletTasks.Wire

open Json

def job (j : Job) : Json :=
  .object [("id", identifier j.id), ("process_id", identifier j.processId),
    ("profile_id", identifier j.profileId), ("user_id", .string j.userId), ("task", task j.task),
    ("status", labelled j.status), ("error", .option .string j.error),
    ("description", .string j.description), ("created_at", instant j.createdAt),
    ("updated_at", instant j.updatedAt)]

def jobDecoder : Decoder Job :=
  (Job.mk <$> Fields.required "id" identifierDecoder
    <*> Fields.required "process_id" identifierDecoder
    <*> Fields.required "profile_id" identifierDecoder
    <*> Fields.required "user_id" Decoder.string
    <*> Fields.required "task" taskDecoder
    <*> Fields.required "status" (choice Status)
    <*> Fields.withDefault "error" (Decoder.option Decoder.string) none
    <*> Fields.withDefault "description" Decoder.string ""
    <*> Fields.required "created_at" instantDecoder
    <*> Fields.required "updated_at" instantDecoder).decoder

def auditEntry (e : AuditEntry) : Json :=
  .object [("task_id", identifier e.jobId), ("process_id", identifier e.processId),
    ("profile_id", identifier e.profileId), ("network", labelled e.network),
    ("network_id", uint64 e.networkId), ("tx_id", .string e.txId), ("role", labelled e.role),
    ("gas", .option gasPlan e.gas), ("recorded_at", instant e.recordedAt)]

def auditEntryDecoder : Decoder AuditEntry :=
  (AuditEntry.mk <$> Fields.required "task_id" identifierDecoder
    <*> Fields.required "process_id" identifierDecoder
    <*> Fields.required "profile_id" identifierDecoder
    <*> Fields.required "network" (choice Network)
    <*> Fields.required "network_id" Decoder.uint64
    <*> Fields.required "tx_id" Decoder.string
    <*> Fields.required "role" (choice TransactionRole)
    <*> Fields.nullable "gas" gasPlanDecoder
    <*> Fields.required "recorded_at" instantDecoder).decoder

def account (a : Account) : Json :=
  .object [("id", .string a.id), ("login", .string a.login)]

def accountDecoder : Decoder Account :=
  (Account.mk <$> Fields.required "id" Decoder.string
    <*> Fields.required "login" Decoder.string).decoder

def charge (c : Charge) : Json :=
  .object [("task_id", identifier c.jobId), ("process_id", identifier c.processId),
    ("profile_id", identifier c.profileId), ("user_id", .string c.userId),
    ("login", .string c.login), ("kind", labelled c.kind), ("status", labelled c.status)]

def chargeDecoder : Decoder Charge :=
  (Charge.mk <$> Fields.required "task_id" identifierDecoder
    <*> Fields.required "process_id" identifierDecoder
    <*> Fields.required "profile_id" identifierDecoder
    <*> Fields.required "user_id" Decoder.string
    <*> Fields.required "login" Decoder.string
    <*> Fields.required "kind" (choice Kind)
    <*> Fields.required "status" (choice Status)).decoder

def networkSettings (s : NetworkSettings) : Json :=
  .object [("network", labelled s.network), ("source", labelled s.source),
    ("rpc_endpoint", .string s.rpcEndpoint), ("gas_multiplier", .option decimal s.gasMultiplier),
    ("max_fee_wei", .option wei s.maxFee)]

def networkSettingsDecoder : Decoder NetworkSettings :=
  (NetworkSettings.mk <$> Fields.required "network" (choice Network)
    <*> Fields.required "source" (choice SettingsSource)
    <*> Fields.required "rpc_endpoint" Decoder.string
    <*> Fields.withDefault "gas_multiplier" (Decoder.option decimalDecoder) none
    <*> Fields.withDefault "max_fee_wei" optionalWeiDecoder none).decoder

end WalletTasks.Wire
