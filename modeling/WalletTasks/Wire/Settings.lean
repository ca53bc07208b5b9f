import WalletTasks.Json.Decode
import WalletTasks.Settings.Basic
import WalletTasks.Wire.Scalar

/-!
# Stored form of settings

Every field may be missing, and every missing field has its default.
-/

namespace WalletTasks.Wire

open Json

def runSettings (s : RunSettings) : Json :=
  .object [("env", .string s.env), ("task_timeout_secs", uint64 s.taskTimeoutSecs),
    ("starknet_task_timeout_secs", uint64 s.starkNetTimeoutSecs),
    ("tx_poll_interval_ms", uint64 s.pollIntervalMs)]

def runSettingsDecoder : Decoder RunSettings :=
  let usual := Settings.standard.run
  (RunSettings.mk <$> Fields.withDefault "env" Decoder.string usual.env
    <*> Fields.withDefault "task_timeout_secs" Decoder.uint64 usual.taskTimeoutSecs
    <*> Fields.withDefault "starknet_task_timeout_secs" Decoder.uint64 usual.starkNetTimeoutSecs
    <*> Fields.withDefault "tx_poll_interval_ms" Decoder.uint64 usual.pollIntervalMs).decoder

def logSettings (s : LogSettings) : Json :=
  .object [("filter", .string s.filter), ("format", .string s.format)]

def logSettingsDecoder : Decoder LogSettings :=
  let usual := Settings.standard.log
  (LogSettings.mk <$> Fields.withDefault "filter" Decoder.string usual.filter
    <*> Fields.withDefault "format" Decoder.string usual.format).decoder

def settings (s : Settings) : Json :=
  .object [("runtime", runSettings s.run), ("logging", logSettings s.log)]

def settingsDecoder : Decoder Settings :=
  let usual := Settings.standard
  (Settings.mk <$> Fields.withDefault "runtime" runSettingsDecoder usual.run
    <*> Fields.withDefault "logging" logSettingsDecoder usual.log).decoder

end WalletTasks.Wire
