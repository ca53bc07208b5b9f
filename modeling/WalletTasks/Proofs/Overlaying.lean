import WalletTasks.Proofs.Restoring
import WalletTasks.Settings.Overlay
import WalletTasks.Settings.Stored

/-!
# Settings are laid over one another field by field

Settings are laid over one another as trees. The trees of all settings have the same fields, and
what comes out is the tree of settings again, so that it can always be read: each field is that of
the upper settings where it differs from the default, and that of the lower ones elsewhere. Of any
number of settings that are laid over one another, the last one that sets a field decides it.

* `Settings.overlay_eq`: laying over, field by field.
* `Settings.overlay_assoc`, `Settings.overlay_default`, `Settings.default_overlay`: laying over is
  associative, and the defaults change nothing on either side.
* `Settings.overlay_self`: settings count once.
* `Settings.overlays_decide`: any number of settings, one over the other.
-/

namespace WalletTasks

/-! ## One field -/

section

variable {α β : Type} [DecidableEq α] (usual a b c : α)

/-- The upper of two values, unless it is the default. -/
def pick (usual lower upper : α) : α := if upper = usual then lower else upper

/-- A layer that says what is usual decides nothing. -/
theorem pick_usual_right : pick usual a usual = a := by simp [pick]

theorem pick_usual_left : pick usual usual a = a := by
  unfold pick
  split
  · next h => exact h.symm
  · rfl

theorem pick_self : pick usual a a = a := by simp [pick]

/-- It does not matter in which order layers are merged. -/
theorem pick_assoc : pick usual (pick usual a b) c = pick usual a (pick usual b c) := by
  unfold pick
  split <;> simp_all

/-- The last of some values that is not the default, or a value that stands below them all. -/
def lastSet (usual base : α) (values : List α) : α :=
  (values.filter (· ≠ usual)).getLast?.getD base

theorem lastSet_cons (values : List α) :
    lastSet usual a (b :: values) = lastSet usual (pick usual a b) values := by
  unfold lastSet pick
  by_cases hb : b = usual
  · simp [hb]
  · simp [hb, List.getLast?_cons]

/-- A field of records that are laid over one another is the last one that is set. -/
theorem field_foldl {lay : β → β → β} (field : β → α)
    (hlay : ∀ s t, field (lay s t) = pick usual (field s) (field t)) (base : β)
    (uppers : List β) :
    field (uppers.foldl lay base) = lastSet usual (field base) (uppers.map field) := by
  induction uppers generalizing base with
  | nil => rfl
  | cons t uppers ih => rw [List.foldl_cons, ih, hlay, List.map_cons, lastSet_cons]

end

/-! ## Trees of settings -/

namespace Wire

open Json

theorem overlay_string (usual lower upper : String) :
    overlay (.string lower) (.string upper) (.string usual) =
      .string (pick usual lower upper) := by
  unfold pick
  by_cases h : upper = usual <;> simp [overlay, h]

theorem overlay_uint64 (usual lower upper : UInt64) :
    overlay (uint64 lower) (uint64 upper) (uint64 usual) = uint64 (pick usual lower upper) := by
  have hinj : uint64 upper = uint64 usual ↔ upper = usual := by
    refine ⟨fun h => ?_, congrArg uint64⟩
    have hnumber : (upper.toNat : Int) = usual.toNat := number.inj h
    exact UInt64.toNat_inj.1 (Int.natCast_inj.1 hnumber)
  unfold pick
  by_cases h : upper = usual
  · rw [if_pos h]
    exact if_pos (hinj.2 h)
  · rw [if_neg h]
    exact if_neg (mt hinj.1 h)

/-- The run settings in which each field is picked from two. -/
def pickRun (usual lower upper : RunSettings) : RunSettings where
  env := pick usual.env lower.env upper.env
  taskTimeoutSecs := pick usual.taskTimeoutSecs lower.taskTimeoutSecs upper.taskTimeoutSecs
  starkNetTimeoutSecs :=
    pick usual.starkNetTimeoutSecs lower.starkNetTimeoutSecs upper.starkNetTimeoutSecs
  pollIntervalMs := pick usual.pollIntervalMs lower.pollIntervalMs upper.pollIntervalMs

/-- The log settings in which each field is picked from two. -/
def pickLog (usual lower upper : LogSettings) : LogSettings where
  filter := pick usual.filter lower.filter upper.filter
  format := pick usual.format lower.format upper.format

/-- The settings of the runs are merged field by field. -/
theorem overlay_runSettings (usual lower upper : RunSettings) :
    overlay (runSettings lower) (runSettings upper) (runSettings usual) =
      runSettings (pickRun usual lower upper) := by
  refine (overlay_rows
    [⟨"env", .string lower.env, .string upper.env, .string usual.env⟩,
      ⟨"task_timeout_secs", uint64 lower.taskTimeoutSecs, uint64 upper.taskTimeoutSecs,
        uint64 usual.taskTimeoutSecs⟩,
      ⟨"starknet_task_timeout_secs", uint64 lower.starkNetTimeoutSecs,
        uint64 upper.starkNetTimeoutSecs, uint64 usual.starkNetTimeoutSecs⟩,
      ⟨"tx_poll_interval_ms", uint64 lower.pollIntervalMs, uint64 upper.pollIntervalMs,
        uint64 usual.pollIntervalMs⟩] (by simp)).trans ?_
  simp only [List.map_cons, List.map_nil, Row.merged, overlay_string, overlay_uint64]
  rfl

theorem overlay_logSettings (usual lower upper : LogSettings) :
    overlay (logSettings lower) (logSettings upper) (logSettings usual) =
      logSettings (pickLog usual lower upper) := by
  refine (overlay_rows
    [⟨"filter", .string lower.filter, .string upper.filter, .string usual.filter⟩,
      ⟨"format", .string lower.format, .string upper.format, .string usual.format⟩]
    (by simp)).trans ?_
  simp only [List.map_cons, List.map_nil, Row.merged, overlay_string]
  rfl

/-- The tree of settings over settings is the tree of the settings that are picked field by
field. -/
theorem overlay_settings (usual lower upper : Settings) :
    overlay (settings lower) (settings upper) (settings usual) =
      settings ⟨pickRun usual.run lower.run upper.run, pickLog usual.log lower.log upper.log⟩ := by
  refine (overlay_rows
    [⟨"runtime", runSettings lower.run, runSettings upper.run, runSettings usual.run⟩,
      ⟨"logging", logSettings lower.log, logSettings upper.log, logSettings usual.log⟩]
    (by simp)).trans ?_
  simp only [List.map_cons, List.map_nil, Row.merged, overlay_runSettings, overlay_logSettings]
  rfl

/-- A number that is written is read back. -/
theorem reads_uint64 (o : Origin) (n : UInt64) : Decoder.uint64 o (uint64 n).source = .ok n :=
  (restores_uint64 n).reads

theorem reads_runSettings (o : Origin) (s : RunSettings) :
    runSettingsDecoder o (runSettings s).source = .ok s := by
  unfold runSettings runSettingsDecoder
  rw [source, sourceFields_eq]
  refine Fields.Reads.decoder_eq (a := s) (.seq (.seq (.seq (.map RunSettings.mk (.field ?_))
    (.field ?_)) (.field ?_)) (.field ?_)) (by simp) (List.Perm.refl _)
  · rfl
  · exact reads_uint64 o s.taskTimeoutSecs
  · exact reads_uint64 o s.starkNetTimeoutSecs
  · exact reads_uint64 o s.pollIntervalMs

theorem reads_logSettings (o : Origin) (s : LogSettings) :
    logSettingsDecoder o (logSettings s).source = .ok s := by
  unfold logSettings logSettingsDecoder
  rw [source, sourceFields_eq]
  refine Fields.Reads.decoder_eq (a := s) (.seq (.map LogSettings.mk (.field ?_)) (.field ?_))
    (by simp) (List.Perm.refl _)
  · rfl
  · rfl

/-- Settings are read back from their tree. -/
theorem reads_settings (o : Origin) (s : Settings) :
    settingsDecoder o (settings s).source = .ok s := by
  unfold settings settingsDecoder
  rw [source, sourceFields_eq]
  refine Fields.Reads.decoder_eq (a := s) (.seq (.map Settings.mk (.field ?_)) (.field ?_))
    (by simp) (List.Perm.refl _)
  · exact reads_runSettings o s.run
  · exact reads_logSettings o s.log

end Wire

/-! ## Settings -/

namespace Settings

/-- **Settings are laid over one another field by field.** -/
theorem overlay_eq (lower upper : Settings) :
    lower.overlay upper = ⟨Wire.pickRun standard.run lower.run upper.run,
      Wire.pickLog standard.log lower.log upper.log⟩ := by
  simp only [overlay, Wire.overlay_settings, Json.decodeValue, Wire.reads_settings]

theorem overlay_default (s : Settings) : s.overlay standard = s := by
  simp [overlay_eq, Wire.pickRun, Wire.pickLog, pick_usual_right]

theorem default_overlay (s : Settings) : standard.overlay s = s := by
  simp [overlay_eq, Wire.pickRun, Wire.pickLog, pick_usual_left]

/-- Merging settings with themselves changes nothing. -/
theorem overlay_self (s : Settings) : s.overlay s = s := by
  simp [overlay_eq, Wire.pickRun, Wire.pickLog, pick_self]

/-- Merging settings is associative. -/
theorem overlay_assoc (s t u : Settings) :
    (s.overlay t).overlay u = s.overlay (t.overlay u) := by
  simp [overlay_eq, Wire.pickRun, Wire.pickLog, pick_assoc]

/-- **The last settings that set a field decide it.** Of settings that are laid one over the other,
each field is that of the last ones in which it is not the default, or that of the lowest ones if
there are none. So laying over is associative, settings count once, the defaults change nothing on
either side, and what is loaded is the same over the defaults. -/
theorem overlays_decide :
    (∀ (base : Settings) (uppers : List Settings),
      let merged := uppers.foldl overlay base
      merged.run.env = lastSet standard.run.env base.run.env (uppers.map (·.run.env)) ∧
        merged.run.taskTimeoutSecs =
          lastSet standard.run.taskTimeoutSecs base.run.taskTimeoutSecs
            (uppers.map (·.run.taskTimeoutSecs)) ∧
        merged.run.starkNetTimeoutSecs =
          lastSet standard.run.starkNetTimeoutSecs base.run.starkNetTimeoutSecs
            (uppers.map (·.run.starkNetTimeoutSecs)) ∧
        merged.run.pollIntervalMs =
          lastSet standard.run.pollIntervalMs base.run.pollIntervalMs
            (uppers.map (·.run.pollIntervalMs)) ∧
        merged.log.filter =
          lastSet standard.log.filter base.log.filter (uppers.map (·.log.filter)) ∧
        merged.log.format =
          lastSet standard.log.format base.log.format (uppers.map (·.log.format))) ∧
      (∀ s t u : Settings, (s.overlay t).overlay u = s.overlay (t.overlay u)) ∧
      (∀ s : Settings, s.overlay s = s) ∧
      (∀ s : Settings, s.overlay standard = s ∧ standard.overlay s = s) ∧
      ∀ files path, (load files path).map (Option.map standard.overlay) = load files path := by
  refine ⟨fun base uppers => ⟨?_, ?_, ?_, ?_, ?_, ?_⟩, overlay_assoc, overlay_self,
    fun s => ⟨overlay_default s, default_overlay s⟩, fun files path => ?_⟩
  · exact field_foldl _ (·.run.env)
      (fun s t => congrArg (·.run.env) (overlay_eq s t)) _ _
  · exact field_foldl _ (·.run.taskTimeoutSecs)
      (fun s t => congrArg (·.run.taskTimeoutSecs) (overlay_eq s t)) _ _
  · exact field_foldl _ (·.run.starkNetTimeoutSecs)
      (fun s t => congrArg (·.run.starkNetTimeoutSecs) (overlay_eq s t)) _ _
  · exact field_foldl _ (·.run.pollIntervalMs)
      (fun s t => congrArg (·.run.pollIntervalMs) (overlay_eq s t)) _ _
  · exact field_foldl _ (·.log.filter)
      (fun s t => congrArg (·.log.filter) (overlay_eq s t)) _ _
  · exact field_foldl _ (·.log.format)
      (fun s t => congrArg (·.log.format) (overlay_eq s t)) _ _
  -- settings that are loaded have been merged with the usual ones before
  · have hid : Option.map standard.overlay = id := by
      funext loaded
      cases loaded <;> simp [default_overlay]
    rw [hid]
    cases load files path <;> rfl

end Settings

end WalletTasks
