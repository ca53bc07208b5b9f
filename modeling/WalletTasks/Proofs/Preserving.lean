import WalletTasks.Proofs.Magnitudes
import WalletTasks.Proofs.Saving
import WalletTasks.Proofs.Sections
import WalletTasks.Settings.Stored

/-!
# Settings are preserved on disk

The document of some settings is a comment and two sections. It is read line by line, and every text
and every number comes back as it was, whichever characters the texts have. A number of 64 bits that
the format does not have is refused before any file is touched, and no document brings one in.

* `parse?_render?`: the document of some settings is read as the settings.
* `inRange_of_parse?`: settings that are read have numbers of 63 bits.
* `saved_loaded`: what is saved is loaded, and what cannot be is refused.
-/

namespace WalletTasks.Settings

open Host

variable {files : Files} {path : String}

/-- Whether the numbers of settings have 63 bits. -/
def InRange (s : Settings) : Prop :=
  Fits s.run.taskTimeoutSecs ∧ Fits s.run.starkNetTimeoutSecs ∧ Fits s.run.pollIntervalMs

instance (n : UInt64) : Decidable (Fits n) := inferInstanceAs (Decidable (_ < _))

instance (s : Settings) : Decidable s.InRange := inferInstanceAs (Decidable (_ ∧ _ ∧ _))

/-! ## The sections of a document -/

/-- The field of a text. -/
def textField (key : String) (hkey : Toml.IsBareKey key) (s : String) : Toml.Field where
  key := key
  written := Toml.writeText s.toList
  value := .text s
  bare := hkey
  spells := by simpa using Toml.spells_text s.toList

/-- The field of a number that the format has. -/
def numberField (key : String) (hkey : Toml.IsBareKey key) {n : UInt64} (hn : Fits n) :
    Toml.Field where
  key := key
  written := Text.digits n.toNat
  value := .integer n.toNat
  bare := hkey
  spells := Toml.spells_digits hn

/-- The section on how tasks are run. -/
def runSection (s : Settings) (h : s.InRange) : Toml.Section where
  name := "runtime"
  fields :=
    [textField "env" (by decide) s.run.env,
      numberField "task_timeout_secs" (by decide) h.1,
      numberField "starknet_task_timeout_secs" (by decide) h.2.1,
      numberField "tx_poll_interval_ms" (by decide) h.2.2]
  bare := by decide
  nodup := by simp [textField, numberField]

/-- The section on what is logged. -/
def logSection (s : Settings) : Toml.Section where
  name := "logging"
  fields :=
    [textField "filter" (by decide) s.log.filter, textField "format" (by decide) s.log.format]
  bare := by decide
  nodup := by simp [textField]

/-- The comments in front of the sections. -/
def comments : List (List Char) :=
  [" Chainflow configuration file.".toList, [], " Priority: env var > this file > defaults.".toList,
    " Run \x60chainflow config init\x60 to regenerate this file.".toList]

/-- The document of settings has the comments and the two sections. -/
theorem render?_eq (s : Settings) (h : s.InRange) :
    s.render? =
      some (String.ofList (Toml.writeDocument comments [s.runSection h, s.logSection])) := by
  have hheading : heading = String.ofList (comments.flatMap Toml.writeComment ++ ['\n']) := by
    decide +kernel
  have hnumber : ∀ {n : UInt64}, Fits n → number? n = some (Text.digits n.toNat) :=
    fun hn => if_pos hn
  simp [render?, hnumber h.1, hnumber h.2.1, hnumber h.2.2, hheading, Toml.writeDocument,
    Toml.Section.write, Toml.Field.write, runSection, logSection, textField, numberField,
    ← String.ofList_append]

/-- A number that fits is read back. -/
theorem numberOf?_toNat (n : UInt64) : numberOf? (.integer n.toNat) = some n := by
  simp [numberOf?]

/-- The sections of settings hold the settings. -/
theorem ofDocument?_sections (s : Settings) (h : s.InRange) :
    ofDocument? [(s.runSection h).entry, s.logSection.entry] = some s := by
  have hrun : runOf? (s.runSection h).entry.2 = some s.run := by
    simp [runOf?, fieldsOf?, Toml.Fields.field?, List.lookup_cons, orUsual, textOf?,
      numberOf?_toNat, Toml.Section.entry, Toml.Field.entry, runSection, textField, numberField]
  have hlog : logOf? s.logSection.entry.2 = some s.log := by
    simp [logOf?, fieldsOf?, Toml.Fields.field?, List.lookup_cons, orUsual, textOf?,
      Toml.Section.entry, Toml.Field.entry, logSection, textField]
  have hfirst : Toml.Fields.field? [(s.runSection h).entry, s.logSection.entry] "runtime" =
      some (s.runSection h).entry.2 := rfl
  have hsecond : Toml.Fields.field? [(s.runSection h).entry, s.logSection.entry] "logging" =
      some s.logSection.entry.2 := rfl
  simp only [ofDocument?, hfirst, hsecond, orUsual, hrun, hlog, Option.bind_eq_bind,
    Option.bind_some]

/-- **The document of settings is read as the settings.** -/
theorem parse?_render? (s : Settings) (h : s.InRange) : s.render?.bind parse? = some s := by
  have hall : comments.all (·.all Toml.isPlain) = true := by decide +kernel
  have hplain : ∀ t ∈ comments, ∀ c ∈ t, Toml.isPlain c = true := by
    simpa only [List.all_eq_true] using hall
  have hnodup : ([s.runSection h, s.logSection].map Toml.Section.name).Nodup := by
    simp [runSection, logSection]
  rw [render?_eq s h, Option.bind_some, parse?, Toml.readDocument_writeDocument hplain hnodup]
  exact ofDocument?_sections s h

/-! ## The numbers of loaded settings -/

/-- A number that was read from a value in range fits. -/
theorem fits_of_numberOf? {v : Toml.Value} {n : UInt64} (hv : v.Ranged)
    (h : numberOf? v = some n) : Fits n := by
  unfold numberOf? at h
  split at h
  · rename_i m
    cases hv with
    | integer hm =>
      split at h
      · cases h
        unfold Fits
        have : Toml.integerBound < 2 ^ 64 := by decide
        rw [UInt64.toNat_ofNat']
        omega
      · cases h
  · cases h

/-- Fields are looked up by name or by position, and are in range with what they stand in. -/
theorem ranged_fieldsOf? {names : List String} {v : Toml.Value}
    {fields : List (Option Toml.Value)} (hv : v.Ranged) (h : fieldsOf? names v = some fields) :
    ∀ field ∈ fields, ∀ w ∈ field, w.Ranged := by
  intro field hfield w hw
  unfold fieldsOf? at h
  split at h
  -- a table, an array, tables in a row, or nothing of the kind
  · cases hv with
    | table _ hfs =>
      cases h
      obtain ⟨name, -, rfl⟩ := List.mem_map.1 hfield
      exact Toml.Fields.Ranged.field? hfs hw
  · cases hv with
    | array hitems =>
      cases h
      obtain ⟨i, -, rfl⟩ := List.mem_mapIdx.1 hfield
      exact hitems w (List.mem_of_getElem? hw)
  · cases hv with
    | tables hitems =>
      cases h
      obtain ⟨i, -, rfl⟩ := List.mem_mapIdx.1 hfield
      obtain ⟨fs, hfs, rfl⟩ := Option.map_eq_some_iff.1 hw
      exact .table _ (hitems fs (List.mem_of_getElem? hfs))
  · cases h
    obtain ⟨name, -, rfl⟩ := List.mem_map.1 hfield
    cases hw
  · cases h

/-- A number that may be missing has 63 bits, if its default has. -/
theorem fits_of_orUsual {usual n : UInt64} {field : Option Toml.Value} (husual : Fits usual)
    (hfield : ∀ w ∈ field, w.Ranged) (h : orUsual numberOf? usual field = some n) : Fits n := by
  cases field with
  | none =>
    cases h
    exact husual
  | some w => exact fits_of_numberOf? (hfield w rfl) h

/-- The three numbers of the settings fit if they were read from values in range. -/
theorem fits_of_runOf? {v : Toml.Value} {run : RunSettings} (hv : v.Ranged)
    (h : runOf? v = some run) :
    Fits run.taskTimeoutSecs ∧ Fits run.starkNetTimeoutSecs ∧ Fits run.pollIntervalMs := by
  unfold runOf? at h
  obtain ⟨fields, hfields, h⟩ := Option.bind_eq_some_iff.1 h
  have hranged := ranged_fieldsOf? hv hfields
  split at h
  · obtain ⟨env, -, h⟩ := Option.bind_eq_some_iff.1 h
    obtain ⟨timeout, htimeout, h⟩ := Option.bind_eq_some_iff.1 h
    obtain ⟨starkNet, hstarkNet, h⟩ := Option.bind_eq_some_iff.1 h
    obtain ⟨poll, hpoll, h⟩ := Option.bind_eq_some_iff.1 h
    cases h
    exact ⟨fits_of_orUsual (by decide) (hranged _ (by simp)) htimeout,
      fits_of_orUsual (by decide) (hranged _ (by simp)) hstarkNet,
      fits_of_orUsual (by decide) (hranged _ (by simp)) hpoll⟩
  · cases h

/-- **Settings that a document holds have numbers of 63 bits.** -/
theorem inRange_of_parse? {text : String} {s : Settings} (h : parse? text = some s) :
    s.InRange := by
  have hstandard : standard.InRange := by decide
  obtain ⟨fs, hfs, h⟩ := Option.bind_eq_some_iff.1 h
  have hranged : fs.Ranged := Toml.readDocument_ranged hfs
  obtain ⟨run, hrun, h⟩ := Option.bind_eq_some_iff.1 h
  obtain ⟨log, -, h⟩ := Option.bind_eq_some_iff.1 h
  cases h
  cases hfield : Toml.Fields.field? fs "runtime" with
  | none =>
    rw [hfield] at hrun
    cases hrun
    exact hstandard
  | some v =>
    rw [hfield] at hrun
    exact fits_of_runOf? (hranged.field? hfield) hrun

/-! ## Saving and loading -/

/-- Whether files can be written at a path, with the directories above it made if they are
missing. -/
def Writable (files : Files) (path : String) : Prop :=
  (makeRoom files path).2 = .ok () ∧ ((makeRoom files path).1.write path "").isOk = true

instance : Decidable (Writable files path) := inferInstanceAs (Decidable (_ ∧ _))

/-- Where something can be written, any text can be. -/
theorem write_of_writable (h : Writable files path) (text : String) :
    ∃ made files', makeRoom files path = (made, .ok ()) ∧ made.write path text = .ok files' := by
  obtain ⟨hmade, hempty⟩ := h
  have hsame := (makeRoom files path).1.write_map_unit path "" text
  refine ⟨(makeRoom files path).1, ?_⟩
  cases hwrite : (makeRoom files path).1.write path text with
  | ok files' => exact ⟨files', Prod.ext rfl hmade, rfl⟩
  | error e =>
    -- then nothing else can be written either
    rw [hwrite] at hsame
    cases hother : (makeRoom files path).1.write path "" with
    | ok _ =>
      rw [hother] at hsame
      cases hsame
    | error _ =>
      rw [hother] at hempty
      cases hempty

theorem read_write {files' : Files} {text : String} (h : files.write path text = .ok files') :
    files'.read path = .ok text := by
  unfold Files.read
  rw [Files.find_write h]
  rfl

/-- What is read and parsed is loaded. -/
theorem load_of_read {text : String} {s : Settings} (hread : files.read path = .ok text)
    (hparse : parse? text = some s) : load files path = .ok (some s) := by
  simp only [load, hread, hparse]

/-- **What is saved is loaded.** -/
theorem saved_loaded (s : Settings) :
    (s.InRange → ∀ files path, Writable files path →
      ∃ files', s.save files path = (files', .ok ()) ∧ load files' path = .ok (some s)) ∧
    (¬s.InRange → ∀ files path, s.save files path = (files, .error .outOfRange)) ∧
    ∀ files path, load files path = .ok (some s) → s.InRange := by
  refine ⟨fun hrange files path hwritable => ?_, fun hrange files path => ?_,
    fun files path hload => ?_⟩
  · obtain ⟨text, htext, hparse⟩ := Option.bind_eq_some_iff.1 (parse?_render? s hrange)
    obtain ⟨made, files', hmade, hwrite⟩ := write_of_writable hwritable text
    refine ⟨files', ?_, load_of_read (read_write hwrite) hparse⟩
    simp only [save, htext, hmade, hwrite]
  · refine save_of_render?_eq_none ?_ files path
    rw [← Option.not_isSome_iff_eq_none, render?_isSome_iff]
    exact hrange
  · unfold load at hload
    split at hload
    · cases hload
    · cases hload
    · split at hload
      · rename_i hparse
        cases hload
        exact inRange_of_parse? hparse
      · cases hload

/-- Marks of both kinds, backslashes, controls and ends of lines come back from a file in a
directory that was not there before. A number of 64 bits is refused, and the greatest one of a
document has 63. -/
theorem sample_saved_loaded :
    let path := "conf/app/config.toml"
    let texts : LogSettings := ⟨"\"\"\" and '''\r\n\\ \t\x00\x7f", "it's = # [x]\n\n"⟩
    let s : Settings := ⟨⟨"", 0, 1, 9223372036854775807⟩, texts⟩
    let wide : Settings := ⟨⟨"", 0, 1, 9223372036854775808⟩, texts⟩
    let files : Files :=
      ⟨[(["c"], .file "runtime.task_timeout_secs = 0x7fff_ffff_ffff_ffff")], []⟩
    (∃ files', s.save ⟨[], []⟩ path = (files', .ok ()) ∧ load files' path = .ok (some s)) ∧
      wide.save ⟨[], []⟩ path = (⟨[], []⟩, .error .outOfRange) ∧
      ∃ loaded, load files "c" = .ok (some loaded) ∧ loaded.InRange := by
  intro path texts s wide files
  have hload : load files "c" =
      .ok (some ⟨⟨"prod", 9223372036854775807, 600, 3000⟩, standard.log⟩) := by decide +kernel
  exact ⟨(saved_loaded s).1 (by decide) _ _ (by decide +kernel),
    (saved_loaded wide).2.1 (by decide) _ _, _, hload, (saved_loaded _).2.2 _ _ hload⟩

end WalletTasks.Settings
