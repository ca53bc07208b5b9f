import WalletTasks.Host.Files
import WalletTasks.Settings.Basic
import WalletTasks.Toml.Document
import WalletTasks.Toml.Writer

/-!
# Settings on disk

The settings are kept as a TOML document with a table for each of their parts. A field that is
missing has its default, and a field that is not known is ignored. The document is written with a
comment in front; whole numbers of the format have 63 bits, so that greater ones cannot be written.

* `render?_isSome_iff`: settings can be written if and only if their numbers have 63 bits.
-/

namespace WalletTasks.Settings

open Host

/-! ## Reading -/

/-- The values of some fields of a record. An array gives them by position. -/
def fieldsOf? (names : List String) : Toml.Value → Option (List (Option Toml.Value))
  | .table _ fs => some (names.map (Toml.Fields.field? fs))
  | .array items => some (names.mapIdx fun i _ => items[i]?)
  | .tables items => some (names.mapIdx fun i _ => items[i]?.map (.table .headed))
  | .time _ => some (names.map fun _ => none)
  | _ => none

/-- The value of a field that may be missing. -/
def orUsual {α : Type} (read : Toml.Value → Option α) (usual : α) : Option Toml.Value → Option α
  | none => some usual
  | some v => read v

def textOf? : Toml.Value → Option String
  | .text s => some s
  | _ => none

def numberOf? : Toml.Value → Option UInt64
  | .integer n => if 0 ≤ n then some (UInt64.ofNat n.toNat) else none
  | _ => none

def runOf? (v : Toml.Value) : Option RunSettings := do
  let usual := standard.run
  match ← fieldsOf? ["env", "task_timeout_secs", "starknet_task_timeout_secs",
      "tx_poll_interval_ms"] v with
  | [env, timeout, starkNet, poll] =>
    some
      { env := ← orUsual textOf? usual.env env
        taskTimeoutSecs := ← orUsual numberOf? usual.taskTimeoutSecs timeout
        starkNetTimeoutSecs := ← orUsual numberOf? usual.starkNetTimeoutSecs starkNet
        pollIntervalMs := ← orUsual numberOf? usual.pollIntervalMs poll }
  | _ => none

def logOf? (v : Toml.Value) : Option LogSettings := do
  let usual := standard.log
  match ← fieldsOf? ["filter", "format"] v with
  | [filter, format] =>
    some
      { filter := ← orUsual textOf? usual.filter filter
        format := ← orUsual textOf? usual.format format }
  | _ => none

/-- The settings that a document holds. -/
def ofDocument? (fs : Toml.Fields) : Option Settings := do
  some
    { run := ← orUsual runOf? standard.run (Toml.Fields.field? fs "runtime")
      log := ← orUsual logOf? standard.log (Toml.Fields.field? fs "logging") }

/-- Reads settings. -/
def parse? (text : String) : Option Settings := (Toml.readDocument text).bind ofDocument?

/-- Why settings cannot be loaded. -/
inductive LoadError
  | unreadable (path : String) (e : FileError)
  | invalid (path : String)
deriving DecidableEq, Repr

def LoadError.message : LoadError → String
  | .unreadable path e => "failed to read " ++ path ++ ": " ++ e.message
  | .invalid path => "invalid TOML in " ++ path

/-- Loads settings from a file, if there is one. -/
def load (files : Files) (path : String) : Except LoadError (Option Settings) :=
  match files.read path with
  | .error .notFound => .ok none
  | .error e => .error (.unreadable path e)
  | .ok text =>
    match parse? text with
    | some s => .ok (some s)
    | none => .error (.invalid path)

/-! ## Writing -/

/-- The comment in front of the settings. -/
def heading : String :=
  "# Chainflow configuration file.\n#\n# Priority: env var > this file > defaults.\n" ++
    "# Run \x60chainflow config init\x60 to regenerate this file.\n\n"

/-- A number, if the format has it. -/
def number? (n : UInt64) : Option (List Char) :=
  if n.toNat < Toml.integerBound then some (Text.digits n.toNat) else none

/-- The document that holds settings, if it exists. -/
def render? (s : Settings) : Option String := do
  let timeout ← number? s.run.taskTimeoutSecs
  let starkNet ← number? s.run.starkNetTimeoutSecs
  let poll ← number? s.run.pollIntervalMs
  let text (s : String) := Toml.writeText s.toList
  some (heading ++ String.ofList
    (Toml.writeHeader "runtime" ++ Toml.writeField "env" (text s.run.env) ++
      Toml.writeField "task_timeout_secs" timeout ++
      Toml.writeField "starknet_task_timeout_secs" starkNet ++
      Toml.writeField "tx_poll_interval_ms" poll ++ ['\n'] ++
      Toml.writeHeader "logging" ++ Toml.writeField "filter" (text s.log.filter) ++
      Toml.writeField "format" (text s.log.format)))

/-- Why settings cannot be saved. -/
inductive SaveError
  | outOfRange
  | uncreated (directory : String) (e : FileError)
  | unwritten (path : String) (e : FileError)
deriving DecidableEq, Repr

def SaveError.message : SaveError → String
  | .outOfRange => "failed to serialize settings: out-of-range value for u64 type"
  | .uncreated directory e => "failed to create " ++ directory ++ ": " ++ e.message
  | .unwritten path e => "failed to write " ++ path ++ ": " ++ e.message

/-- Makes the directory that is to hold a path. -/
def makeRoom (files : Files) (path : String) : Files × Except SaveError Unit :=
  match Path.parent? path with
  | none => (files, .ok ())
  | some directory =>
    let (files, made) := files.makeDirectories directory
    (files, made.mapError (.uncreated directory))

/-- Saves settings in a file. Nothing is touched if they cannot be written. -/
def save (s : Settings) (files : Files) (path : String) : Files × Except SaveError Unit :=
  match s.render? with
  | none => (files, .error .outOfRange)
  | some text =>
    match makeRoom files path with
    | (files, .error e) => (files, .error e)
    | (files, .ok ()) =>
      match files.write path text with
      | .error e => (files, .error (.unwritten path e))
      | .ok files => (files, .ok ())

/-- Whether a number has 63 bits. -/
def Fits (n : UInt64) : Prop := n.toNat < Toml.integerBound

theorem number?_isSome_iff (n : UInt64) : (number? n).isSome ↔ Fits n := by
  unfold number? Fits
  split <;> simp_all

theorem render?_isSome_iff (s : Settings) :
    s.render?.isSome ↔
      Fits s.run.taskTimeoutSecs ∧ Fits s.run.starkNetTimeoutSecs ∧ Fits s.run.pollIntervalMs := by
  rw [← number?_isSome_iff, ← number?_isSome_iff, ← number?_isSome_iff]
  unfold render?
  cases number? s.run.taskTimeoutSecs <;> cases number? s.run.starkNetTimeoutSecs <;>
    cases number? s.run.pollIntervalMs <;> simp

/-- Settings that cannot be written leave the files alone. -/
theorem save_of_render?_eq_none {s : Settings} (h : s.render? = none) (files : Files)
    (path : String) : s.save files path = (files, .error .outOfRange) := by
  simp [save, h]

end WalletTasks.Settings
