import WalletTasks.Error
import WalletTasks.Limits
import WalletTasks.Settings.Overlay
import WalletTasks.Settings.Stored
import WalletTasks.Startup

/-!
# Configuration

The program is configured from three layers: the environment variables, of which some come from
files, the user's settings, and the defaults. A variable counts unless it is blank. The values are
checked in a fixed order, and the first bad one is reported under the name of its variable.

* `environmentOf?_label`: the label of an environment names it.
* `positive_eq_ok_iff`: only zero is refused.
-/

namespace WalletTasks

/-- How events are logged. -/
structure Logging where
  filter : String
  json : Bool
deriving DecidableEq, Repr

/-- What the program runs with. -/
structure Config where
  limits : Limits
  logging : Logging
deriving DecidableEq, Repr

namespace Config

open Host

/-- A name in small letters with low lines in place of hyphens and spaces, without the blanks
around it. -/
def normalName (s : String) : String :=
  String.ofList ((Text.trim s.toList).map fun c =>
    let c := Text.lowerAscii c
    if c = '-' ∨ c = ' ' then '_' else c)

/-- The environment that a name stands for. -/
def environmentOf? (name : String) : Option Environment :=
  let n := normalName name
  if n = "local" then some .local
  else if n = "dev" ∨ n = "development" then some .dev
  else if n = "prod" ∨ n = "production" then some .prod
  else none

/-- Whether a name asks for events in JSON. -/
def jsonOf? (name : String) : Option Bool :=
  let n := normalName name
  if n = "json" then some true else if n = "pretty" ∨ n = "text" then some false else none

/-- The text of a variable that is set and not blank. -/
def given? (vars : Variables) (key : String) : Except ConfigError (Option String) :=
  match vars.get? key with
  | none => .ok none
  | some (.text s) => .ok (if Text.allBlank s then none else some s)
  | some (.bytes parts) =>
    .error (.invalidValue key ("failed to read " ++ key ++
      ": environment variable was not valid unicode: " ++ Text.display parts))

/-- A number that has to be positive. -/
def positive (key : String) (n : Nat) : Except ConfigError {n : Nat // 0 < n} :=
  if h : 0 < n then .ok ⟨n, h⟩ else .error (.invalidValue key "must be > 0")

/-- A number from a variable or, failing that, from the settings. -/
def number (vars : Variables) (key : String) (setting : UInt64) :
    Except ConfigError {n : Nat // 0 < n} := do
  match ← given? vars key with
  | none => positive key setting.toNat
  | some s =>
    match Text.readNumeral (2 ^ 64) (Text.trim s.toList) with
    | .ok n => positive key n
    | .error e => .error (.invalidValue key ("must be a non-negative integer: " ++ e.message))

/-- A choice from a variable or, failing that, from the settings. -/
def choice {α : Type} (vars : Variables) (key setting : String) (read? : String → Option α)
    (expected : String) : Except ConfigError α := do
  let name := (← given? vars key).getD setting
  match read? name with
  | some a => .ok a
  | none => .error (.invalidValue key ("expected " ++ expected ++ ", got '" ++ name ++ "'"))

/-- The limits that variables and settings give. -/
def limitsOf (vars : Variables) (s : RunSettings) : Except ConfigError Limits := do
  let environment ←
    choice vars "CHAINFLOW_ENV" s.env environmentOf? "'local', 'dev', or 'prod'"
  let timeout ← number vars "TASK_TIMEOUT_SECS" s.taskTimeoutSecs
  let starkNet ← number vars "STARKNET_TASK_TIMEOUT_SECS" s.starkNetTimeoutSecs
  let poll ← number vars "TX_POLL_INTERVAL_MS" s.pollIntervalMs
  .ok
    { environment
      taskTimeout := .ofSeconds timeout
      starkNetTimeout := .ofSeconds starkNet
      pollInterval := .ofMillis poll
      pollInterval_pos := Nat.mul_pos poll.2 (by decide) }

/-- The logging that variables and settings give. -/
def loggingOf (vars : Variables) (s : LogSettings) : Except ConfigError Logging := do
  let json ← choice vars "LOG_FORMAT" s.format jsonOf? "'pretty' or 'json'"
  .ok ⟨s.filter, json⟩

/-- The configuration that variables and settings give. -/
def resolve (vars : Variables) (s : Settings) : Except ConfigError Config := do
  .ok ⟨← limitsOf vars s.run, ← loggingOf vars s.log⟩

/-- The settings over the defaults. A file that the user names has to be there and to be valid; the
usual file is passed over otherwise. -/
def settings (h : Host) : Option String → Except ConfigError Settings
  | none =>
    match Settings.load h.files h.settingsPath with
    | .ok (some s) => .ok (Settings.standard.overlay s)
    | _ => .ok Settings.standard
  | some path =>
    match Settings.load h.files path with
    | .ok (some s) => .ok (Settings.standard.overlay s)
    | .ok none => .error (.parseError ("Config file not found: " ++ path))
    | .error e =>
      .error (.parseError ("Failed to load config file " ++ path ++ ": " ++ e.message))

/-- Why there is no configuration: an error, or a process that did not survive. -/
inductive Failure
  | error (e : ConfigError)
  | crash (message : String)
deriving DecidableEq, Repr

/-- Sets the variables of the files at start-up and configures the program. -/
def load (h : Host) (path? : Option String) : Except Failure (Host × Config) := do
  let h ← (Startup.load h).mapError .crash
  let s ← (settings h path?).mapError .error
  let config ← (resolve h.variables s).mapError .error
  .ok (h, config)

theorem environmentOf?_label (e : Environment) : environmentOf? e.label = some e := by
  cases e <;> rfl

theorem positive_eq_ok_iff {key : String} {n : Nat} {m : {n : Nat // 0 < n}} :
    positive key n = .ok m ↔ m.1 = n := by
  unfold positive
  split
  · next h =>
    constructor
    · rintro ⟨⟩; rfl
    · rintro rfl; rfl
  · next h =>
    constructor
    · rintro ⟨⟩
    · rintro rfl; exact absurd m.2 h

end Config

end WalletTasks
