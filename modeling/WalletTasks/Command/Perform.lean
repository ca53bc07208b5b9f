import WalletTasks.Command.Arguments
import WalletTasks.Config
import WalletTasks.Registry
import WalletTasks.Wire.Task

/-!
# Commands

What the commands do: list the kinds of tasks with their limits, describe a task from a file, show
the configuration, and write settings with the defaults. A command that fails keeps what it has
written.

* `perform_describe`: describing a task changes no file.
-/

namespace WalletTasks.Command

open Host

/-- Why a command fails. -/
inductive CommandError
  | unreadable (file : String) (e : FileError)
  | invalidTask (file : String) (e : Json.DecodeError)
  | alreadyExists (path : String)
  | settingsUnsaved (e : Settings.SaveError)
  | variablesUnsaved (e : FileError)

def CommandError.message : CommandError → String
  | .unreadable file _ => "failed to read " ++ file
  | .invalidTask file _ => "invalid task in " ++ file
  | .alreadyExists path => path ++ " already exists (use --force to overwrite)"
  | .settingsUnsaved e => e.message
  | .variablesUnsaved e => e.message

/-- What lies behind an error. -/
def CommandError.cause : CommandError → Option String
  | .unreadable _ e => some e.message
  | .invalidTask _ e => e.message?
  | _ => none

/-- What a command leaves behind: the machine, its output, and perhaps an error. -/
structure Outcome where
  host : Host
  output : String
  error : Option CommandError

/-- Text with blanks behind it up to a width. -/
def padded (width : Nat) (s : String) : String :=
  s ++ String.ofList (List.replicate (width - s.length) ' ')

/-- A line of the list of kinds. -/
def kindLine (config : Config) (kind : Kind) : String :=
  let policy : BillingPolicy := ⟨config.limits.environment⟩
  padded 34 kind.label ++ " " ++ padded 8 kind.shape.label ++ " " ++
    padded 9 (if policy.isBillable kind then "yes" else "no") ++ " " ++
    Text.decimal (config.limits.timeoutFor kind).seconds ++ "s\n"

/-- The list of kinds. -/
def kindList (config : Config) : String :=
  padded 34 "KIND" ++ " " ++ padded 8 "PAYLOAD" ++ " " ++ padded 9 "BILLABLE" ++ " TIMEOUT\n" ++
    String.join (Registry.standard.kinds.map (kindLine config))

/-- The configuration as it is shown. -/
def configText (config : Config) : String :=
  let l := config.limits
  "env                   " ++ l.environment.label ++
    "\ntask_timeout          " ++ Text.decimal l.taskTimeout.seconds ++
    "s\nstarknet_task_timeout " ++ Text.decimal l.starkNetTimeout.seconds ++
    "s\ntx_poll_interval      " ++ Text.decimal l.pollInterval.millis ++
    "ms\nlog_format            " ++ (if config.logging.json then "json" else "pretty") ++ "\n"

/-- The description of a task in a file. -/
def describeFile (files : Files) (file : String) : Except CommandError String := do
  let text ← (files.read file).mapError (.unreadable file)
  let task ← (Json.decodeText Wire.taskDecoder text).mapError (.invalidTask file)
  .ok (Wire.describe task ++ "\n")

/-- The line that tells of a file that has been written. -/
def written (path : String) : String := "Wrote " ++ path ++ "\n"

/-- Pins the environment in the program's variables file. -/
def pinEnvironment (h : Host) (output environment : String) : Outcome :=
  match Startup.save h [⟨"CHAINFLOW_ENV", environment⟩] with
  | (h, .error e) => ⟨h, output, some (.variablesUnsaved e)⟩
  | (h, .ok ()) => ⟨h, output ++ written h.variablesPath, none⟩

/-- Writes settings with the defaults, and pins an environment that is given. -/
def initConfig (h : Host) (force : Bool) (environment : Option String) : Outcome :=
  let path := h.settingsPath
  if h.files.pathExists path ∧ !force then ⟨h, "", some (.alreadyExists path)⟩
  else
    let usual := Settings.standard
    let s : Settings := { usual with run.env := environment.getD usual.run.env }
    match s.save h.files path with
    | (files, .error e) => ⟨{ h with files }, "", some (.settingsUnsaved e)⟩
    | (files, .ok ()) =>
      let h := { h with files }
      match environment with
      | none => ⟨h, written path, none⟩
      | some environment => pinEnvironment h (written path) environment

/-- Carries out a command. -/
def perform (h : Host) (config : Config) : Errand → Outcome
  | .listKinds => ⟨h, kindList config, none⟩
  | .describe file =>
    match describeFile h.files file with
    | .ok text => ⟨h, text, none⟩
    | .error e => ⟨h, "", some e⟩
  | .showConfig => ⟨h, configText config, none⟩
  | .initConfig force environment => initConfig h force environment

/-- How the program ends. -/
inductive Ending
  | usage (e : UsageError)
  | unconfigured (e : Config.Failure)
  | performed (o : Outcome)

/-- The variable that may name the configuration file. -/
def configVariable (vars : Variables) : Option String :=
  (vars.get? "CHAINFLOW_CONFIG").map Value.shown

/-- Runs the program. -/
def run (h : Host) (words : List String) : Ending :=
  match Request.ofWords (configVariable h.variables) words with
  | .error e => .usage e
  | .ok r =>
    match Config.load h r.config with
    | .error e => .unconfigured e
    | .ok (h, config) => .performed (perform h config r.command)

theorem perform_describe (h : Host) (config : Config) (file : String) :
    (perform h config (.describe file)).host = h := by
  cases hd : describeFile h.files file <;> simp [perform, hd]

end WalletTasks.Command
