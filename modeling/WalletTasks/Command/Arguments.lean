/-!
# Arguments

The words of a command line. Commands nest: a word that names a command of the current level starts
that command's own level, and every other word is an option of the level, the value of an option, or
a file. An option keeps waiting for its value until something else needs attention, and only then it
is found to have none. Faults of an inner level are reported before those of the outer ones.

* `ofWords_nil`: without words, help is shown.
-/

namespace WalletTasks.Command

/-- What the user asks for. -/
inductive Errand
  | listKinds
  | describe (file : String)
  | showConfig
  | initConfig (force : Bool) (environment : Option String)
deriving DecidableEq, Repr

/-- Why a command line is not carried out. -/
inductive UsageError
  | help
  | version
  | helpForMissingCommand
  | missingCommand
  | unknownCommand
  | unknownArgument
  | missingArgument
  | invalidValue
  | repeated
  | needlessValue
deriving DecidableEq, Repr

/-- The levels of commands. -/
inductive Level
  | root
  | kinds
  | describe
  | config
  | configShow
  | configInit
deriving DecidableEq, Repr

namespace Level

/-- The commands of a level. -/
def commands : Level → List (String × Level)
  | root => [("kinds", kinds), ("describe", describe), ("config", config)]
  | config => [("show", configShow), ("init", configInit)]
  | _ => []

/-- Whether a level needs one of its commands. -/
def needsCommand (l : Level) : Bool := !l.commands.isEmpty

/-- Whether a word names a command of a level, or its help. -/
def isCommand (l : Level) (word : String) : Bool :=
  l.needsCommand && (word = "help" || (l.commands.lookup word).isSome)

end Level

/-- What a level takes values for. -/
inductive Slot
  | config
  | environment
  | file
deriving DecidableEq, Repr

/-- What has been read at a level: values, and a slot that is about to be filled, perhaps with a
value that has been read already. -/
structure Progress where
  config : Option String
  environment : Option String
  file : Option String
  force : Bool
  waiting : Option (Slot × Option String)
deriving DecidableEq, Repr

namespace Progress

def empty : Progress := ⟨none, none, none, false, none⟩

/-- Whether an option waits for its value. -/
def expectsValue (p : Progress) : Bool :=
  match p.waiting with
  | some (_, none) => true
  | _ => false

def value? (p : Progress) : Slot → Option String
  | .config => p.config
  | .environment => p.environment
  | .file => p.file

/-- Fills a slot. A slot is filled once, and a path is never empty. -/
def fill (p : Progress) (slot : Slot) (value : String) : Except UsageError Progress :=
  if (p.value? slot).isSome then .error .repeated
  else
    match slot with
    | .config => if value = "" then .error .invalidValue else .ok { p with config := some value }
    | .file => if value = "" then .error .invalidValue else .ok { p with file := some value }
    | .environment => .ok { p with environment := some value }

/-- Fills the waiting slot. -/
def settle (p : Progress) : Except UsageError Progress :=
  match p.waiting with
  | none => .ok p
  | some (_, none) => .error .invalidValue
  | some (slot, some value) => { p with waiting := none }.fill slot value

/-- Whether the level has its file, or is about to get it. -/
def hasFile (p : Progress) : Bool :=
  p.file.isSome || match p.waiting with
    | some (.file, _) => true
    | _ => false

end Progress

/-- What a whole command line asks for, and the configuration file that it names. -/
structure Request where
  command : Errand
  config : Option String
deriving DecidableEq, Repr

/-- Ends a level, behind an inner level if one was started. The variable that names the
configuration file counts where the level itself names none. -/
def finish (fromVariable : Option String) (level : Level) (p : Progress) (inner : Option Request) :
    Except UsageError Request := do
  let p ← p.settle
  -- An empty variable is a path that was given, and no path is empty.
  if p.config = none ∧ fromVariable = some "" then throw .invalidValue
  match inner with
  | some r => .ok ⟨r.command, r.config.or p.config⟩
  | none =>
    match level with
    | .root | .config =>
      throw (if p.config = none ∧ fromVariable = none then .helpForMissingCommand
        else .missingCommand)
    | .kinds => .ok ⟨.listKinds, p.config⟩
    | .describe =>
      match p.file with
      | some file => .ok ⟨.describe file, p.config⟩
      | none => throw .missingArgument
    | .configShow => .ok ⟨.showConfig, p.config⟩
    | .configInit => .ok ⟨.initConfig p.force p.environment, p.config⟩

/-- Help for the commands that words name, from a level or from the help itself. -/
def helpFor : Option Level → List String → UsageError
  | _, [] => .help
  | none, _ :: _ => .unknownCommand
  | some level, word :: rest =>
    match level.commands.lookup word with
    | some inner => helpFor (some inner) rest
    | none => if level.isCommand word then helpFor none rest else .unknownCommand

/-- Takes a word that is no option: a file, where the level has one to take. -/
def takeWord (level : Level) (p : Progress) (trailing : Bool) (word : String) :
    Except UsageError Progress :=
  if level = .describe ∧ !p.hasFile then do
    let p ← p.settle
    .ok { p with waiting := some (.file, some word) }
  else if level.needsCommand ∧ !(trailing ∧ level.isCommand word) then .error .unknownCommand
  else .error .unknownArgument

/-- Takes an option with a value, which may be attached to it. -/
def takeOption (p : Progress) (slot : Slot) (attached : Option String) :
    Except UsageError Progress := do
  let p ← p.settle
  match attached with
  | some value => p.fill slot value
  | none => .ok { p with waiting := some (slot, none) }

/-- Takes an option without a value. -/
def takeSwitch (p : Progress) (attached : Option String)
    (effect : Progress → Except UsageError Progress) : Except UsageError Progress := do
  if attached.isSome then throw .needlessValue
  effect (← p.settle)

/-- The name of a long option, and the value attached to it. -/
def splitLong (s : List Char) : String × Option String :=
  (String.ofList (s.takeWhile (· ≠ '=')),
    match s.dropWhile (· ≠ '=') with
    | [] => none
    | _ :: value => some (String.ofList value))

/-- Takes an option with a long name. -/
def takeLong (level : Level) (p : Progress) (s : List Char) : Except UsageError Progress :=
  let (name, attached) := splitLong s
  if name = "config" then takeOption p .config attached
  else if name = "help" then takeSwitch p attached fun _ => .error .help
  else if name = "version" ∧ level = .root then takeSwitch p attached fun _ => .error .version
  else if name = "env" ∧ level = .configInit then takeOption p .environment attached
  else if name = "force" ∧ level = .configInit then
    takeSwitch p attached fun p =>
      if p.force then .error .repeated else .ok { p with force := true }
  else .error .unknownArgument

/-- Takes an option with a name of one letter. -/
def takeShort (level : Level) (p : Progress) (name : Char) : Except UsageError Progress :=
  if name = 'h' then takeSwitch p none fun _ => .error .help
  else if name = 'V' ∧ level = .root then takeSwitch p none fun _ => .error .version
  else .error .unknownArgument

/-- Takes a word that starts with a hyphen, or the value of an option, or a file. -/
def take (level : Level) (p : Progress) (word : String) : Except UsageError Progress :=
  match word.toList with
  | '-' :: '-' :: s => takeLong level p s
  | '-' :: c :: _ => takeShort level p c
  | _ =>
    match p.waiting with
    | some (slot, none) => .ok { p with waiting := some (slot, some word) }
    | _ => takeWord level p false word

/-- Reads the words of a level. Behind two hyphens no word is an option or a command. -/
def parse (fromVariable : Option String) :
    Level → Bool → Progress → List String → Except UsageError Request
  | level, _, p, [] => finish fromVariable level p none
  | level, true, p, word :: rest => do
    parse fromVariable level true (← takeWord level p true word) rest
  | level, false, p, word :: rest =>
    match if p.expectsValue then none else level.commands.lookup word with
    | some inner => do
      -- The inner level is read to its end first, so its faults come before those of this level.
      let r ← parse fromVariable inner false .empty rest
      finish fromVariable level p (some r)
    | none =>
      if !p.expectsValue ∧ level.isCommand word then .error (helpFor (some level) rest)
      else if word = "--" then parse fromVariable level true p rest
      else do parse fromVariable level false (← take level p word) rest

/-- What a command line asks for. A variable may name the configuration file. -/
def Request.ofWords (fromVariable : Option String) (words : List String) :
    Except UsageError Request := do
  let r ← parse fromVariable .root false .empty words
  .ok ⟨r.command, r.config.or fromVariable⟩

theorem ofWords_nil : Request.ofWords none [] = .error .helpForMissingCommand := rfl

end WalletTasks.Command
