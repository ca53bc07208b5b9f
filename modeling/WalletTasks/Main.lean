import WalletTasks.Command.Perform

/-!
# The program

The shell around the commands. It takes a picture of the files and variables that a run can look
at, runs the command on the picture, and writes down what has changed.
-/

namespace WalletTasks.Shell

open Host

/-- The path of a place. -/
def pathOf (place : Place) : String := "/" ++ Path.ofParts place

/-- The place that a path leads to, if no name on the way stands for another place. -/
def placeOf (here : Place) (path : String) : Place :=
  (Path.parts path).foldl (fun place p =>
    if p = "" ∨ p = "." then place else if p = ".." then place.dropLast else place ++ [p])
    (if Path.isAbsolute path then [] else here)

/-- What stands at a place. A file that is not UTF-8 is one that cannot be read, even if it begins
with lines that could be. -/
def probe (place : Place) : IO (Option Entry) := do
  let path := (← IO.currentDir) / pathOf place
  if ← path.isDir then return some .directory
  match ← (IO.FS.readBinFile path).toBaseIO with
  | .ok bytes =>
    match String.fromUTF8? bytes with
    | some text => return some (.file text)
    | none => return some (.unreadable "stream did not contain valid UTF-8")
  | .error (.noFileOrDirectory ..) => return none
  | .error e => return some (.unreadable (toString e))

/-- Adds a place, and the places above it, to a picture. -/
def observe (files : Files) (place : Place) : IO Files := do
  let mut files := files
  for n in List.range place.length do
    let above := place.take (n + 1)
    if files.at? (place.take n) = some .directory ∧ files.at? above = none then
      if let some e ← probe above then
        files := files.put above e
  return files

/-- The paths that a run may look at, apart from those that the command line names. -/
def usualPaths (h : Host) : List String := [h.settingsPath, h.variablesPath]

/-- The paths that a command line names. -/
def namedPaths (h : Host) (words : List String) : List String :=
  match Command.Request.ofWords (Command.configVariable h.variables) words with
  | .error _ => []
  | .ok r =>
    r.config.toList ++ match r.command with
      | .describe file => [file]
      | _ => []

/-- The picture of the machine. -/
def picture (words : List String) : IO Host := do
  let here := placeOf [] (← IO.currentDir).toString
  let block ← (IO.FS.readBinFile "/proc/self/environ").toBaseIO
  let vars := match block with
    | .ok bytes => Variables.ofBlock bytes.toList
    | .error _ => .empty
  let h : Host := ⟨⟨[], here⟩, vars⟩
  let mut files := h.files
  for place in Startup.upwards here do
    files ← observe files (place ++ [".env"])
  for path in usualPaths h ++ namedPaths h words do
    files ← observe files (placeOf here path)
  return { h with files }

/-- Writes down what differs from a picture. -/
def commit (before after : Files) : IO Unit := do
  for (place, entry) in after.entries.reverse do
    if before.at? place ≠ some entry then
      match entry with
      | .directory => IO.FS.createDirAll (pathOf place)
      | .file text => IO.FS.writeFile (pathOf place) text
      | .unreadable _ => pure ()

/-- A reminder of the commands. -/
def usage : String :=
  "Usage: chainflow [--config <PATH>] <COMMAND>\n\nCommands:\n" ++
    "  kinds                               List task kinds\n" ++
    "  describe <FILE>                     Describe a task\n" ++
    "  config show                         Show the configuration\n" ++
    "  config init [--force] [--env <ENV>] Write a default config file\n"

/-- The wording of a fault in the command line. -/
def complaint : Command.UsageError → String
  | .help | .version | .helpForMissingCommand => ""
  | .missingCommand => "a subcommand is required"
  | .unknownCommand => "unrecognized subcommand"
  | .unknownArgument => "unexpected argument"
  | .missingArgument => "a required argument was not provided"
  | .invalidValue => "a value is required"
  | .repeated => "an argument cannot be used multiple times"
  | .needlessValue => "unexpected value"

/-- Reports a failure. -/
def fail (message : String) (cause : Option String) : IO UInt32 := do
  IO.eprintln ("Error: " ++ message)
  if let some c := cause then
    IO.eprintln ("\nCaused by:\n    " ++ c)
  return 1

/-- Runs the program on a command line. -/
def run (words : List String) : IO UInt32 := do
  let h ← picture words
  match Command.run h words with
  | .usage .help => IO.print usage; return 0
  | .usage .version => IO.println "chainflow 0.3.0"; return 0
  | .usage .helpForMissingCommand => IO.eprint usage; return 2
  | .usage e => IO.eprint ("error: " ++ complaint e ++ "\n\n" ++ usage); return 2
  | .unconfigured (.error e) => fail e.message none
  | .unconfigured (.crash message) => fail message none
  | .performed o =>
    commit h.files o.host.files
    IO.print o.output
    match o.error with
    | none => return 0
    | some e => fail e.message e.cause

end WalletTasks.Shell

def main (words : List String) : IO UInt32 := WalletTasks.Shell.run words
