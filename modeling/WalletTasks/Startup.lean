import WalletTasks.DotEnv.File
import WalletTasks.Host.Basic

/-!
# Variables at start-up

Before anything is configured, variables are taken from two files: the file `.env` of the working
directory, or of the nearest directory above it that holds one, and then the program's own file.
Neither changes a variable that has a text already. The program writes its own file.

* `loadOwn_of_text`: a variable that has a text keeps it.
-/

namespace WalletTasks.Startup

open Host

/-- The places of the directories from a place up to the root. -/
def upwards (place : Place) : List Place :=
  (List.range (place.length + 1)).reverse.map place.take

/-- What a file called `.env` holds in the nearest directory that has one. -/
def nearest? (files : Files) : Option Entry :=
  (upwards files.here).findSome? fun place =>
    match files.at? (place ++ [".env"]) with
    | some .directory => none
    | r => r

/-- Sets the variables of a file that can be read. One that cannot is passed over as a whole: lines
in front of the first that is not UTF-8 are not set. -/
def loadEntry (vars : Variables) : Option Entry → Except String Variables
  | some (.file text) => DotEnv.load vars text
  | _ => .ok vars

/-- Sets the variables of the nearest file. -/
def loadNearest (h : Host) : Except String Host := do
  let vars ← loadEntry h.variables (nearest? h.files)
  .ok { h with «variables» := vars }

/-- Sets the variables of the program's own file, if there is one. -/
def loadOwn (h : Host) : Except String Host := do
  let vars ← loadEntry h.variables (h.files.find h.variablesPath).toOption
  .ok { h with «variables» := vars }

/-- Sets the variables of both files. -/
def load (h : Host) : Except String Host := do loadOwn (← loadNearest h)

/-- Writes the program's own file. -/
def save (h : Host) (entries : List DotEnv.Entry) : Host × Except FileError Unit :=
  let path := h.variablesPath
  match h.files.makeDirectories ((Path.parent? path).getD "") with
  | (files, .error e) => ({ h with files }, .error e)
  | (files, .ok ()) =>
    match files.write path (DotEnv.render entries) with
    | .error e => ({ h with files }, .error e)
    | .ok files => ({ h with files }, .ok ())

theorem loadOwn_of_text {h h' : Host} {name s : String} (hl : loadOwn h = .ok h')
    (hs : h.variables.text? name = some s) : h'.variables.text? name = some s := by
  unfold loadOwn loadEntry at hl
  split at hl
  · next text _ =>
    cases hd : DotEnv.load h.variables text with
    | error m => rw [hd] at hl; cases hl
    | ok vars =>
      rw [hd] at hl
      cases hl
      exact DotEnv.load_of_text hd hs
  · cases hl
    exact hs

end WalletTasks.Startup
