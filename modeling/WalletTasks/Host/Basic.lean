import WalletTasks.Host.Files
import WalletTasks.Host.Variables

/-!
# The machine

What the program sees of the machine that it runs on: files and environment variables. The home
directory is named by a variable.
-/

namespace WalletTasks

/-- Files and environment variables. -/
structure Host where
  files : Host.Files
  «variables» : Host.Variables
deriving Repr

namespace Host

/-- The user's home directory, or the current directory if none is known. It is known from the
variable `HOME` alone: if that is not set, or empty, the list of users is not asked. -/
def home (h : Host) : String :=
  match h.variables.text? "HOME" with
  | some s => if s = "" then "." else s
  | none => "."

/-- The directory of the program's own files. -/
def programDirectory (h : Host) : String := Path.join h.home ".chainflow"

/-- The path of the program's own variables file. -/
def variablesPath (h : Host) : String := Path.join h.programDirectory ".env"

/-- The path of the user's settings. -/
def settingsPath (h : Host) : String := Path.join h.programDirectory "config.toml"

end Host

end WalletTasks
