import WalletTasks.DotEnv.Entry
import WalletTasks.DotEnv.Line
import WalletTasks.Host.Variables

/-!
# Variables files

A variables file sets the variables that have no text yet, entry by entry, up to the first line
that is malformed. A name in a value stands for the variable of that name, so that entries further
up in the file are seen through the variables that they have set. A file is written with every value
between weak quotation marks.

* `load_of_text`: a variable that has a text keeps it.
* `text?_of_load_cons`: after an entry its variable has a text.
-/

namespace WalletTasks.DotEnv

open Host

/-- What a name in a value stands for. -/
def meaning (vars : Variables) (name : String) : String := (vars.text? name).getD ""

/-- Sets the variables of lines. -/
def loadLines : Variables → List Line → Except String Variables
  | vars, [] => .ok vars
  | vars, .unfinished :: _ => .ok vars
  | vars, .complete s :: ls =>
    match Entry.ofLine? (meaning vars) s with
    | none => .ok vars
    | some none => loadLines vars ls
    | some (some e) => do loadLines (← vars.setUnlessText e.name e.value) ls

/-- Sets the variables of a file. -/
def load (vars : Variables) (text : String) : Except String Variables :=
  loadLines vars (Line.ofText (Text.withoutMark text.toList))

/-- A value with a backslash in front of every backslash and quotation mark. -/
def escape (s : List Char) : List Char :=
  s.flatMap fun c => if c = '\\' ∨ c = '"' then ['\\', c] else [c]

/-- The line of an entry. -/
def Entry.line (e : Entry) : String :=
  e.name ++ "=\"" ++ String.ofList (escape e.value.toList) ++ "\"\n"

/-- The text of a file with some entries. -/
def render (entries : List Entry) : String := String.join (entries.map Entry.line)

theorem loadLines_of_text {name s : String} {vars vars' : Variables} {lines : List Line}
    (h : loadLines vars lines = .ok vars') (hs : vars.text? name = some s) :
    vars'.text? name = some s := by
  induction lines generalizing vars with
  | nil => cases h; exact hs
  | cons l ls ih =>
    cases l with
    | unfinished => cases h; exact hs
    | complete t =>
      rw [loadLines] at h
      split at h
      · cases h; exact hs
      · exact ih h hs
      · next e _ =>
        cases hv : vars.setUnlessText e.name e.value with
        | error m => rw [hv] at h; cases h
        | ok w =>
          rw [hv] at h
          exact ih h (Variables.text?_setUnlessText hv hs)

theorem load_of_text {name s text : String} {vars vars' : Variables}
    (h : load vars text = .ok vars') (hs : vars.text? name = some s) :
    vars'.text? name = some s :=
  loadLines_of_text h hs

/-- The variable of an entry that has been read has a text in the end. -/
theorem text?_of_load_cons {vars vars' : Variables} {line : List Char} {lines : List Line}
    {e : Entry} (he : Entry.ofLine? (meaning vars) line = some (some e))
    (h : loadLines vars (.complete line :: lines) = .ok vars') :
    vars'.text? e.name = some ((vars.text? e.name).getD e.value) := by
  rw [loadLines, he] at h
  cases hv : vars.setUnlessText e.name e.value with
  | error m => simp only [hv] at h; cases h
  | ok w =>
    simp only [hv] at h
    exact loadLines_of_text h (Variables.text?_of_setUnlessText hv)

end WalletTasks.DotEnv
