import WalletTasks.Host.Path

/-!
# Files

The directories and text files of a machine, by place: a place is the list of names that leads to
it from the root. A path is walked name by name, and every name but the last has to lead to a
directory.

* `at?_put`, `at?_put_of_ne`: what has been put at a place stands there, and nothing else changes.
-/

namespace WalletTasks.Host

/-- The names that lead from the root to a directory or file. -/
abbrev Place := List String

/-- What stands at a place: a directory, a text file, or a file that cannot be read as text. -/
inductive Entry
  | directory
  | file (text : String)
  | unreadable (reason : String)
deriving DecidableEq, Repr

/-- Why a path cannot be used. -/
inductive FileError
  | notFound
  | alreadyExists
  | notDirectory
  | isDirectory
  | nameTooLong
  | nulInName
  | other (reason : String)
deriving DecidableEq, Repr

def FileError.message : FileError → String
  | .notFound => "No such file or directory (os error 2)"
  | .alreadyExists => "File exists (os error 17)"
  | .notDirectory => "Not a directory (os error 20)"
  | .isDirectory => "Is a directory (os error 21)"
  | .nameTooLong => "File name too long (os error 36)"
  | .nulInName => "file name contained an unexpected NUL byte"
  | .other reason => reason

/-- The files of a machine and the directory that relative paths start from. -/
structure Files where
  entries : List (Place × Entry)
  here : Place
deriving Repr

namespace Files

/-- What stands at a place. The root is a directory. -/
def at? (fs : Files) (place : Place) : Option Entry :=
  if place = [] then some .directory else fs.entries.lookup place

/-- The files with something put at a place. -/
def put (fs : Files) (place : Place) (e : Entry) : Files :=
  { fs with entries := (place, e) :: fs.entries.filter fun x => x.1 ≠ place }

/-- Puts something at a place and directories at all places above it where nothing stands. -/
def putWithParents (fs : Files) (place : Place) (e : Entry) : Files :=
  let above := (List.range place.length).map place.take
  ((above.filter fun p => fs.at? p = none).foldl (fun fs p => fs.put p .directory) fs).put place e

/-- The most bytes that a name and a path may have. -/
def maxName : Nat := 255

def maxPath : Nat := 4095

/-- Enters a directory. -/
def enter (fs : Files) (place : Place) : Except FileError Unit :=
  match fs.at? place with
  | some .directory => .ok ()
  | some _ => .error .notDirectory
  | none => .error .notFound

/-- Follows names from a place. The place that they lead to may be empty. -/
def walk (fs : Files) : Place → List String → Except FileError Place
  | place, [] => .ok place
  | place, p :: ps => do
    fs.enter place
    if p = "" ∨ p = "." then fs.walk place ps
    else if p = ".." then fs.walk place.dropLast ps
    else if maxName < p.utf8ByteSize then .error .nameTooLong
    else fs.walk (place ++ [p]) ps

/-- Where a path starts. -/
def start (fs : Files) (path : String) : Place := if Path.isAbsolute path then [] else fs.here

/-- Refuses a path that no machine takes. -/
def checkPath (path : String) : Except FileError Unit :=
  if path.toList.contains '\x00' then .error .nulInName
  else if path = "" then .error .notFound
  else if maxPath < path.utf8ByteSize then .error .nameTooLong
  else .ok ()

/-- The place that a path leads to. -/
def locate (fs : Files) (path : String) : Except FileError Place := do
  checkPath path
  fs.walk (fs.start path) (Path.parts path)

/-- What a path leads to. -/
def find (fs : Files) (path : String) : Except FileError Entry := do
  let place ← fs.locate path
  match fs.at? place with
  | some e => .ok e
  | none => .error .notFound

def pathExists (fs : Files) (path : String) : Bool := (fs.find path).isOk

def isDirectory (fs : Files) (path : String) : Bool :=
  match fs.find path with
  | .ok .directory => true
  | _ => false

/-- The text of a file. -/
def read (fs : Files) (path : String) : Except FileError String := do
  match ← fs.find path with
  | .file text => .ok text
  | .directory => .error .isDirectory
  | .unreadable reason => .error (.other reason)

/-- The directory of a path that may not exist yet, and the last name of the path if it is one that
can be given to something new. -/
def locateNew (fs : Files) (path : String) : Except FileError (Place × Option String) := do
  checkPath path
  let ps := Path.parts path
  let place ← fs.walk (fs.start path) ps.dropLast
  fs.enter place
  match ps.getLast? with
  | some p =>
    if p = "" ∨ p = "." ∨ p = ".." then .ok (place, none)
    else if maxName < p.utf8ByteSize then .error .nameTooLong
    else .ok (place, some p)
  | none => .ok (place, none)

/-- Writes a file, which may be there already. -/
def write (fs : Files) (path text : String) : Except FileError Files := do
  match ← fs.locateNew path with
  | (_, none) => .error .isDirectory
  | (place, some name) =>
    match fs.at? (place ++ [name]) with
    | some .directory => .error .isDirectory
    | _ => .ok (fs.put (place ++ [name]) (.file text))

/-- Makes a directory inside another one. -/
def makeDirectory (fs : Files) (path : String) : Except FileError Files := do
  match ← fs.locateNew path with
  | (_, none) => .error .alreadyExists
  | (place, some name) =>
    match fs.at? (place ++ [name]) with
    | some _ => .error .alreadyExists
    | none => .ok (fs.put (place ++ [name]) .directory)

/-- Makes a directory, given its path and the paths of the directories above it, of which the
missing ones are made first. What has been made stays even if a later step fails. -/
def makeWithAncestors (fs : Files) : List String → Files × Except FileError Unit
  | [] => (fs, .error (.other "failed to create whole tree"))
  | path :: above =>
    if path = "" then (fs, .ok ())
    else
      match fs.makeDirectory path with
      | .ok fs => (fs, .ok ())
      | .error .notFound =>
        match fs.makeWithAncestors above with
        | (fs, .error e) => (fs, .error e)
        | (fs, .ok ()) =>
          match fs.makeDirectory path with
          | .ok fs => (fs, .ok ())
          | .error e => (fs, if fs.isDirectory path then .ok () else .error e)
      | .error e => (fs, if fs.isDirectory path then .ok () else .error e)

/-- Makes a directory and all missing directories above it. -/
def makeDirectories (fs : Files) (path : String) : Files × Except FileError Unit :=
  fs.makeWithAncestors (Path.withAncestors path)

theorem at?_put (fs : Files) {place : Place} (h : place ≠ []) (e : Entry) :
    (fs.put place e).at? place = some e := by
  simp [at?, put, h]

theorem lookup_filter_ne {p q : Place} (h : q ≠ p) (xs : List (Place × Entry)) :
    (xs.filter fun x => x.1 ≠ p).lookup q = xs.lookup q := by
  induction xs with
  | nil => rfl
  | cons x xs ih =>
    obtain ⟨k, v⟩ := x
    by_cases hk : k = p
    · rw [List.filter_cons_of_neg (by simpa using hk), ih, List.lookup_cons]
      have hqk : (q == k) = false := by simpa [hk] using h
      rw [hqk]
    · rw [List.filter_cons_of_pos (by simpa using hk), List.lookup_cons, List.lookup_cons, ih]

theorem at?_put_of_ne (fs : Files) {p q : Place} (h : q ≠ p) (e : Entry) :
    (fs.put p e).at? q = fs.at? q := by
  have hqp : (q == p) = false := by simpa using h
  simp only [at?, put, List.lookup_cons, hqp, lookup_filter_ne h]

end Files

end WalletTasks.Host
