/-!
# Paths

A path is text: names with slashes between them, absolute if a slash comes first. Empty names and
single dots inside a path stand for nothing, but for a dot in front.

* `names_append_slash`: the names of two paths with a slash between them are the names of both.
-/

namespace WalletTasks.Host.Path

/-- The names of a path, between its slashes. -/
def names : List Char → List (List Char)
  | [] => [[]]
  | c :: s =>
    if c = '/' then [] :: names s
    else
      match names s with
      | [] => [[c]]
      | n :: ns => (c :: n) :: ns

/-- The parts of a path. -/
def parts (path : String) : List String := (names path.toList).map String.ofList

/-- Names with slashes between them. -/
def ofParts (ps : List String) : String := String.intercalate "/" ps

/-- Whether a path starts at the root. -/
def isAbsolute (path : String) : Bool := path.toList.head? = some '/'

/-- A path seen from a directory. -/
def join (directory path : String) : String :=
  if isAbsolute path || directory = "" then path
  else if directory.toList.getLast? = some '/' then directory ++ path
  else directory ++ "/" ++ path

/-- The parts of a path, the last one first, without those at its end that stand for nothing. -/
def trimEnd : List String → List String
  | [] => []
  | [p] => if p = "" then [] else [p]
  | p :: q :: ps => if p = "" ∨ p = "." then trimEnd (q :: ps) else p :: q :: ps

/-- The path of the directory that holds a path, unless there is none. -/
def parent? (path : String) : Option String :=
  match trimEnd (parts path).reverse with
  | [] => none
  | _ :: above =>
    match trimEnd above with
    | [] => some (if isAbsolute path then "/" else "")
    | ps => some (ofParts ps.reverse)

/-- A path and the paths of the directories above it, at most so many. -/
def ancestors : Nat → String → List String
  | 0, _ => []
  | n + 1, path =>
    path :: match parent? path with
      | some p => ancestors n p
      | none => []

/-- A path and the paths of all directories above it, the nearest first. -/
def withAncestors (path : String) : List String := ancestors ((parts path).length + 1) path

theorem names_ne_nil (s : List Char) : names s ≠ [] := by
  induction s with
  | nil => simp [names]
  | cons c s ih =>
    unfold names
    split
    · simp
    · split <;> simp

theorem names_append_slash (s t : List Char) : names (s ++ '/' :: t) = names s ++ names t := by
  induction s with
  | nil => simp [names]
  | cons c s ih =>
    rw [List.cons_append, names, names]
    by_cases hc : c = '/'
    · simp [hc, ih]
    · simp only [hc, if_false, ih]
      cases h : names s with
      | nil => exact absurd h (names_ne_nil s)
      | cons n ns => simp

end WalletTasks.Host.Path
