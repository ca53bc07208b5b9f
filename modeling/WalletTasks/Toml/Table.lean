/-!
# Tables

The values of a TOML document, and how its lines build the tables. How a table came to be decides
which lines may add to it: a table inside of a value is closed, one that dotted keys made is open
to dotted keys, one that a longer header implied may still get a header of its own, and one with a
header gets fields below that header only.

* `field?_insert_single`: a field that has been added is found.
* `insert_single_of_mem`: no field is added twice.
-/

namespace WalletTasks.Toml

/-- How a table came to be. -/
inductive Origin
  | inside
  | dotted
  | implied
  | headed
deriving DecidableEq, Repr

/-- A value. Fractions and times are kept as they are written. -/
inductive Value
  | text (s : String)
  | integer (n : Int)
  | fraction (s : String)
  | boolean (b : Bool)
  | time (s : String)
  | array (items : List Value)
  | table (origin : Origin) (fields : List (String × Value))
  | tables (items : List (List (String × Value)))

/-- The fields of a table, in the order in which they were added. -/
abbrev Fields := List (String × Value)

namespace Fields

def field? (fs : Fields) (key : String) : Option Value := fs.lookup key

/-- The fields with the value of a key replaced, or the key added at the end. -/
def put (fs : Fields) (key : String) (v : Value) : Fields :=
  match fs with
  | [] => [(key, v)]
  | (k, w) :: fs => if k = key then (key, v) :: fs else (k, w) :: put fs key v

/-- Changes the last of some tables. -/
def atLast (change : Fields → Option Fields) : List Fields → Option (List Fields)
  | [] => none
  | [fs] => (change fs).map ([·])
  | fs :: rest => (atLast change rest).map (fs :: ·)

/-- Adds a value under a dotted key. The tables on the way are made if they are missing; one that
only a header implied may be passed, but does not take the field itself. -/
def insert : List String → Value → Fields → Option Fields
  | [], _, _ => none
  | [key], v, fs =>
    match field? fs key with
    | none => some (put fs key v)
    | some _ => none
  | key :: next :: rest, v, fs =>
    match field? fs key with
    | none => (insert (next :: rest) v []).map fun inner => put fs key (.table .dotted inner)
    | some (.table .dotted inner) =>
      (insert (next :: rest) v inner).map fun inner => put fs key (.table .dotted inner)
    | some (.table .implied inner) =>
      if rest = [] then none
      else (insert (next :: rest) v inner).map fun inner => put fs key (.table .implied inner)
    | some (.tables items) =>
      if rest = [] then none
      else (atLast (insert (next :: rest) v) items).map fun items => put fs key (.tables items)
    | some _ => none

/-- Changes the table that a header leads to. The tables on the way are made if they are
missing. -/
def within (change : Fields → Option Fields) : List String → Fields → Option Fields
  | [], fs => change fs
  | key :: rest, fs =>
    match field? fs key with
    | none => (within change rest []).map fun inner => put fs key (.table .implied inner)
    | some (.table .inside _) => none
    | some (.table origin inner) =>
      (within change rest inner).map fun inner => put fs key (.table origin inner)
    | some (.tables items) =>
      (atLast (within change rest) items).map fun items => put fs key (.tables items)
    | some _ => none

/-- Opens the table of a key for a header. -/
def openTable (key : String) (fs : Fields) : Option Fields :=
  match field? fs key with
  | none => some (put fs key (.table .headed []))
  | some (.table .implied inner) => some (put fs key (.table .headed inner))
  | some _ => none

/-- Adds a table to the tables of a key for a header. -/
def openNext (key : String) (fs : Fields) : Option Fields :=
  match field? fs key with
  | none => some (put fs key (.tables [[]]))
  | some (.tables items) => some (put fs key (.tables (items ++ [[]])))
  | some _ => none

/-- Applies an operation on the last key of a header to the table that the keys before lead to. -/
def atHeader (operation : String → Fields → Option Fields) (header : List String) (fs : Fields) :
    Option Fields :=
  match header.getLast? with
  | some key => within (operation key) header.dropLast fs
  | none => none

theorem field?_put (fs : Fields) (key : String) (v : Value) :
    (put fs key v).field? key = some v := by
  induction fs with
  | nil => simp [put, field?]
  | cons f fs ih =>
    obtain ⟨k, w⟩ := f
    by_cases hk : k = key
    · simp [put, field?, hk]
    · have hne : (key == k) = false := by simpa using fun h : key = k => hk h.symm
      simp only [put, field?, hk, if_false, List.lookup_cons, hne]
      exact ih

theorem field?_put_of_ne {key other : String} (h : other ≠ key) (fs : Fields) (v : Value) :
    (put fs key v).field? other = fs.field? other := by
  have hne : (other == key) = false := by simpa using h
  induction fs with
  | nil => simp [put, field?, List.lookup_cons, hne]
  | cons f fs ih =>
    obtain ⟨k, w⟩ := f
    by_cases hk : k = key
    · subst hk
      simp [put, field?, List.lookup_cons, hne]
    · simp only [field?] at ih
      simp [put, field?, hk, List.lookup_cons, ih]

theorem field?_insert_single {fs fs' : Fields} {key : String} {v : Value}
    (h : insert [key] v fs = some fs') : fs'.field? key = some v := by
  unfold insert at h
  split at h
  · cases h; exact field?_put fs key v
  · cases h

theorem insert_single_of_mem {fs : Fields} {key : String} {v w : Value}
    (h : fs.field? key = some w) : insert [key] v fs = none := by
  simp [insert, h]

end Fields

end WalletTasks.Toml
