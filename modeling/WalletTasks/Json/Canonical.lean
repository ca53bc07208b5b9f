import WalletTasks.Json.Source

/-!
# Canonical order

A value is the same whatever the order of the fields of its objects. In canonical order the fields
of every object are sorted by their keys; of fields with one key the last one counts.

* `lookup_insertField`: a field that has been inserted is found.
-/

namespace WalletTasks.Json

/-- Inserts a field in the order of the keys; a key that is there already gets the new value. -/
def insertField {α : Type} (k : String) (v : α) : List (String × α) → List (String × α)
  | [] => [(k, v)]
  | (l, w) :: fs =>
    if k < l then (k, v) :: (l, w) :: fs
    else if k = l then (k, v) :: fs
    else (l, w) :: insertField k v fs

mutual

/-- A tree with the fields of every object in canonical order. -/
def Source.canonical : Source → Source
  | .array xs cut => .array (canonicalItems xs) cut
  | .object fs cut => .object ((canonicalFields fs []).map fun f => (some f.1, f.2)) cut
  | s => s

def canonicalItems : List Source → List Source
  | [] => []
  | x :: xs => x.canonical :: canonicalItems xs

/-- Adds fields in canonical order to fields that have been added already. -/
def canonicalFields : List (Option String × Source) → List (String × Source) →
    List (String × Source)
  | [], done => done
  | (some k, v) :: fs, done => canonicalFields fs (insertField k v.canonical done)
  | (none, _) :: fs, done => canonicalFields fs done

end

theorem lookup_insertField {α : Type} (k : String) (v : α) (fs : List (String × α)) :
    (insertField k v fs).lookup k = some v := by
  induction fs with
  | nil => simp [insertField]
  | cons f fs ih =>
    obtain ⟨l, w⟩ := f
    unfold insertField
    split
    · simp
    · split
      · simp
      · next hne =>
        have : (k == l) = false := by simpa using hne
        simp [List.lookup_cons, this, ih]

end WalletTasks.Json
