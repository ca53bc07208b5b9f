import WalletTasks.Text.Bytes

/-!
# Environment variables

The variables of a process. A value is a sequence of bytes that is usually text; a variable whose
value is no text counts as set, but cannot be used.

* `get?_setUnlessText_of_ne`: setting a variable changes no other one.
* `setUnlessText_of_text`: a variable that has a text keeps it.
-/

namespace WalletTasks.Host

/-- The value of a variable. -/
inductive Value
  | text (s : String)
  | bytes (parts : List Text.Part)
deriving DecidableEq, Repr

/-- The value that a sequence of bytes is. -/
def Value.ofBytes (bs : List UInt8) : Value :=
  let ps := Text.parts bs
  match Text.textOf? ps with
  | some s => .text (String.ofList s)
  | none => .bytes ps

/-- A value as text, with a replacement character for every stray byte. -/
def Value.shown : Value → String
  | .text s => s
  | .bytes parts => String.ofList (parts.map fun
    | .char c => c
    | .stray _ => '\ufffd')

/-- The variables of a process, by name. -/
structure Variables where
  entries : List (String × Value)
deriving DecidableEq, Repr

namespace Variables

def empty : Variables := ⟨[]⟩

/-- The parts of a sequence of bytes between zeros. -/
def splitAtZero : List UInt8 → List (List UInt8)
  | [] => [[]]
  | b :: bs =>
    if b = 0 then [] :: splitAtZero bs
    else
      match splitAtZero bs with
      | [] => [[b]]
      | part :: parts => (b :: part) :: parts

/-- A variable as a system keeps it: a name, an equals sign and the value. -/
def ofAssignment? (bs : List UInt8) : Option (String × Value) :=
  match bs.dropWhile (· ≠ 61) with
  | _ :: value => some ((Value.ofBytes (bs.takeWhile (· ≠ 61))).shown, .ofBytes value)
  | [] => none

/-- The variables that a system keeps one behind the other, with a zero behind each. -/
def ofBlock (bs : List UInt8) : Variables := ⟨(splitAtZero bs).filterMap ofAssignment?⟩

def get? (vs : Variables) (name : String) : Option Value := vs.entries.lookup name

/-- The value of a variable that is set to a text. -/
def text? (vs : Variables) (name : String) : Option String :=
  match vs.get? name with
  | some (.text s) => some s
  | _ => none

/-- Sets a variable, whatever its value was. -/
def set (vs : Variables) (name : String) (v : Value) : Variables :=
  ⟨(name, v) :: vs.entries.filter fun x => x.1 ≠ name⟩

/-- Why a value cannot be given to a variable. -/
def refusal (name value : String) : String :=
  let shown (s : String) := Text.display (s.toList.map .char)
  "failed to set environment variable \x60" ++ shown name ++ "\x60 to \x60" ++ shown value ++
    "\x60: file name contained an unexpected NUL byte"

/-- Sets a variable unless it has a text. No value may hold the character NUL: the process does not
survive the attempt. -/
def setUnlessText (vs : Variables) (name value : String) : Except String Variables :=
  if (vs.text? name).isSome then .ok vs
  else if value.toList.contains '\x00' then .error (refusal name value)
  else .ok (vs.set name (.text value))

theorem lookup_filter_ne {name other : String} (h : other ≠ name) (xs : List (String × Value)) :
    (xs.filter fun x => x.1 ≠ name).lookup other = xs.lookup other := by
  induction xs with
  | nil => rfl
  | cons x xs ih =>
    obtain ⟨k, v⟩ := x
    by_cases hk : k = name
    · rw [List.filter_cons_of_neg (by simpa using hk), ih, List.lookup_cons]
      have hok : (other == k) = false := by simpa [hk] using h
      rw [hok]
    · rw [List.filter_cons_of_pos (by simpa using hk), List.lookup_cons, List.lookup_cons, ih]

theorem get?_set (vs : Variables) (name : String) (v : Value) :
    (vs.set name v).get? name = some v := by
  simp [get?, set]

theorem get?_set_of_ne (vs : Variables) {name other : String} (h : other ≠ name) (v : Value) :
    (vs.set name v).get? other = vs.get? other := by
  have hne : (other == name) = false := by simpa using h
  simp only [get?, set, List.lookup_cons, hne, lookup_filter_ne h]

theorem setUnlessText_of_text {vs : Variables} {name value s : String}
    (h : vs.text? name = some s) : vs.setUnlessText name value = .ok vs := by
  simp [setUnlessText, h]

theorem get?_setUnlessText_of_ne {vs vs' : Variables} {name other value : String}
    (h : vs.setUnlessText name value = .ok vs') (hne : other ≠ name) :
    vs'.get? other = vs.get? other := by
  unfold setUnlessText at h
  split at h
  · cases h; rfl
  · split at h
    · cases h
    · cases h; exact get?_set_of_ne vs hne _

/-- Setting a variable gives it a text. -/
theorem text?_of_setUnlessText {vs vs' : Variables} {name value : String}
    (h : vs.setUnlessText name value = .ok vs') :
    vs'.text? name = some ((vs.text? name).getD value) := by
  unfold setUnlessText at h
  split at h
  · next hs =>
    cases h
    obtain ⟨s, hs⟩ := Option.isSome_iff_exists.1 hs
    simp [hs]
  · next hs =>
    have hn : vs.text? name = none := by simpa using hs
    split at h
    · cases h
    · cases h
      rw [hn, text?, get?_set]
      rfl

/-- A text survives the setting of any variable. -/
theorem text?_setUnlessText {vs vs' : Variables} {name other value s : String}
    (h : vs.setUnlessText other value = .ok vs') (hs : vs.text? name = some s) :
    vs'.text? name = some s := by
  by_cases he : name = other
  · subst he
    rw [setUnlessText_of_text hs] at h
    cases h
    exact hs
  · rw [text?, get?_setUnlessText_of_ne h he]
    exact hs

end Variables

end WalletTasks.Host
