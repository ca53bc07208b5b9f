import WalletTasks.Text.Labelled
import WalletTasks.Json.Source

/-!
# Decoding JSON

A decoder turns a tree as it was found into a value of a domain type, or names the first fault it
meets on the way: entries are taken in their order, and fields that are missing are only noticed
behind the last entry, in the order of their declaration. A record may also be written as an array
of its fields in that order.

A tree comes from a text or from a value that has already been read. The two differ where a reader
of text stops at a wrong character: it reports the text as malformed, where the same fault of a
value is a fault of its data.

* `Decoder`: a decoder of one type.
* `Fields`: the fields of a record, from which `Fields.decoder` makes a decoder.
* `choice`, `variants`: decoders of choices by label, without and with content.
-/

namespace WalletTasks.Json

/-- Why a tree does not stand for a value of the wanted type. -/
inductive DecodeError
  | flawed (f : Flaw)
  | wrongType
  | missingField (name : String)
  | duplicateField (name : String)
  | unknownVariant (found : String) (expected : List String)
  | rejected (reason : String)
deriving DecidableEq, Repr

/-- The three classes of faults: a text that ends early, one that is malformed, and a well-formed
one that denotes no value of the type. -/
inductive FaultClass
  | truncated
  | malformed
  | data
deriving DecidableEq, Repr

namespace DecodeError

def faultClass : DecodeError → FaultClass
  | flawed .truncated => .truncated
  | flawed .malformed => .malformed
  | _ => .data

/-- A name between backticks. -/
def ticked (s : String) : String := "\x60" ++ s ++ "\x60"

/-- The wording of the expected variants: two are joined by `or`, more are listed. -/
def expectedText : List String → String
  | [] => "there are no variants"
  | [a] => "expected " ++ ticked a
  | [a, b] => "expected " ++ ticked a ++ " or " ++ ticked b
  | names => "expected one of " ++ String.intercalate ", " (names.map ticked)

/-- The wording of a fault, for those that have one of their own. -/
def message? : DecodeError → Option String
  | missingField name => some ("missing field " ++ ticked name)
  | unknownVariant found expected =>
    some ("unknown variant " ++ ticked found ++ ", " ++ expectedText expected)
  | rejected reason => some reason
  | flawed _ | wrongType | duplicateField _ => none

end DecodeError

/-- Where a tree comes from. -/
inductive Origin
  | text
  | value
deriving DecidableEq, Repr

/-- Turns a tree of either origin into a value. -/
abbrev Decoder (α : Type) := Origin → Source → Except DecodeError α

namespace Decoder

variable {α β : Type}

/-- The fault of a tree that is no value of the wanted type: its own flaw, if it has one. -/
def mismatch : Source → DecodeError
  | .flawed f _ => .flawed f
  | .unreadable => .flawed .malformed
  | _ => .wrongType

/-- Decodes, then checks the value. -/
def refine (d : Decoder α) (f : α → Except DecodeError β) : Decoder β :=
  fun o s => (d o s).bind f

def map (f : α → β) (d : Decoder α) : Decoder β := fun o s => (d o s).map f

def string : Decoder String
  | _, .string s => .ok s
  | _, s => .error (mismatch s)

def bool : Decoder Bool
  | _, .bool b => .ok b
  | _, s => .error (mismatch s)

/-- A whole number from zero to below a bound. -/
def natBelow (bound : Nat) : Decoder { n : Nat // n < bound }
  | _, .whole n =>
    if h : 0 ≤ n ∧ n.toNat < bound then .ok ⟨n.toNat, h.2⟩ else .error .wrongType
  | _, s => .error (mismatch s)

def uint64 : Decoder UInt64 := map (fun n => UInt64.ofNatLT n.1 n.2) (natBelow UInt64.size)

def uint32 : Decoder UInt32 := map (fun n => UInt32.ofNatLT n.1 n.2) (natBelow UInt32.size)

/-- A value, or null for none. -/
def option (d : Decoder α) : Decoder (Option α)
  | _, .null => .ok none
  | o, s => (d o s).map some

/-- A string that a reader turns into a value. -/
def parsed (read? : String → Option α) : Decoder α :=
  refine string fun s =>
    match read? s with
    | some a => .ok a
    | none => .error .wrongType

/-- The fault behind the last entry of an array or object that is cut off. -/
def cutFault : Option Cut → Except DecodeError Unit
  | none => .ok ()
  | some c => .error (.flawed c.flaw)

/-- The items of an array, one by one. -/
def items (d : Decoder α) : Decoder (List α)
  | o, .array xs cut => do
    let ys ← xs.mapM (d o)
    cutFault cut
    pure ys
  | _, s => .error (mismatch s)

end Decoder

/-! ## Choices -/

section Choices

variable {α : Type}

/-- A place that starts with neither a string nor an object is malformed for who reads a choice
from text. -/
def choiceMismatch : Origin → Source → DecodeError
  | _, .flawed f false => .flawed f
  | _, .unreadable => .flawed .malformed
  | .text, _ => .flawed .malformed
  | .value, _ => .wrongType

/-- What follows the single field of an object that stands for a choice. -/
def afterChoice : Origin → List (Option String × Source) → Option Cut → Except DecodeError Unit
  | _, [], none => .ok ()
  | .text, [], some c => .error (.flawed (if c.afterComma then .malformed else c.flaw))
  | .text, _ :: _, _ => .error (.flawed .malformed)
  | .value, _, _ => .error .wrongType

/-- A choice by label, where `content` decodes what belongs to a label and `bare` says what the
label stands for alone. -/
def variants (labels : List String) (bare : String → Option (Except DecodeError α))
    (content : String → Option (Decoder α)) : Decoder α := fun o s =>
  let unknown (k : String) : DecodeError := .unknownVariant k labels
  match s with
  | .string k => (bare k).getD (.error (unknown k))
  | .object [] cut =>
    match o, cut with
    | .text, some c => .error (.flawed c.flaw)
    | .text, none => .error (.flawed .malformed)
    | .value, _ => .error .wrongType
  | .object ((none, _) :: _) _ => .error (.flawed .malformed)
  | .object ((some k, v) :: more) cut =>
    if o = .value ∧ more ≠ [] then .error .wrongType
    else
      match content k with
      | none => .error (unknown k)
      | some d => do
        let a ← d o v
        afterChoice o more cut
        pure a
  | s => .error (choiceMismatch o s)

/-- Nothing but null. -/
def nothing (a : α) : Decoder α
  | _, .null => .ok a
  | _, s => .error (Decoder.mismatch s)

/-- A choice of labels without content. -/
def choice (α : Type) [Labelled α] : Decoder α :=
  variants (Labelled.labels α) (fun k => (Labelled.ofLabel? k).map .ok)
    (fun k => (Labelled.ofLabel? k).map nothing)

end Choices

/-! ## Records -/

/-- The fields of a record of type `α`: how to decode one entry, in the order of declaration; what
stands for a field that is missing from an object or from the end of an array; and how the
collected entries make the record. -/
structure Fields (α : Type) where
  /-- The name of each field, and the check of an entry. -/
  checks : List (String × (Origin → Source → Except DecodeError Unit))
  /-- The record from the entries of an object. -/
  fromObject : (String → Option Source) → Origin → Except DecodeError α
  /-- The record from the items of an array; gives back the items that are left. -/
  fromArray : Option Cut → List Source → Origin → Except DecodeError (α × List Source)

namespace Fields

variable {α β : Type}

/-- No field. -/
protected def pure (a : α) : Fields α where
  checks := []
  fromObject _ _ := .ok a
  fromArray _ xs _ := .ok (a, xs)

/-- The fields of a function followed by those of its argument. -/
protected def seq (f : Fields (α → β)) (x : Fields α) : Fields β where
  checks := f.checks ++ x.checks
  fromObject entry o := do
    let g ← f.fromObject entry o
    let a ← x.fromObject entry o
    pure (g a)
  fromArray cut xs o := do
    let (g, xs) ← f.fromArray cut xs o
    let (a, xs) ← x.fromArray cut xs o
    pure (g a, xs)

instance : Applicative Fields where
  pure := Fields.pure
  seq f x := Fields.seq f (x ())

/-- A field with a decoder. `absent` stands for it when an object has no such field, and `short`
when an array ends in front of it. -/
def field (name : String) (d : Decoder α) (absent short : Except DecodeError α) : Fields α where
  checks := [(name, fun o s => (d o s).map fun _ => ())]
  fromObject entry o :=
    match entry name with
    | some s => d o s
    | none => absent
  fromArray cut xs o :=
    match xs with
    | s :: xs => (d o s).map fun a => (a, xs)
    | [] =>
      match cut with
      | some c => .error (.flawed c.flaw)
      | none => short.map fun a => (a, [])

/-- A field that has to be there. -/
def required (name : String) (d : Decoder α) : Fields α :=
  field name d (.error (.missingField name)) (.error .wrongType)

/-- A field with a value of its own when it is missing. -/
def withDefault (name : String) (d : Decoder α) (a : α) : Fields α :=
  field name d (.ok a) (.ok a)

/-- A field that may be null, or missing from an object, but not from an array. -/
def nullable (name : String) (d : Decoder α) : Fields (Option α) :=
  field name (Decoder.option d) (.ok none) (.error .wrongType)

/-- Takes the entries of an object one by one: unknown ones are skipped, and a known one must not
come twice. -/
def checkEntries (f : Fields α) (o : Origin) :
    List String → List (Option String × Source) → Except DecodeError Unit
  | _, [] => .ok ()
  | _, (none, _) :: _ => .error (.flawed .malformed)
  | seen, (some k, s) :: es =>
    match f.checks.find? fun c => c.1 == k with
    | none => checkEntries f o seen es
    | some c =>
      if seen.contains k then .error (.duplicateField k)
      else do
        c.2 o s
        checkEntries f o (k :: seen) es

/-- The decoder of a record with these fields. -/
def decoder (f : Fields α) : Decoder α := fun o s =>
  match s with
  | .object entries cut => do
    checkEntries f o [] entries
    Decoder.cutFault cut
    f.fromObject (fun k => (entries.find? fun e => e.1 == some k).map (·.2)) o
  | .array xs cut => do
    let (a, left) ← f.fromArray cut xs o
    match left, o with
    | [], _ => match cut with
      | none => pure a
      | some c => .error (.flawed (if c.afterComma then .malformed else c.flaw))
    | _ :: _, .text => .error (.flawed .malformed)
    | _ :: _, .value => .error .wrongType
  | s => .error (Decoder.mismatch s)

end Fields

/-- Decodes a whole text. -/
def decodeText {α : Type} (d : Decoder α) (text : String) : Except DecodeError α := do
  let doc := Source.read text.toList
  let a ← d .text doc.root
  match doc.trailing with
  | none => pure a
  | some f => .error (.flawed f)

/-- Decodes a value that has been read already. -/
def decodeValue {α : Type} (d : Decoder α) (j : Json) : Except DecodeError α := d .value j.source

theorem decodeText_eq_ok_iff {α : Type} {d : Decoder α} {text : String} {a : α} :
    decodeText d text = .ok a ↔
      d .text (Source.read text.toList).root = .ok a ∧
        (Source.read text.toList).trailing = none := by
  unfold decodeText
  simp only [bind, Except.bind]
  cases d .text (Source.read text.toList).root with
  | error e => simp
  | ok b => cases (Source.read text.toList).trailing <;> simp [pure, Except.pure]

end WalletTasks.Json
