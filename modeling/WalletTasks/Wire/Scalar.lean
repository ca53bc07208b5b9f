import WalletTasks.Chain.Wei
import WalletTasks.Decimal.Text
import WalletTasks.Identifier
import WalletTasks.Json.Decode
import WalletTasks.Text.Blank
import WalletTasks.Time.Instant

/-!
# Stored form of the scalar types

Amounts in wei and decimals are stored as strings, so that a reader without wide numbers sees them
exactly; instants and identifiers are stored as their texts. A decimal is also read from a number.

* `readWei_text`: an amount is read back from its text.
-/

namespace WalletTasks.Wire

open Json

/-- An amount in decimal digits. -/
def wei (w : Wei) : Json := .string w.text

/-- The cause of a string that is no amount, with the string as it was found. -/
def weiFault (raw : String) (e : Text.NumeralError) : DecodeError :=
  .rejected ("invalid wei amount '" ++ raw ++ "': " ++ e.message)

/-- Reads an amount of wei: blanks around it do not count. -/
def readWei (raw : String) : Except Text.NumeralError Wei :=
  match Text.readNumeral (2 ^ 128) (Text.trim raw.toList) with
  | .error e => .error e
  | .ok n => if h : n < 2 ^ 128 then .ok ⟨n, h⟩ else .error .tooLarge

/-- The amount that a string holds. -/
def weiOfString (raw : String) : Except DecodeError Wei :=
  (readWei raw).mapError (weiFault raw)

def weiDecoder : Decoder Wei := Decoder.refine Decoder.string weiOfString

/-- An amount that may be null. -/
def optionalWeiDecoder : Decoder (Option Wei) :=
  Decoder.refine (Decoder.option Decoder.string) fun
    | none => .ok none
    | some raw => (weiOfString raw).map some

/-- A decimal in its own text. -/
def decimal (d : Decimal) : Json := .string (toString d)

/-- A decimal from its text, from a whole number, or from the shortest text of a number that is
not whole. -/
def decimalDecoder : Decoder Decimal
  | _, .string s =>
    match Decimal.read? s with
    | some d => .ok d
    | none => .error .wrongType
  | _, .whole n =>
    match Decimal.ofInt? n with
    | some d => .ok d
    | none => .error .wrongType
  | _, .real negative n e =>
    match Binary64.ofDigits n e with
    | none => .error .wrongType
    | some x =>
      match Decimal.readPlain (if negative then '-' :: x.write else x.write) with
      | some d => .ok d
      | none => .error .wrongType
  | _, s => .error (Decoder.mismatch s)

def instant (t : Instant) : Json := .string t.text

def instantDecoder : Decoder Instant := Decoder.parsed Instant.read?

def identifier (i : Identifier) : Json := .string i.text

def identifierDecoder : Decoder Identifier := Decoder.parsed Identifier.read?

/-- A choice by its label. -/
def labelled {α : Type} [Labelled α] (a : α) : Json := .string (Labelled.label a)

def uint64 (n : UInt64) : Json := .nat n.toNat

theorem readWei_text (w : Wei) : readWei w.text = .ok w := by
  have ht : Text.trim (Text.digits w.toNat) = Text.digits w.toNat := by
    apply Text.trim_of_noBlankEnds
    · intro c hc
      exact Text.isBlank_of_isDigit (Text.isDigit_of_mem_digits _ c (List.mem_of_mem_head? hc))
    · intro c hc
      exact Text.isBlank_of_isDigit (Text.isDigit_of_mem_digits _ c (List.mem_of_mem_getLast? hc))
  rw [readWei, Wei.text, Text.decimal, String.toList_ofList, ht, Text.read_digits w.isLt]
  simp [w.isLt]

end WalletTasks.Wire
