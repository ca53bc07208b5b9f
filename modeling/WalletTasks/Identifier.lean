import WalletTasks.Text.Hex

/-!
# Identifiers

Universally unique identifiers of 128 bits. They are written as five groups of small hexadecimal
digits with hyphens between them, and are read in four forms: that one, the same in braces, the
same behind `urn:uuid:`, and the bare 32 digits; the case of the digits does not matter.

* `read?_text`: an identifier is read back from its text.
-/

namespace WalletTasks

/-- A universally unique identifier. -/
structure Identifier where
  toNat : Nat
  isLt : toNat < 2 ^ 128 := by decide
deriving Repr

namespace Identifier

theorem ext {i j : Identifier} (h : i.toNat = j.toNat) : i = j := by
  cases i
  cases j
  cases h
  rfl

instance : DecidableEq Identifier :=
  fun i j => decidable_of_iff (i.toNat = j.toNat) ⟨ext, congrArg toNat⟩

theorem zero_lt : 0 < 2 ^ 128 := by decide

instance : Inhabited Identifier := ⟨⟨0, zero_lt⟩⟩

/-- Puts hyphens between the five groups of 32 digits. -/
def hyphenate (s : List Char) : List Char :=
  s.take 8 ++ '-' :: (s.drop 8).take 4 ++ '-' :: (s.drop 12).take 4 ++
    '-' :: (s.drop 16).take 4 ++ '-' :: s.drop 20

/-- Five groups of digits with hyphens between them. -/
def write (i : Identifier) : List Char := hyphenate (Text.writeHex 32 i.toNat)

/-- The text of an identifier. -/
def text (i : Identifier) : String := String.ofList i.write

instance : ToString Identifier := ⟨text⟩

/-- Reads 32 hexadecimal digits. -/
def readSimple (s : List Char) : Option Identifier :=
  if s.length = 32 then
    (Text.readHex s).bind fun n => if h : n < 2 ^ 128 then some ⟨n, h⟩ else none
  else none

/-- Reads 36 characters with hyphens at the four places between the groups. -/
def readHyphenated (s : List Char) : Option Identifier :=
  if s.length = 36 ∧ s[8]? = some '-' ∧ s[13]? = some '-' ∧ s[18]? = some '-' ∧
      s[23]? = some '-' then
    readSimple (s.take 8 ++ (s.drop 9).take 4 ++ (s.drop 14).take 4 ++ (s.drop 19).take 4 ++
      s.drop 24)
  else none

/-- The text in front of the hyphenated form in a resource name. -/
def urnStart : List Char := "urn:uuid:".toList

/-- Reads an identifier in any of its forms, told apart by their lengths. -/
def read (s : List Char) : Option Identifier :=
  match s.length with
  | 32 => readSimple s
  | 36 => readHyphenated s
  | 38 =>
    if s.head? = some '\x7b' ∧ s.getLast? = some '\x7d' then readHyphenated s.tail.dropLast
    else none
  | 45 => if s.take 9 = urnStart then readHyphenated (s.drop 9) else none
  | _ => none

/-- Reads an identifier from a string. -/
def read? (s : String) : Option Identifier := read s.toList

theorem length_hyphenate {s : List Char} (h : s.length = 32) : (hyphenate s).length = 36 := by
  simp [hyphenate, h]

theorem readHyphenated_hyphenate {s : List Char} (h : s.length = 32) :
    readHyphenated (hyphenate s) = readSimple s := by
  obtain ⟨a, t, rfl, ha⟩ : ∃ a u, s = a ++ u ∧ a.length = 8 :=
    ⟨s.take 8, s.drop 8, by simp, by simp [h]⟩
  obtain ⟨b, t, rfl, hb⟩ : ∃ b u, t = b ++ u ∧ b.length = 4 :=
    ⟨t.take 4, t.drop 4, by simp, by simp at h ⊢; omega⟩
  obtain ⟨c, t, rfl, hc⟩ : ∃ c u, t = c ++ u ∧ c.length = 4 :=
    ⟨t.take 4, t.drop 4, by simp, by simp at h ⊢; omega⟩
  obtain ⟨d, t, rfl, hd⟩ : ∃ d u, t = d ++ u ∧ d.length = 4 :=
    ⟨t.take 4, t.drop 4, by simp, by simp at h ⊢; omega⟩
  have ht : t.length = 12 := by simp at h; omega
  have hy : hyphenate (a ++ (b ++ (c ++ (d ++ t)))) =
      a ++ '-' :: b ++ '-' :: c ++ '-' :: d ++ '-' :: t := by
    simp [hyphenate, List.drop_append, List.drop_eq_nil_of_le, ha, hb, hc, hd]
  rw [hy]
  simp [readHyphenated, List.drop_append, List.drop_eq_nil_of_le, ha, hb, hc, hd, ht]

theorem read?_text (i : Identifier) : read? i.text = some i := by
  have hw : (Text.writeHex 32 i.toNat).length = 32 := Text.length_writeHex 32 i.toNat
  have hl : i.write.length = 36 := length_hyphenate hw
  have hr : read i.write = readHyphenated i.write := by simp [read, hl]
  rw [read?, text, String.toList_ofList, hr, write, readHyphenated_hyphenate hw, readSimple,
    if_pos hw, Text.readHex_writeHex (show i.toNat < 16 ^ 32 from i.isLt)]
  simp [i.isLt]

end Identifier

end WalletTasks
