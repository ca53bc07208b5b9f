/-!
# Blank characters and letter case

Rules of text that the rest of the library shares: which characters count as blank (the Unicode
property White_Space), how names are compared up to ASCII case, and the mark in front of a file.

* `isBlank_of_isWhitespace`: every character that core calls whitespace is blank.
* `trim_of_noBlankEnds`: text without a blank at either end is left alone.
* `trim_eq_of_pads`, `pads_trim`: trimming takes the blanks off both ends, and nothing else.
-/

namespace WalletTasks.Text

/-- The code points with the Unicode property White_Space. -/
def blankCodes : List Nat :=
  [0x9, 0xA, 0xB, 0xC, 0xD, 0x20, 0x85, 0xA0, 0x1680, 0x2000, 0x2001, 0x2002, 0x2003, 0x2004,
   0x2005, 0x2006, 0x2007, 0x2008, 0x2009, 0x200A, 0x2028, 0x2029, 0x202F, 0x205F, 0x3000]

/-- Whether a character has the Unicode property White_Space. -/
def isBlank (c : Char) : Bool := blankCodes.contains c.toNat

/-- Text without the blanks in front. -/
def trimLeft (s : List Char) : List Char := s.dropWhile isBlank

/-- Text without the blanks behind. -/
def trimRight (s : List Char) : List Char := (s.reverse.dropWhile isBlank).reverse

/-- Text without the blanks at both ends. -/
def trim (s : List Char) : List Char := trimRight (trimLeft s)

/-- A string without the blanks at both ends. -/
def trimString (s : String) : String := String.ofList (trim s.toList)

/-- Whether a string holds nothing but blanks. -/
def allBlank (s : String) : Bool := s.toList.all isBlank

/-- A text without the byte order mark that may stand in front of it. -/
def withoutMark : List Char → List Char
  | '\ufeff' :: s => s
  | s => s

/-- An ASCII capital becomes its small letter and every other character stays. -/
def lowerAscii (c : Char) : Char :=
  if 'A' ≤ c ∧ c ≤ 'Z' then Char.ofNat (c.toNat + 32) else c

/-- Equality up to the case of ASCII letters. -/
def eqIgnoreCase (s t : String) : Bool := s.toList.map lowerAscii == t.toList.map lowerAscii

theorem isBlank_of_isWhitespace {c : Char} (h : c.isWhitespace = true) : isBlank c = true := by
  simp only [Char.isWhitespace, Bool.or_eq_true, decide_eq_true_eq] at h
  rcases h with ((rfl | rfl) | rfl) | rfl <;> rfl

theorem trimLeft_of_head {c : Char} {s : List Char} (h : isBlank c = false) :
    trimLeft (c :: s) = c :: s := by
  simp [trimLeft, h]

theorem trim_of_noBlankEnds {s : List Char} (hl : ∀ c ∈ s.head?, isBlank c = false)
    (hr : ∀ c ∈ s.getLast?, isBlank c = false) : trim s = s := by
  cases s with
  | nil => rfl
  | cons c t =>
    have hc : isBlank c = false := hl c (by simp)
    rw [trim, trimLeft_of_head hc, trimRight]
    cases h : (c :: t).reverse with
    | nil => simp at h
    | cons d u =>
      have hd : isBlank d = false := by
        apply hr d
        rw [← List.head?_reverse, h]
        simp
      rw [List.dropWhile_cons_of_neg (by simp [hd]), ← h, List.reverse_reverse]

/-- A text stands between blanks. -/
def Pads (inner s : List Char) : Prop :=
  ∃ before after, s = before ++ (inner ++ after) ∧ (∀ c ∈ before, isBlank c = true) ∧
    ∀ c ∈ after, isBlank c = true

theorem pads_trim (s : List Char) : Pads (trim s) s := by
  refine ⟨s.takeWhile isBlank, ((trimLeft s).reverse.takeWhile isBlank).reverse, ?_, ?_, ?_⟩
  · rw [trim, trimRight, ← List.reverse_append, List.takeWhile_append_dropWhile,
      List.reverse_reverse, trimLeft, List.takeWhile_append_dropWhile]
  · exact fun c hc => List.all_eq_true.1 List.all_takeWhile c hc
  · intro c hc
    exact List.all_eq_true.1 List.all_takeWhile c (List.mem_reverse.1 hc)

theorem trimRight_append {s after : List Char} (h : ∀ c ∈ after, isBlank c = true) :
    trimRight (s ++ after) = trimRight s := by
  rw [trimRight, List.reverse_append,
    List.dropWhile_append_of_pos fun c hc => h c (List.mem_reverse.1 hc), trimRight]

theorem trim_eq_of_pads {inner s : List Char} (h : Pads inner s)
    (hinner : ∀ c ∈ inner, isBlank c = false) : trim s = inner := by
  obtain ⟨before, after, rfl, hbefore, hafter⟩ := h
  have hleft : trim (before ++ (inner ++ after)) = trim (inner ++ after) := by
    rw [trim, trimLeft, List.dropWhile_append_of_pos hbefore]
    rfl
  rw [hleft]
  cases inner with
  | nil =>
    have hnil : after.dropWhile isBlank = [] := by
      have happended : (after ++ []).dropWhile isBlank = [] := List.dropWhile_append_of_pos hafter
      rwa [List.append_nil] at happended
    rw [List.nil_append, trim, trimLeft, hnil]
    rfl
  | cons c t =>
    have hc : isBlank c = false := hinner c List.mem_cons_self
    have htrim : trim (c :: t) = c :: t := trim_of_noBlankEnds
      (fun d hd => hinner d (List.mem_of_mem_head? hd))
      fun d hd => hinner d (List.mem_of_mem_getLast? hd)
    rw [trim, trimLeft_of_head hc] at htrim
    rw [List.cons_append, trim, trimLeft_of_head hc, ← List.cons_append, trimRight_append hafter]
    exact htrim

end WalletTasks.Text
