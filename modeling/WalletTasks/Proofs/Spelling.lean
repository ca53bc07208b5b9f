import WalletTasks.Toml.Text
import WalletTasks.Toml.Writer
import Mathlib.Tactic.SplitIfs

/-!
# How a written text is read

A text is written in one of four forms, and each of them is read as the text. Between basic marks
every character stands for itself or has an escape. Over several lines up to two marks in a row
stand in the text; the reader sees three marks in a row only where the text ends, perhaps with up to
two marks of its own in front of the closing ones.

* `readBasic_writeBasic`, `readLiteral_append`: what stands between the marks is read as it was.
* `readText_writeText`: a written text is read back, in whichever form it was written.
-/

namespace WalletTasks.Toml

variable {c mark : Char} {s t r : List Char} {lines : Bool} {run k : Nat}

/-! ## Marks in a row -/

theorem countMarks_of_head (h : s.head? ≠ some mark) : countMarks mark s = 0 := by
  cases s with
  | nil => rfl
  | cons c s => exact if_neg fun hc => h (by rw [hc]; rfl)

theorem countMarks_cons_self (mark : Char) (s : List Char) :
    countMarks mark (mark :: s) = countMarks mark s + 1 := if_pos rfl

/-- A run of marks is counted to its end. -/
theorem countMarks_replicate (h : r.head? ≠ some mark) (k : Nat) :
    countMarks mark (List.replicate k mark ++ r) = k := by
  induction k with
  | zero => exact countMarks_of_head h
  | succ k ih => rw [List.replicate_succ, List.cons_append, countMarks_cons_self, ih]

/-- How many marks close a text, in one line or over several. -/
def closingCount (lines : Bool) : Nat := if lines then 3 else 1

/-- Too few marks in a row close nothing. -/
theorem close?_eq_none (h : countMarks mark s < closingCount lines) :
    close? lines mark s = none := by
  unfold close?
  cases lines with
  | false => exact if_pos (Nat.lt_one_iff.1 h)
  | true => exact if_pos h

/-- Marks of the text in front of the closing ones, of which there are fewer, belong to it. -/
theorem close?_closing (h : r.head? ≠ some mark) (hk : k < closingCount lines) :
    close? lines mark (List.replicate k mark ++ (List.replicate (closingCount lines) mark ++ r)) =
      some (k, r) := by
  have hcount := countMarks_replicate h (k + closingCount lines)
  rw [← List.append_assoc, List.replicate_append_replicate]
  cases lines with
  | false =>
    obtain rfl : k = 0 := Nat.lt_one_iff.1 hk
    simp only [close?, hcount]
    rfl
  | true =>
    have hlt : k < 3 := hk
    -- five marks are two of the text and the three that close it
    have hmin : min (k + closingCount true) 5 = k + 3 := Nat.min_eq_left (by
      simp only [closingCount, if_true]
      omega)
    have hdrop : (List.replicate (k + 3) mark ++ r).drop (k + 3) = r :=
      List.drop_left' List.length_replicate
    simp only [close?, hcount, hmin, if_true]
    rw [if_neg (by simp [closingCount])]
    simp only [closingCount, if_true, hdrop, Nat.add_sub_cancel]

/-- There is a mark where a text ends. -/
theorem closing_eq_cons (mark : Char) (r : List Char) (hk : k < closingCount lines) :
    ∃ c t, List.replicate k mark ++ (List.replicate (closingCount lines) mark ++ r) = c :: t := by
  obtain ⟨n, hn⟩ := Nat.exists_eq_succ_of_ne_zero (Nat.ne_zero_of_lt hk)
  rw [hn]
  cases k with
  | zero => exact ⟨_, _, rfl⟩
  | succ k => exact ⟨_, _, rfl⟩

/-! ## Basic text -/

/-- A character between basic marks, unless it is a mark that stands for itself. -/
def spelled (lines : Bool) (c : Char) : List Char :=
  if c = '"' then ['\\', '"']
  else if c = '\x08' then ['\\', 'b']
  else if c = '\t' then ['\\', 't']
  else if c = '\n' then if lines then ['\n'] else ['\\', 'n']
  else if c = '\x0c' then ['\\', 'f']
  else if c = '\r' then ['\\', 'r']
  else if c = '\\' then ['\\', '\\']
  else if isControl c then codeEscape c
  else [c]

/-- Up to two marks in a row stand for themselves over several lines, and all else is spelled. -/
theorem writeBasic_cons (lines : Bool) (run : Nat) (c : Char) (s : List Char) :
    writeBasic lines run (c :: s) =
      if c = '"' ∧ lines = true ∧ run < 2 then c :: writeBasic lines (run + 1) s
      else spelled lines c ++ writeBasic lines 0 s := by
  unfold spelled
  rw [writeBasic]
  split_ifs <;> first | rfl | simp_all

/-- No character is spelled with a mark in front. -/
theorem head?_spelled (lines : Bool) (c : Char) (t : List Char) :
    (spelled lines c ++ t).head? ≠ some '"' := by
  unfold spelled
  split_ifs <;> simp_all [codeEscape]

/-- What is no control is plain, but for the newline. -/
theorem isPlain_of_not_isControl (hcontrol : ¬isControl c = true) (hc : c ≠ '\n') :
    isPlain c = true := by
  by_cases htab : c = '\t'
  · simp [isPlain, htab]
  · simp only [isControl, isPlain, htab, hc, Bool.or_eq_true, Bool.and_eq_true,
      decide_eq_true_eq, not_or, ne_eq, not_false_eq_true, and_true, false_or] at hcontrol ⊢
    omega

theorem close?_of_head (h : s.head? ≠ some mark) (lines : Bool) : close? lines mark s = none := by
  refine close?_eq_none ?_
  rw [countMarks_of_head h]
  cases lines <;> decide

/-- A character stands for itself where no text is closed. -/
theorem readBasic_plain (hclose : close? lines '"' (c :: t) = none) (hbackslash : c ≠ '\\')
    (hplain : isPlain c = true ∨ lines = true ∧ c = '\n') :
    readBasic lines .none (c :: t) = (readBasic lines .none t).map fun r => (c :: r.1, r.2) := by
  simp only [readBasic, hclose, hbackslash, if_false]
  rcases hplain with hplain | hnewline
  · rw [if_pos hplain]
  · rw [if_pos hnewline, ite_self]

/-- A backslash starts an escape. -/
theorem readBasic_backslash (t : List Char) :
    readBasic lines .none ('\\' :: t) = readBasic lines .started t := by
  simp only [readBasic, close?_of_head (show ('\\' :: t).head? ≠ some '"' by simp), if_true]

/-- An escaped character is read as what it stands for. -/
theorem readBasic_escape {d : Char} (hd : escaped? d = some c) (t : List Char) :
    readBasic lines .none ('\\' :: d :: t) =
      (readBasic lines .none t).map fun r => (c :: r.1, r.2) := by
  rw [readBasic_backslash]
  simp only [readBasic, hd]

theorem hexValue?_toUpper {d : Nat} (h : d < 16) :
    Text.hexValue? (Text.hexChar d).toUpper = some d := by
  have : ∀ d, d < 16 → Text.hexValue? (Text.hexChar d).toUpper = some d := by decide
  exact this d h

theorem charOfCode?_toNat (c : Char) : charOfCode? c.toNat = some c := by
  have hvalid : c.toNat.isValidChar := c.valid
  rw [charOfCode?, dif_pos hvalid]
  rfl

/-- A digit of a code is read, and more are to come. -/
theorem readBasic_digit {d left value : Nat} (h : d < 16) (t : List Char) :
    readBasic lines (.code (left + 1) value) ((Text.hexChar d).toUpper :: t) =
      readBasic lines (.code left (value * 16 + d)) t := by
  simp only [readBasic, hexValue?_toUpper h]

/-- The last digit of a code is read. -/
theorem readBasic_lastDigit {d value : Nat} (h : d < 16) (hc : value * 16 + d = c.toNat)
    (t : List Char) :
    readBasic lines (.code 0 value) ((Text.hexChar d).toUpper :: t) =
      (readBasic lines .none t).map fun r => (c :: r.1, r.2) := by
  simp only [readBasic, hexValue?_toUpper h, hc, charOfCode?_toNat]

/-- A control is read back from its code. -/
theorem readBasic_codeEscape (hc : isControl c = true) (t : List Char) :
    readBasic lines .none (codeEscape c ++ t) =
      (readBasic lines .none t).map fun r => (c :: r.1, r.2) := by
  have hlt : c.toNat < 128 := by
    simp only [isControl, Bool.or_eq_true, Bool.and_eq_true, decide_eq_true_eq] at hc
    omega
  have hmod : ∀ n, n % 16 < 16 := fun n => Nat.mod_lt n (by decide)
  have hstarted : ∀ t, readBasic lines .started ('u' :: t) = readBasic lines (.code 3 0) t := by
    intro t
    rw [readBasic]
    rfl
  unfold codeEscape
  rw [List.cons_append, List.cons_append, readBasic_backslash, hstarted]
  simp only [Text.writeHex, List.nil_append, List.cons_append, List.map_cons, List.map_nil]
  rw [readBasic_digit (hmod _), readBasic_digit (hmod _), readBasic_digit (hmod _),
    readBasic_lastDigit (hmod _)]
  omega

/-- A character is read back from how it is spelled. -/
theorem readBasic_spelled (lines : Bool) (c : Char) (t : List Char) :
    readBasic lines .none (spelled lines c ++ t) =
      (readBasic lines .none t).map fun r => (c :: r.1, r.2) := by
  have hhead := head?_spelled lines c t
  unfold spelled at hhead ⊢
  split_ifs at hhead ⊢ with hmark hbackspace htab hnewline hlines hfeed hreturn hbackslash hcontrol
  · exact readBasic_escape (by rw [hmark]; rfl) t
  · exact readBasic_escape (by rw [hbackspace]; rfl) t
  · exact readBasic_escape (by rw [htab]; rfl) t
  · rw [hnewline]
    exact readBasic_plain (close?_of_head (by simp) lines) (by decide) (.inr ⟨hlines, rfl⟩)
  · exact readBasic_escape (by rw [hnewline]; rfl) t
  · exact readBasic_escape (by rw [hfeed]; rfl) t
  · exact readBasic_escape (by rw [hreturn]; rfl) t
  · exact readBasic_escape (by rw [hbackslash]; rfl) t
  · exact readBasic_codeEscape hcontrol t
  · exact readBasic_plain (close?_of_head hhead lines) hbackslash
      (.inl (isPlain_of_not_isControl hcontrol hnewline))

/-- A text that is written between basic marks ends with marks that stand for themselves, fewer than
close it, or there are too few marks in a row at its start to close it. -/
theorem marks_writeBasic (hrun : run < closingCount lines) (s : List Char) :
    (∃ k, s = List.replicate k '"' ∧ writeBasic lines run s = List.replicate k '"' ∧
        run + k < closingCount lines) ∨
      ∀ r, run + countMarks '"' (writeBasic lines run s ++ r) < closingCount lines := by
  -- over the text, with the run of marks just written; an escape ends the run
  induction s generalizing run with
  | nil => exact .inl ⟨0, rfl, rfl, hrun⟩
  | cons c s ih =>
    rw [writeBasic_cons]
    split_ifs with hmark
    · obtain ⟨rfl, rfl, hlt⟩ := hmark
      have hnext : run + 1 < closingCount true := by
        simp only [closingCount, if_true]
        omega
      rcases ih hnext with ⟨k, rfl, hwritten, hk⟩ | hinside
      · exact .inl ⟨k + 1, rfl, by rw [hwritten]; rfl, by omega⟩
      · refine .inr fun r => ?_
        have := hinside r
        rw [List.cons_append, countMarks_cons_self]
        omega
    · refine .inr fun r => ?_
      rw [List.append_assoc, countMarks_of_head (head?_spelled lines c _)]
      exact hrun

/-- The marks at the end of a text are read up to the closing ones. -/
theorem readBasic_closing (hr : r.head? ≠ some '"') (hk : k < closingCount lines) :
    readBasic lines .none
      (List.replicate k '"' ++ (List.replicate (closingCount lines) '"' ++ r)) =
        some (List.replicate k '"', r) := by
  have hclose := close?_closing hr hk
  obtain ⟨c, t, heq⟩ := closing_eq_cons '"' r hk
  rw [heq] at hclose ⊢
  simp only [readBasic, hclose]

/-- **What is written between basic marks is read as it was.** -/
theorem readBasic_writeBasic (hr : r.head? ≠ some '"') (hrun : run < closingCount lines)
    (s : List Char) :
    readBasic lines .none
      (writeBasic lines run s ++ (List.replicate (closingCount lines) '"' ++ r)) = some (s, r) := by
  induction s generalizing run with
  | nil => exact readBasic_closing hr (Nat.lt_of_le_of_lt (Nat.zero_le run) hrun)
  | cons c s ih =>
    -- a text of marks only runs into the closing ones, any other keeps its runs short
    rcases marks_writeBasic hrun (c :: s) with ⟨k, hs, hwritten, hk⟩ | hinside
    · rw [hwritten, hs]
      exact readBasic_closing hr (by omega)
    · rw [writeBasic_cons] at hinside ⊢
      split_ifs at hinside ⊢ with hmark
      · -- a mark that stands for itself, and does not close the text
        obtain ⟨rfl, rfl, hlt⟩ := hmark
        have hnext : run + 1 < closingCount true := by
          simp only [closingCount, if_true]
          omega
        rw [List.cons_append, readBasic_plain _ (by decide) (.inl rfl), ih hnext]
        · rfl
        · refine close?_eq_none ?_
          have := hinside (List.replicate (closingCount true) '"' ++ r)
          rw [List.cons_append] at this
          omega
      · have hzero : 0 < closingCount lines := Nat.lt_of_le_of_lt (Nat.zero_le run) hrun
        rw [List.append_assoc, readBasic_spelled, ih hzero]
        rfl

/-! ## Literal text -/

/-- A text between literal marks ends with marks of its own, fewer than close it, or there are too
few marks in a row at its start to close it. -/
theorem marks_literal (hrun : run < closingCount lines)
    (hlongest : longestRun mark run s < closingCount lines) :
    (∃ k, s = List.replicate k mark ∧ run + k < closingCount lines) ∨
      ∀ r, run + countMarks mark (s ++ r) < closingCount lines := by
  induction s generalizing run with
  | nil => exact .inl ⟨0, rfl, hrun⟩
  | cons c s ih =>
    rw [longestRun] at hlongest
    split_ifs at hlongest with hmark
    · subst hmark
      have hnext : run + 1 < closingCount lines := by omega
      have hrest : longestRun c (run + 1) s < closingCount lines := by omega
      rcases ih hnext hrest with ⟨k, rfl, hk⟩ | hinside
      · exact .inl ⟨k + 1, rfl, by omega⟩
      · refine .inr fun r => ?_
        have := hinside r
        rw [List.cons_append, countMarks_cons_self]
        omega
    · refine .inr fun r => ?_
      rw [List.cons_append, countMarks_of_head (by simpa using hmark)]
      exact hrun

theorem readLiteral_closing (hr : r.head? ≠ some '\'') (hk : k < closingCount lines) :
    readLiteral lines
      (List.replicate k '\'' ++ (List.replicate (closingCount lines) '\'' ++ r)) =
        some (List.replicate k '\'', r) := by
  have hclose := close?_closing hr hk
  obtain ⟨c, t, heq⟩ := closing_eq_cons '\'' r hk
  rw [heq] at hclose ⊢
  simp only [readLiteral, hclose]

/-- A character stands for itself where no text is closed. -/
theorem readLiteral_plain (hclose : close? lines '\'' (c :: t) = none)
    (hplain : isPlain c = true ∨ lines = true ∧ c = '\n') :
    readLiteral lines (c :: t) = (readLiteral lines t).map fun r => (c :: r.1, r.2) := by
  simp only [readLiteral, hclose]
  rcases hplain with hplain | hnewline
  · rw [if_pos hplain]
  · rw [if_pos hnewline, ite_self]

/-- **What stands between literal marks is read as it is**, if it may stand there. -/
theorem readLiteral_append (hr : r.head? ≠ some '\'') (hrun : run < closingCount lines)
    (hlongest : longestRun '\'' run s < closingCount lines)
    (hs : ∀ c ∈ s, isPlain c = true ∨ lines = true ∧ c = '\n') :
    readLiteral lines (s ++ (List.replicate (closingCount lines) '\'' ++ r)) = some (s, r) := by
  induction s generalizing run with
  | nil => exact readLiteral_closing hr (Nat.lt_of_le_of_lt (Nat.zero_le run) hrun)
  | cons c s ih =>
    obtain ⟨hc, hs⟩ := List.forall_mem_cons.1 hs
    rcases marks_literal hrun hlongest with ⟨k, heq, hk⟩ | hinside
    · rw [heq]
      exact readLiteral_closing hr (by omega)
    · have hfew := hinside (List.replicate (closingCount lines) '\'' ++ r)
      rw [List.cons_append] at hfew ⊢
      rw [readLiteral_plain (close?_eq_none (by omega)) hc]
      rw [longestRun] at hlongest
      split_ifs at hlongest with hmark
      · have hnext : run + 1 < closingCount lines := by
          rw [hmark, countMarks_cons_self] at hfew
          omega
        rw [ih hnext (by omega) hs]
        rfl
      · rw [ih (Nat.lt_of_le_of_lt (Nat.zero_le run) hrun) hlongest hs]
        rfl

/-! ## The four forms -/

theorem not_isControl_of_any (h : s.any isControl = false) (hc : c ∈ s) : ¬isControl c = true :=
  fun hcontrol => by
    rw [List.any_eq_false] at h
    exact h c hc hcontrol

/-- A text in literal form has no controls, no newline and no literal mark. -/
theorem formOf_eq_literal (h : formOf s = .literal) :
    s.any isControl = false ∧ longestRun '\'' 0 s = 0 ∧ '\n' ∉ s := by
  unfold formOf at h
  simp only at h
  split_ifs at h
  simp_all

/-- A text in literal form over several lines has no controls and few literal marks in a row. -/
theorem formOf_eq_literalLines (h : formOf s = .literalLines) :
    s.any isControl = false ∧ longestRun '\'' 0 s ≤ 2 := by
  unfold formOf at h
  simp only at h
  split_ifs at h
  simp_all

/-- One basic mark opens a text in one line, unless two more follow. -/
theorem readText_basic (h : ∀ t', t ≠ '"' :: '"' :: t') :
    readText ('"' :: t) = readBasic false .none t := by
  unfold readText
  split
  · rename_i heq
    cases heq
    exact absurd rfl (h _)
  · rename_i heq
    cases heq
  · rfl

/-- One literal mark opens a text in one line, unless two more follow. -/
theorem readText_literal (h : ∀ t', t ≠ '\'' :: '\'' :: t') :
    readText ('\'' :: t) = readLiteral false t := by
  unfold readText
  split
  · rename_i heq
    cases heq
  · rename_i heq
    cases heq
    exact absurd rfl (h _)
  · rfl

theorem afterOpening_of_head (hnewline : t.head? ≠ some '\n') (hreturn : t.head? ≠ some '\r') :
    afterOpening t = t := by
  unfold afterOpening
  split
  · exact absurd rfl hnewline
  · exact absurd rfl hreturn
  · rfl

/-- The newline behind the opening marks is there if the text has one, and does not count. -/
theorem afterOpening_opening (h : '\n' ∉ s → t.head? ≠ some '\n' ∧ t.head? ≠ some '\r') :
    afterOpening ((if s.contains '\n' then ['\n'] else []) ++ t) = t := by
  by_cases hnewline : '\n' ∈ s
  · rw [if_pos (by simpa using hnewline)]
    rfl
  · rw [if_neg (by simpa using hnewline), List.nil_append]
    exact afterOpening_of_head (h hnewline).1 (h hnewline).2

/-- No character but the newline is spelled with the end of a line in front. -/
theorem head?_spelled_ne (hc : c ≠ '\n') (t : List Char) :
    (spelled lines c ++ t).head? ≠ some '\n' ∧ (spelled lines c ++ t).head? ≠ some '\r' := by
  unfold spelled
  split_ifs <;> simp_all [codeEscape]

/-- A text without a newline is written without the end of a line in front. -/
theorem head?_writeBasic_ne (hnewline : '\n' ∉ s) (t : List Char) :
    (writeBasic lines run s ++ '"' :: t).head? ≠ some '\n' ∧
      (writeBasic lines run s ++ '"' :: t).head? ≠ some '\r' := by
  cases s with
  | nil => simp [writeBasic]
  | cons c s =>
    rw [writeBasic_cons]
    split_ifs with hmark
    · rw [hmark.1]
      simp
    · rw [List.append_assoc]
      exact head?_spelled_ne (fun hc => hnewline (by rw [hc]; exact List.mem_cons_self)) _

/-- The one-line basic form is read back, whatever is written in it. -/
theorem readText_basicForm (hr : r.head? ≠ some '"') (s : List Char) :
    readText ('"' :: (writeBasic false 0 s ++ ('"' :: r))) = some (s, r) := by
  have hzero : 0 < closingCount false := Nat.zero_lt_succ 0
  have hread : readBasic false .none (writeBasic false 0 s ++ ('"' :: r)) = some (s, r) :=
    readBasic_writeBasic hr hzero s
  rw [readText_basic, hread]
  intro t' heq
  cases s with
  | nil => exact hr (by rw [(List.cons.inj heq).2]; rfl)
  | cons c s =>
    rw [writeBasic_cons, if_neg (by simp), List.append_assoc] at heq
    exact head?_spelled false c _ (by rw [heq]; rfl)

/-- The one-line literal form is read back for a text that takes it. -/
theorem readText_literalForm (hr : r.head? ≠ some '\'') (h : formOf s = .literal) :
    readText ('\'' :: (s ++ ('\'' :: r))) = some (s, r) := by
  obtain ⟨hcontrol, hrun, hnewline⟩ := formOf_eq_literal h
  have hplain : ∀ c ∈ s, isPlain c = true ∨ false = true ∧ c = '\n' := fun c hc =>
    .inl (isPlain_of_not_isControl (not_isControl_of_any hcontrol hc)
      fun heq => hnewline (heq ▸ hc))
  have hzero : 0 < closingCount false := Nat.zero_lt_succ 0
  have hlongest : longestRun '\'' 0 s < closingCount false := by
    rw [hrun]
    exact hzero
  have hread : readLiteral false (s ++ ('\'' :: r)) = some (s, r) :=
    readLiteral_append hr hzero hlongest hplain
  rw [readText_literal, hread]
  -- two marks in front would open the form over several lines
  intro t' heq
  cases s with
  | nil => exact hr (by rw [(List.cons.inj heq).2]; rfl)
  | cons c s =>
    rw [List.cons_append] at heq
    rw [longestRun, if_pos (List.cons.inj heq).1] at hrun
    omega

/-- The basic form over several lines is read back. -/
theorem readText_basicLinesForm (hr : r.head? ≠ some '"') (s : List Char) :
    readText (opening '"' s ++ (writeBasic true 0 s ++ (List.replicate 3 '"' ++ r))) =
      some (s, r) := by
  have hzero : 0 < closingCount true := Nat.zero_lt_succ 2
  have hread : readBasic true .none (writeBasic true 0 s ++ (List.replicate 3 '"' ++ r)) =
      some (s, r) := readBasic_writeBasic hr hzero s
  rw [← hread, opening, List.append_assoc]
  exact congrArg (readBasic true .none)
    (afterOpening_opening fun hnewline => head?_writeBasic_ne hnewline _)

/-- The literal form over several lines is read back for a text that takes it. -/
theorem readText_literalLinesForm (hr : r.head? ≠ some '\'') (h : formOf s = .literalLines) :
    readText (opening '\'' s ++ (s ++ (List.replicate 3 '\'' ++ r))) = some (s, r) := by
  obtain ⟨hcontrol, hrun⟩ := formOf_eq_literalLines h
  have hplain : ∀ c ∈ s, isPlain c = true ∨ true = true ∧ c = '\n' := fun c hc => by
    by_cases hnewline : c = '\n'
    · exact .inr ⟨rfl, hnewline⟩
    · exact .inl (isPlain_of_not_isControl (not_isControl_of_any hcontrol hc) hnewline)
  have hzero : 0 < closingCount true := Nat.zero_lt_succ 2
  have hlongest : longestRun '\'' 0 s < closingCount true := Nat.lt_succ_of_le hrun
  have hread : readLiteral true (s ++ (List.replicate 3 '\'' ++ r)) = some (s, r) :=
    readLiteral_append hr hzero hlongest hplain
  -- a text without a newline starts on the line of the marks, and no newline may be eaten there
  have hhead : '\n' ∉ s → (s ++ (List.replicate 3 '\'' ++ r)).head? ≠ some '\n' ∧
      (s ++ (List.replicate 3 '\'' ++ r)).head? ≠ some '\r' := by
    intro hnewline
    cases s with
    | nil => exact ⟨by simp, by simp⟩
    | cons c s =>
      have hc : ¬isControl c = true := not_isControl_of_any hcontrol List.mem_cons_self
      refine ⟨fun heq => hnewline ?_, fun heq => hc ?_⟩
      · rw [Option.some.inj heq]
        exact List.mem_cons_self
      · rw [Option.some.inj heq]
        rfl
  rw [← hread, opening, List.append_assoc]
  exact congrArg (readLiteral true) (afterOpening_opening hhead)

/-- **A written text is read back**, whichever characters it has and in whichever form it was
written. -/
theorem readText_writeText (hbasic : r.head? ≠ some '"') (hliteral : r.head? ≠ some '\'')
    (s : List Char) : readText (writeText s ++ r) = some (s, r) := by
  unfold writeText
  cases h : formOf s with
  | basic => simpa using readText_basicForm hbasic s
  | literal => simpa using readText_literalForm hliteral h
  | basicLines => simpa only [List.append_assoc] using readText_basicLinesForm hbasic s
  | literalLines => simpa only [List.append_assoc] using readText_literalLinesForm hliteral h

/-- Every written text starts with a mark. -/
theorem writeText_eq_cons (s : List Char) :
    ∃ mark t, writeText s = mark :: t ∧ (mark = '"' ∨ mark = '\'') := by
  unfold writeText
  cases formOf s with
  | basic => exact ⟨_, _, rfl, .inl rfl⟩
  | literal => exact ⟨_, _, rfl, .inr rfl⟩
  | basicLines => exact ⟨_, _, rfl, .inl rfl⟩
  | literalLines => exact ⟨_, _, rfl, .inr rfl⟩

end WalletTasks.Toml
