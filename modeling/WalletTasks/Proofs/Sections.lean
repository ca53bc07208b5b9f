import WalletTasks.Proofs.Spelling
import WalletTasks.Toml.Document
import Mathlib.Data.List.Basic

/-!
# How a written document is read

A document is written as comments and as sections, each of them a header and one line for each of
its fields. Every line is read as one line, and does to the tables what it should: a header adds an
empty table, and a field adds its value to the table of the last header.

* `readKey_bare`: a bare key is read up to what stands behind it.
* `spells_text`, `spells_digits`: written texts and numbers are read as values.
* `Draft.readLines_section`: a section adds its table.
* `readDocument_writeDocument`: a written document is read as the tables of its sections.
-/

namespace WalletTasks.Toml

variable {c : Char} {s t r : List Char} {key name : String} {v w : Value} {fs root done : Fields}
  {n : Nat}

/-! ## Tables -/

namespace Fields

/-- A key that is not there has no field. -/
theorem field?_of_not_mem (h : key ∉ fs.map Prod.fst) : field? fs key = none :=
  List.lookup_eq_none_iff.2 fun f hf => by
    rw [bne_iff_ne]
    rintro rfl
    exact h (List.mem_map_of_mem hf)

/-- A key that is not there is added at the end. -/
theorem put_of_not_mem (h : key ∉ fs.map Prod.fst) (v : Value) :
    put fs key v = fs ++ [(key, v)] := by
  induction fs with
  | nil => rfl
  | cons f fs ih =>
    obtain ⟨k, w⟩ := f
    rw [List.map_cons, List.mem_cons, not_or] at h
    rw [put, if_neg (Ne.symm h.1), ih h.2]
    rfl

/-- The value at the end is found if its key stands nowhere else. -/
theorem field?_append_self (h : key ∉ fs.map Prod.fst) (v : Value) :
    field? (fs ++ [(key, v)]) key = some v := by
  rw [← put_of_not_mem h v]
  exact field?_put fs key v

/-- The value at the end is replaced if its key stands nowhere else. -/
theorem put_append_self (h : key ∉ fs.map Prod.fst) (v w : Value) :
    put (fs ++ [(key, v)]) key w = fs ++ [(key, w)] := by
  induction fs with
  | nil => simp [put]
  | cons f fs ih =>
    obtain ⟨k, u⟩ := f
    rw [List.map_cons, List.mem_cons, not_or] at h
    rw [List.cons_append, put, if_neg (Ne.symm h.1), ih h.2]
    rfl

end Fields

namespace Draft

/-- A header of one key adds an empty table. -/
theorem startTable_single (h : name ∉ root.map Prod.fst) (header : List String) :
    startTable ⟨header, root⟩ [name] =
      some ⟨[name], root ++ [(name, .table .headed [])]⟩ := by
  have hopen : Fields.atHeader Fields.openTable [name] root =
      some (root ++ [(name, .table .headed [])]) := by
    show Fields.openTable name root = _
    rw [Fields.openTable, Fields.field?_of_not_mem h]
    simp only [Fields.put_of_not_mem h]
  rw [startTable, hopen]
  rfl

/-- A field of one key is added to the table of the last header. -/
theorem addField_single (hname : name ∉ root.map Prod.fst) (hkey : key ∉ done.map Prod.fst)
    (v : Value) :
    addField ⟨[name], root ++ [(name, .table .headed done)]⟩ [key] v =
      some ⟨[name], root ++ [(name, .table .headed (done ++ [(key, v)]))]⟩ := by
  have hinsert : Fields.insert [key] v done = some (done ++ [(key, v)]) := by
    rw [Fields.insert, Fields.field?_of_not_mem hkey]
    simp only [Fields.put_of_not_mem hkey]
  have hwithin : Fields.within (Fields.insert [key] v) [name]
      (root ++ [(name, .table .headed done)]) =
        some (root ++ [(name, .table .headed (done ++ [(key, v)]))]) := by
    simp only [Fields.within, Fields.field?_append_self hname, hinsert, Option.map_some,
      Fields.put_append_self hname]
  rw [addField]
  simp only [hwithin, Option.map_some]

end Draft

/-! ## Keys -/

/-- Whether a key is written as it is. -/
def IsBareKey (key : String) : Prop := key.toList ≠ [] ∧ key.toList.all isBare = true

instance (key : String) : Decidable (IsBareKey key) := inferInstanceAs (Decidable (_ ∧ _))

/-- No bare character has a meaning at the start of a line. -/
theorem ne_of_isBare {d : Char} (h : isBare c = true) (hd : isBare d = false) : c ≠ d :=
  ne_of_apply_ne isBare (by simp [h, hd])

theorem isGap_of_isBare (h : isBare c = true) : isGap c = false := by
  simp [isGap, ne_of_isBare h (show isBare ' ' = false from rfl),
    ne_of_isBare h (show isBare '\t' = false from rfl)]

theorem skipGaps_cons (h : isGap c = false) (s : List Char) : skipGaps (c :: s) = c :: s :=
  List.dropWhile_cons_of_neg (by simp [h])

/-- A bare key starts with a bare character. -/
theorem IsBareKey.eq_cons (h : IsBareKey key) : ∃ c t, key.toList = c :: t ∧ isBare c = true := by
  obtain ⟨hne, hbare⟩ := h
  obtain ⟨c, t, heq⟩ := List.exists_cons_of_ne_nil hne
  exact ⟨c, t, heq, List.all_eq_true.1 hbare c (by rw [heq]; exact List.mem_cons_self)⟩

/-- A bare key is read up to the first character that is not bare. -/
theorem readKey_bare {d : Char} {parts : Nat} (hkey : IsBareKey key) (hc : isBare c = false)
    (hskip : skipGaps (c :: r) = d :: t) (hd : d ≠ '.') (hparts : parts ≠ 0) :
    readKey parts (key.toList ++ c :: r) = some ([key], d :: t) := by
  obtain ⟨parts, rfl⟩ := Nat.exists_eq_succ_of_ne_zero hparts
  obtain ⟨b, u, heq, hb⟩ := hkey.eq_cons
  have hgaps : skipGaps (key.toList ++ c :: r) = key.toList ++ c :: r := by
    rw [heq]
    exact skipGaps_cons (isGap_of_isBare hb) _
  have hbare : ∀ c ∈ key.toList, isBare c = true := List.all_eq_true.1 hkey.2
  have htake : (key.toList ++ c :: r).takeWhile isBare = key.toList := by
    rw [List.takeWhile_append_of_pos hbare, List.takeWhile_cons_of_neg (by simp [hc]),
      List.append_nil]
  have hdrop : (key.toList ++ c :: r).dropWhile isBare = c :: r := by
    rw [List.dropWhile_append_of_pos hbare, List.dropWhile_cons_of_neg (by simp [hc])]
  have hpart : readKeyPart (key.toList ++ c :: r) = some (key, c :: r) := by
    unfold readKeyPart
    split
    case h_1 | h_2 =>
      rename_i h
      rw [heq] at h
      exact absurd (List.cons.inj h).1 (ne_of_isBare hb rfl)
    · simp only [htake, hdrop, hkey.1, if_false, String.ofList_toList]
  -- the key has one part, and what follows it is no dot
  rw [readKey, hgaps, hpart]
  simp only [Option.bind_eq_bind, Option.bind_some, hskip]
  split
  · rename_i h
    exact absurd (List.cons.inj h).1 hd
  · rfl

/-! ## Values -/

/-- Whether a value is read from how it is written at the end of a line. -/
def Spells (w : List Char) (v : Value) : Prop :=
  ∀ r, readValue maxDepth (skipGaps (w ++ '\n' :: r)) = some (v, '\n' :: r)

/-- **A written text is read as a text.** -/
theorem spells_text (s : List Char) : Spells (writeText s) (.text (String.ofList s)) := by
  intro r
  have hread : readText (writeText s ++ '\n' :: r) = some (s, '\n' :: r) :=
    readText_writeText (by simp) (by simp) s
  obtain ⟨mark, t, heq, hmark⟩ := writeText_eq_cons s
  rw [heq, List.cons_append] at hread ⊢
  rw [skipGaps_cons (by rcases hmark with rfl | rfl <;> rfl), readValue.eq_def]
  simp only [hmark, if_true, hread, Option.map_some]

theorem endsWord_of_isDigit (h : Text.isDigit c = true) : endsWord c = false := by
  rw [Bool.eq_false_iff]
  intro hends
  simp only [endsWord, Bool.or_eq_true, decide_eq_true_eq] at hends
  rcases hends with ((((((rfl | rfl) | rfl) | rfl) | rfl) | rfl) | rfl) | rfl <;>
    exact absurd h (by decide)

/-- A word is taken up to the end of its line. -/
theorem readWord_newline (h : ∀ c ∈ s, endsWord c = false) (r : List Char) :
    readWord (s ++ '\n' :: r) = (s, '\n' :: r) := by
  have hsplit : splitBefore endsWord (s ++ '\n' :: r) = (s, '\n' :: r) := by
    have hs : ∀ c ∈ s, (!endsWord c) = true := fun c hc => by rw [h c hc]; rfl
    rw [splitBefore, List.takeWhile_append_of_pos hs, List.dropWhile_append_of_pos hs,
      List.takeWhile_cons_of_neg (by decide), List.dropWhile_cons_of_neg (by decide),
      List.append_nil]
  simp only [readWord, hsplit]
  rfl

/-- The digits of a number are the number. -/
theorem scalar?_digits (h : n < integerBound) : scalar? (Text.digits n) = some (.integer n) := by
  have hdigit : ∀ c ∈ Text.digits n, Text.isDigit c = true := Text.isDigit_of_mem_digits n
  have hne : ∀ {c}, Text.isDigit c = false → c ∉ Text.digits n := fun hc hmem => by
    rw [hdigit _ hmem] at hc
    cases hc
  have hbase : ∀ {c d t}, Text.isDigit d = false → Text.digits n ≠ c :: d :: t :=
    fun hd heq => hne hd (by rw [heq]; simp)
  have hinteger : integer? (Text.digits n) = some (n : Int) := integer?_digits h
  unfold scalar?
  split
  case h_1 | h_2 | h_3 =>
    rename_i heq
    exact absurd heq (hbase rfl)
  · rw [if_neg fun heq => hne (c := 't') rfl (by rw [heq]; decide),
      if_neg fun heq => hne (c := 'f') rfl (by rw [heq]; decide), hinteger]

/-- **A written number is read as a number**, if the format has it. -/
theorem spells_digits (h : n < integerBound) : Spells (Text.digits n) (.integer n) := by
  intro r
  have hdigit : ∀ c ∈ Text.digits n, Text.isDigit c = true := Text.isDigit_of_mem_digits n
  have hword := readWord_newline (fun c hc => endsWord_of_isDigit (hdigit c hc)) r
  have hscalar := scalar?_digits h
  obtain ⟨c, t, heq⟩ := List.exists_cons_of_ne_nil (Text.digits_ne_nil n)
  have hc : Text.isDigit c = true := hdigit c (by rw [heq]; exact List.mem_cons_self)
  have hne : ∀ {d}, Text.isDigit d = false → c ≠ d := fun hd =>
    ne_of_apply_ne Text.isDigit (by simp [hc, hd])
  have hgap : isGap c = false := by
    simp [isGap, hne (d := ' ') rfl, hne (d := '\t') rfl]
  rw [heq] at hword hscalar ⊢
  rw [List.cons_append] at hword ⊢
  rw [skipGaps_cons hgap, readValue.eq_def]
  simp only
  -- a digit starts neither a string, an array nor a table
  rw [if_neg (by simp [hne (d := '"') rfl, hne (d := '\'') rfl]), if_neg (hne rfl),
    if_neg (hne rfl), hword]
  simp only [hscalar, Option.map_some]

/-! ## Lines -/

/-- Writes a comment. -/
def writeComment (t : List Char) : List Char := '#' :: t ++ ['\n']

namespace Draft

variable {d d' : Draft}

/-- A line is read, and then the lines behind it. -/
theorem readLines_cons (hc : isGap c = false) (h : d.readLine (c :: s) = some (d', r)) (n : Nat) :
    d.readLines (n + 1) (c :: s) = d'.readLines n r := by
  rw [readLines, skipGaps_cons hc]
  simp only [h, Option.bind_eq_bind, Option.bind_some]

/-- An empty line adds nothing. -/
theorem readLines_blank (d : Draft) (n : Nat) (r : List Char) :
    d.readLines (n + 1) ('\n' :: r) = d.readLines n r :=
  readLines_cons rfl rfl n

/-- A comment adds nothing. -/
theorem readLines_comment (ht : ∀ c ∈ t, isPlain c = true) (d : Draft) (n : Nat) (r : List Char) :
    d.readLines (n + 1) ('#' :: t ++ '\n' :: r) = d.readLines n r := by
  refine readLines_cons rfl ?_ n
  have hend : readLineEnd ('#' :: (t ++ '\n' :: r)) = some r := by
    show readNewline ((t ++ '\n' :: r).dropWhile isPlain) = some r
    rw [List.dropWhile_append_of_pos ht]
    rfl
  show (readLineEnd ('#' :: (t ++ '\n' :: r))).map (d, ·) = _
  rw [hend]
  rfl

/-- Comments add nothing. -/
theorem readLines_comments {ts : List (List Char)} (hts : ∀ t ∈ ts, ∀ c ∈ t, isPlain c = true)
    (d : Draft) (n : Nat) (r : List Char) :
    d.readLines (n + ts.length) (ts.flatMap writeComment ++ r) = d.readLines n r := by
  induction ts with
  | nil => rfl
  | cons t ts ih =>
    obtain ⟨ht, hts⟩ := List.forall_mem_cons.1 hts
    rw [List.flatMap_cons, List.length_cons, ← Nat.add_assoc, writeComment, List.append_assoc,
      List.append_assoc]
    exact (readLines_comment ht d _ _).trans (ih hts)

/-- A header adds an empty table. -/
theorem readLines_header (hname : IsBareKey name) (hnew : name ∉ root.map Prod.fst)
    (header : List String) (n : Nat) (r : List Char) :
    readLines (n + 1) ⟨header, root⟩ (writeHeader name ++ r) =
      readLines n ⟨[name], root ++ [(name, .table .headed [])]⟩ r := by
  have hwritten : writeHeader name ++ r = '[' :: (name.toList ++ ']' :: '\n' :: r) := by
    simp [writeHeader]
  have hkey : readKey maxDepth (name.toList ++ ']' :: '\n' :: r) =
      some ([name], ']' :: '\n' :: r) := readKey_bare hname rfl rfl (by decide) (by decide)
  have hheader : readHeader ⟨header, root⟩ (name.toList ++ ']' :: '\n' :: r) =
      some (⟨[name], root ++ [(name, .table .headed [])]⟩, '\n' :: r) := by
    unfold readHeader
    split
    · -- a second bracket is no bare character
      rename_i h
      obtain ⟨b, u, heq, hb⟩ := hname.eq_cons
      rw [heq] at h
      exact absurd (List.cons.inj h).1 (ne_of_isBare hb rfl)
    · simp only [hkey, behind?, if_true, startTable_single hnew, Option.bind_eq_bind,
        Option.bind_some]
  rw [hwritten]
  refine readLines_cons rfl ?_ n
  simp only [readLine, hheader, Option.bind_eq_bind, Option.bind_some]
  rfl

/-- A field is added to the table of the last header. -/
theorem readLines_field (hname : name ∉ root.map Prod.fst) (hkey : IsBareKey key)
    (hnew : key ∉ done.map Prod.fst) (hw : Spells s v) (n : Nat) (r : List Char) :
    readLines (n + 1) ⟨[name], root ++ [(name, .table .headed done)]⟩ (writeField key s ++ r) =
      readLines n ⟨[name], root ++ [(name, .table .headed (done ++ [(key, v)]))]⟩ r := by
  have hwritten : writeField key s ++ r = key.toList ++ ' ' :: '=' :: ' ' :: (s ++ '\n' :: r) := by
    simp [writeField]
  have hread : readKey maxDepth (key.toList ++ ' ' :: '=' :: ' ' :: (s ++ '\n' :: r)) =
      some ([key], '=' :: ' ' :: (s ++ '\n' :: r)) :=
    readKey_bare hkey rfl rfl (by decide) (by decide)
  have hvalue : readValue maxDepth (skipGaps (' ' :: (s ++ '\n' :: r))) = some (v, '\n' :: r) :=
    hw r
  obtain ⟨b, u, heq, hb⟩ := hkey.eq_cons
  rw [hwritten]
  rw [heq, List.cons_append] at hread ⊢
  refine readLines_cons (isGap_of_isBare hb) ?_ n
  have hfield : readField ⟨[name], root ++ [(name, .table .headed done)]⟩
      (b :: (u ++ ' ' :: '=' :: ' ' :: (s ++ '\n' :: r))) =
        some (⟨[name], root ++ [(name, .table .headed (done ++ [(key, v)]))]⟩, '\n' :: r) := by
    simp only [readField, hread, behind?, if_true, hvalue, addField_single hname hnew,
      Option.bind_eq_bind, Option.bind_some]
  unfold readLine
  split
  case h_1 | h_2 | h_3 | h_4 =>
    -- no other line starts with a bare character
    rename_i h
    exact absurd (List.cons.inj h).1 (ne_of_isBare hb rfl)
  · simp only [hfield, Option.bind_eq_bind, Option.bind_some]
    rfl

end Draft

/-! ## Sections -/

/-- Each item is written with one character at least. -/
theorem length_le_length_flatMap {α : Type} {write : α → List Char}
    (h : ∀ x, 1 ≤ (write x).length) (xs : List α) : xs.length ≤ (xs.flatMap write).length := by
  induction xs with
  | nil => exact Nat.le_refl 0
  | cons x xs ih =>
    have := h x
    rw [List.flatMap_cons, List.length_append, List.length_cons]
    omega

/-- A field of a section, with the text that its value is read from. -/
structure Field where
  key : String
  written : List Char
  value : Value
  bare : IsBareKey key
  spells : Spells written value

/-- A header and the fields below it. -/
structure Section where
  name : String
  fields : List Field
  bare : IsBareKey name
  nodup : (fields.map Field.key).Nodup

namespace Field

def write (f : Field) : List Char := writeField f.key f.written

def entry (f : Field) : String × Value := (f.key, f.value)

end Field

namespace Section

/-- Writes a section, behind an empty line. -/
def write (s : Section) : List Char := '\n' :: writeHeader s.name ++ s.fields.flatMap Field.write

/-- The number of lines of a section. -/
def lines (s : Section) : Nat := s.fields.length + 2

def entry (s : Section) : String × Value := (s.name, .table .headed (s.fields.map Field.entry))

/-- A section has no more lines than characters. -/
theorem lines_le_length (s : Section) : s.lines ≤ s.write.length := by
  have hfield : ∀ f : Field, 1 ≤ f.write.length := fun f => by
    rw [Field.write, writeField, List.length_append]
    exact Nat.le_add_left 1 _
  have hfields := length_le_length_flatMap hfield s.fields
  simp only [Section.lines, Section.write, writeHeader, List.length_append, List.length_cons]
  omega

end Section

namespace Draft

/-- Fields are added to the table of the last header. -/
theorem readLines_fields (hname : name ∉ root.map Prod.fst) {fields : List Field}
    (hnodup : (done.map Prod.fst ++ fields.map Field.key).Nodup) (n : Nat) (r : List Char) :
    readLines (n + fields.length) ⟨[name], root ++ [(name, .table .headed done)]⟩
        (fields.flatMap Field.write ++ r) =
      readLines n ⟨[name], root ++ [(name, .table .headed (done ++ fields.map Field.entry))]⟩
        r := by
  induction fields generalizing done with
  | nil => simp
  | cons f fields ih =>
    have hnew : f.key ∉ done.map Prod.fst := fun hmem =>
      (List.nodup_append.1 hnodup).2.2 f.key hmem f.key List.mem_cons_self rfl
    have hrest : ((done ++ [f.entry]).map Prod.fst ++ fields.map Field.key).Nodup := by
      simpa [Field.entry] using hnodup
    rw [List.flatMap_cons, List.append_assoc, List.length_cons, ← Nat.add_assoc, Field.write,
      readLines_field hname f.bare hnew f.spells]
    exact (ih hrest).trans (by rw [List.map_cons, List.append_assoc]; rfl)

/-- **A section adds its table.** -/
theorem readLines_section (s : Section) (hnew : s.name ∉ root.map Prod.fst)
    (header : List String) (n : Nat) (r : List Char) :
    readLines (n + s.lines) ⟨header, root⟩ (s.write ++ r) =
      readLines n ⟨[s.name], root ++ [s.entry]⟩ r := by
  rw [Section.write, List.cons_append, List.cons_append, List.append_assoc, Section.lines,
    ← Nat.add_assoc, readLines_blank, readLines_header s.bare hnew,
    readLines_fields hnew (by simpa using s.nodup)]
  rfl

/-- Sections add their tables. The bound on the lines is one on the characters, as every line takes
at least one. -/
theorem readLines_sections {sections : List Section}
    (hnodup : (root.map Prod.fst ++ sections.map Section.name).Nodup) (header : List String)
    (hn : (sections.flatMap Section.write).length < n) :
    (readLines n ⟨header, root⟩ (sections.flatMap Section.write)).map (·.root) =
      some (root ++ sections.map Section.entry) := by
  induction sections generalizing header root n with
  | nil =>
    obtain ⟨n, rfl⟩ := Nat.exists_eq_succ_of_ne_zero (Nat.ne_zero_of_lt hn)
    show some root = some (root ++ [])
    rw [List.append_nil]
  | cons s sections ih =>
    have hnew : s.name ∉ root.map Prod.fst := fun hmem =>
      (List.nodup_append.1 hnodup).2.2 s.name hmem s.name List.mem_cons_self rfl
    have hrest : ((root ++ [s.entry]).map Prod.fst ++ sections.map Section.name).Nodup := by
      simpa [Section.entry] using hnodup
    have hlines := s.lines_le_length
    rw [List.flatMap_cons, List.length_append] at hn
    obtain ⟨m, rfl⟩ := Nat.exists_eq_add_of_le' (show s.lines ≤ n by omega)
    rw [List.flatMap_cons, readLines_section s hnew, ih hrest _ (by omega), List.append_assoc]
    rfl

end Draft

/-! ## Documents -/

/-- Writes a document: comments, and then sections. -/
def writeDocument (comments : List (List Char)) (sections : List Section) : List Char :=
  comments.flatMap writeComment ++ sections.flatMap Section.write

/-- There is no byte order mark in front of a document. -/
theorem withoutMark_writeDocument (comments : List (List Char)) (sections : List Section) :
    Text.withoutMark (writeDocument comments sections) = writeDocument comments sections := by
  cases comments with
  | nil => cases sections <;> rfl
  | cons t ts => rfl

/-- **A written document is read as the tables of its sections.** -/
theorem readDocument_writeDocument {comments : List (List Char)} {sections : List Section}
    (hcomments : ∀ t ∈ comments, ∀ c ∈ t, isPlain c = true)
    (hnodup : (sections.map Section.name).Nodup) :
    readDocument (String.ofList (writeDocument comments sections)) =
      some (sections.map Section.entry) := by
  have hlength : (writeDocument comments sections).length =
      (comments.flatMap writeComment).length + (sections.flatMap Section.write).length :=
    List.length_append
  have hlines : comments.length ≤ (comments.flatMap writeComment).length :=
    length_le_length_flatMap (fun t => by simp [writeComment]) comments
  obtain ⟨n, hn⟩ : ∃ n, (writeDocument comments sections).length + 1 = n + comments.length :=
    Nat.exists_eq_add_of_le' (by omega)
  rw [readDocument, String.toList_ofList, withoutMark_writeDocument]
  simp only [hn]
  rw [writeDocument, Draft.readLines_comments hcomments, Draft.empty,
    Draft.readLines_sections (by simpa using hnodup) [] (by omega), List.nil_append]

end WalletTasks.Toml
