import WalletTasks.DotEnv.File

/-!
# How an entry that is written is read

An entry is written with its value between weak quotation marks, and with a backslash in front of
every backslash and quotation mark in it. So the scan over the lines is inside of the marks wherever
the value goes, also at its newlines, and outside behind them: every entry is read as one line of
its own, whatever the values are. In that line the value is read as it was up to its first dollar
sign.

* `Line.ofText_render`: the lines of a written file are those of its entries, one for each.
* `Entry.ofLine?_quoted`: a line has the name of its entry.
* `readValue_escape`: what has no dollar sign is read as it was written.
* `count_readValue_lt`: a dollar sign is lost, unless values put others in its place.
-/

namespace WalletTasks.DotEnv

/-- Whether a string can be the name of a variable. -/
def isName (s : String) : Bool := s.toList.head?.any startsName && s.toList.all continuesName

/-- An entry as it is written, without the newline behind it. -/
def Entry.quoted (e : Entry) : List Char :=
  e.name.toList ++ '=' :: '"' :: (escape e.value.toList ++ ['"'])

variable {c : Char} {s t read : List Char} {p : Position} {lookup : String → String}

/-! ## Cutting into lines -/

/-- Letters and digits have codes from that of `0` to that of `z`. -/
theorem toNat_of_isAlphanum (h : c.isAlphanum = true) : 48 ≤ c.toNat ∧ c.toNat ≤ 122 := by
  have hcode : ∀ {a b : UInt32}, 48 ≤ a.toNat → b.toNat ≤ 122 → a ≤ c.val → c.val ≤ b →
      48 ≤ c.toNat ∧ c.toNat ≤ 122 :=
    fun ha hb hac hcb => ⟨Nat.le_trans ha hac, Nat.le_trans hcb hb⟩
  obtain hletter | hdigit := Bool.or_eq_true_iff.1 h
  · obtain hupper | hlower := Bool.or_eq_true_iff.1 hletter
    · obtain ⟨hfirst, hlast⟩ := of_decide_eq_true hupper
      exact hcode (by decide) (by decide) hfirst hlast
    · obtain ⟨hfirst, hlast⟩ := Bool.and_eq_true_iff.1 hlower
      exact hcode (by decide) (by decide) (of_decide_eq_true hfirst) (of_decide_eq_true hlast)
  · obtain ⟨hfirst, hlast⟩ := Bool.and_eq_true_iff.1 hdigit
    exact hcode (by decide) (by decide) (of_decide_eq_true hfirst) (of_decide_eq_true hlast)

theorem isBlank_of_continuesName (h : continuesName c = true) : Text.isBlank c = false := by
  simp only [continuesName, Bool.or_eq_true, decide_eq_true_eq] at h
  have hle : 46 ≤ c.toNat ∧ c.toNat ≤ 122 := by
    obtain (halphanum | rfl) | rfl := h
    · exact (toNat_of_isAlphanum halphanum).imp_left (Nat.le_trans (by decide))
    · decide
    · decide
  simp only [Text.isBlank, Text.blankCodes, List.contains_eq_mem, List.mem_cons,
    List.not_mem_nil, or_false, decide_eq_false_iff_not]
  omega

/-- Away from a blank no comment begins, and a scan goes on behind the next character. -/
theorem scan_cons (hp : p ≠ .blank) (c : Char) (s : List Char) :
    scan p (c :: s) = match scan (p.next c) s with
      | .position q => .position q
      | .comment before => .comment (c :: before) := by
  rw [scan]
  exact if_neg fun h => hp h.1

/-- A character is read without ending a line, unless it is a newline outside of all marks. -/
theorem Line.join_cons (hs : s ≠ []) (hp : p ≠ .blank)
    (hc : c = '\n' → p.next c ≠ .outside ∧ isComment (read ++ [c]) = false) :
    join p read (physicalLines (c :: s)) = join (p.next c) (read ++ [c]) (physicalLines s) := by
  rw [physicalLines]
  split
  · rename_i hnewline
    obtain ⟨hinside, hcomment⟩ := hc hnewline
    subst hnewline
    rw [join, hcomment, scan_cons hp]
    simp only [scan, Bool.false_eq_true, if_false]
  · -- the character joins the first of the lines behind it
    obtain ⟨l, ls, hls⟩ : ∃ l ls, physicalLines s = l :: ls := by
      refine List.exists_cons_of_ne_nil fun h => hs ?_
      rw [← flatten_physicalLines s, h]
      rfl
    rw [hls, join, join, scan_cons hp, List.append_cons]
    cases scan (p.next c) l with
    | position q => cases q <;> rfl
    | comment before => simp

theorem ne_of_continuesName {d : Char} (h : continuesName c = true)
    (hd : continuesName d = false) : c ≠ d := by
  rintro rfl
  rw [h] at hd
  cases hd

/-- A name is read without ending a line. -/
theorem Line.join_name (hs : s ≠ []) (ht : ∀ c ∈ t, continuesName c = true) :
    join .outside read (physicalLines (t ++ s)) =
      join .outside (read ++ t) (physicalLines s) := by
  induction t generalizing read with
  | nil => simp
  | cons c t ih =>
    obtain ⟨hc, ht⟩ := List.forall_mem_cons.1 ht
    have hnext : Position.next .outside c = .outside := by
      simp [Position.next, Position.behind, isBlank_of_continuesName hc,
        ne_of_continuesName hc (show continuesName '\\' = false from rfl),
        ne_of_continuesName hc (show continuesName '"' = false from rfl),
        ne_of_continuesName hc (show continuesName '\'' = false from rfl)]
    have hnewline : c ≠ '\n' := ne_of_continuesName hc rfl
    rw [List.cons_append, join_cons (by simp [hs]) (by simp) fun h => absurd h hnewline, hnext,
      ih ht, ← List.append_cons]

theorem escape_cons (c : Char) (t : List Char) :
    escape (c :: t) = (if c = '\\' ∨ c = '"' then ['\\', c] else [c]) ++ escape t := rfl

/-- A value between weak quotation marks is read without ending a line. -/
theorem Line.join_escape (hs : s ≠ []) (hread : ∀ r, isComment (read ++ r) = false) :
    join .weak read (physicalLines (escape t ++ s)) =
      join .weak (read ++ escape t) (physicalLines s) := by
  induction t generalizing read with
  | nil => simp [escape]
  | cons c t ih =>
    have hrest : escape t ++ s ≠ [] := by simp [hs]
    rw [escape_cons]
    by_cases hc : c = '\\' ∨ c = '"'
    · -- the backslash in front takes its meaning from the character
      have hnewline : c ≠ '\n' := by rcases hc with rfl | rfl <;> decide
      rw [if_pos hc]
      simp only [List.cons_append, List.nil_append]
      rw [join_cons (by simp) (by simp) (by simp),
        show Position.next .weak '\\' = .weakEscape from rfl,
        join_cons hrest (by simp) fun h => absurd h hnewline,
        show Position.next .weakEscape c = .weak from rfl,
        ih fun r => by simpa using hread ('\\' :: c :: r)]
      simp
    · have hnext : Position.next .weak c = .weak := by
        obtain ⟨hbackslash, hmark⟩ := not_or.1 hc
        simp [Position.next, hbackslash, hmark]
      rw [if_neg hc]
      simp only [List.cons_append, List.nil_append]
      rw [join_cons hrest (by simp) fun _ => ⟨by rw [hnext]; simp, hread [c]⟩, hnext,
        ih fun r => by simpa using hread (c :: r)]
      simp

/-! ## Lines of entries -/

variable {e : Entry}

theorem toList_line (e : Entry) : e.line.toList = e.quoted ++ ['\n'] := by
  simp [Entry.line, Entry.quoted, String.toList_append]

/-- The name is the first part of what is written. -/
theorem exists_startsName (h : isName e.name = true) :
    (∀ c ∈ e.name.toList, continuesName c = true) ∧
      ∃ c t, startsName c = true ∧ e.name.toList = c :: t := by
  unfold isName at h
  obtain ⟨hstart, hall⟩ := Bool.and_eq_true_iff.1 h
  refine ⟨by simpa using hall, ?_⟩
  cases hname : e.name.toList with
  | nil =>
    rw [hname] at hstart
    cases hstart
  | cons c t =>
    rw [hname] at hstart
    exact ⟨c, t, by simpa using hstart, rfl⟩

/-- A line that starts with a name is no comment. -/
theorem isComment_name (h : isName e.name = true) (r : List Char) :
    isComment (e.name.toList ++ r) = false := by
  obtain ⟨hall, c, t, -, hname⟩ := exists_startsName h
  have hc : continuesName c = true := hall c (by rw [hname]; exact List.mem_cons_self)
  unfold isComment
  rw [hname, List.cons_append, Text.trimLeft_of_head (isBlank_of_continuesName hc)]
  simpa using ne_of_continuesName hc (show continuesName '#' = false from rfl)

/-- **An entry is read as a line of its own**, whatever its value is. -/
theorem Line.join_line (h : isName e.name = true) (rest : List Char) :
    join .outside [] (physicalLines (e.line.toList ++ rest)) =
      .complete e.quoted :: join .outside [] (physicalLines rest) := by
  obtain ⟨hall, -⟩ := exists_startsName h
  have hcomment : ∀ r, isComment (e.name.toList ++ r) = false := isComment_name h
  rw [toList_line]
  simp only [Entry.quoted, List.append_assoc, List.cons_append, List.nil_append]
  rw [join_name (by simp) hall, List.nil_append,
    join_cons (by simp) (by simp) (by simp), show Position.next .outside '=' = .outside from rfl,
    join_cons (by simp) (by simp) (by simp), show Position.next .outside '"' = .weak from rfl,
    join_escape (by simp) fun r => by simpa using hcomment ('=' :: '"' :: r),
    join_cons (by simp) (by simp) (by simp), show Position.next .weak '"' = .outside from rfl,
    physicalLines, if_pos rfl, join]
  rw [if_neg (by simp [hcomment])]
  have hscan : scan .outside ['\n'] = .position .outside := rfl
  simp [hscan, withoutNewline]

/-- What is written starts with a name, or with nothing. -/
theorem withoutMark_render {es : List Entry} (h : ∀ e ∈ es, isName e.name = true) :
    Text.withoutMark (render es).toList = (render es).toList := by
  cases es with
  | nil => rfl
  | cons e es =>
    obtain ⟨hall, c, t, -, hname⟩ := exists_startsName (h e List.mem_cons_self)
    have hc : continuesName c = true := hall c (by rw [hname]; exact List.mem_cons_self)
    have hmark : c ≠ '\ufeff' := ne_of_continuesName hc rfl
    have hrender : ∃ r, (render (e :: es)).toList = c :: r := by
      simp [render, toList_line, Entry.quoted, hname]
    obtain ⟨r, hr⟩ := hrender
    rw [hr]
    unfold Text.withoutMark
    split
    · rename_i heq
      exact absurd (List.cons.inj heq).1 hmark
    · rfl

/-- **The lines of a written file are those of its entries**, one for each. -/
theorem Line.ofText_render {es : List Entry} (h : ∀ e ∈ es, isName e.name = true) :
    Line.ofText (Text.withoutMark (render es).toList) =
      es.map fun e => .complete e.quoted := by
  rw [withoutMark_render h]
  unfold ofText
  induction es with
  | nil => rfl
  | cons e es ih =>
    obtain ⟨he, h⟩ := List.forall_mem_cons.1 h
    have hrender : (render (e :: es)).toList = e.line.toList ++ (render es).toList := by
      simp [render]
    rw [hrender, join_line he, ih h, List.map_cons]

/-! ## Reading a line -/

/-- The name in front of the equals sign is read back. -/
theorem readAssignment_name (h : isName e.name = true) {r : List Char}
    (hr : Text.trimLeft r = r) :
    readAssignment (e.name.toList ++ '=' :: r) = some (e.name.toList, r) := by
  obtain ⟨hall, c, t, hstart, hname⟩ := exists_startsName h
  have htake : (e.name.toList ++ '=' :: r).takeWhile continuesName = e.name.toList := by
    rw [List.takeWhile_append_of_pos hall, List.takeWhile_cons_of_neg (by decide),
      List.append_nil]
  have hdrop : (e.name.toList ++ '=' :: r).dropWhile continuesName = '=' :: r := by
    rw [List.dropWhile_append_of_pos hall, List.dropWhile_cons_of_neg (by decide)]
  have hread : readName (e.name.toList ++ '=' :: r) = some (e.name.toList, '=' :: r) := by
    rw [hname, List.cons_append] at htake hdrop ⊢
    rw [readName, if_pos hstart, htake, hdrop]
  have hequals : readEquals ('=' :: r) = some r := by
    unfold readEquals
    rw [Text.trimLeft_of_head rfl]
    exact congrArg some hr
  unfold readAssignment
  rw [hread]
  simp [hequals]

/-- **A line has the name of its entry**, and the value that is read between the marks. -/
theorem Entry.ofLine?_quoted (h : isName e.name = true) (lookup : String → String) :
    Entry.ofLine? lookup e.quoted =
      (readValue lookup true .plain (escape e.value.toList ++ ['"'])).map fun value =>
        some ⟨e.name, String.ofList value⟩ := by
  obtain ⟨hall, c, t, -, hname⟩ := exists_startsName h
  have hc : continuesName c = true := hall c (by rw [hname]; exact List.mem_cons_self)
  have htrim : Text.trim e.quoted = e.quoted := by
    refine Text.trim_of_noBlankEnds ?_ ?_
    · simpa [Entry.quoted, hname] using isBlank_of_continuesName hc
    · have hlast : e.quoted.getLast? = some '"' := by
        rw [Entry.quoted, ← List.cons_append, ← List.cons_append, ← List.append_assoc,
          List.getLast?_concat]
      rw [hlast]
      rintro _ ⟨⟩
      rfl
  have hvoid : isVoid e.quoted = false := by
    simpa [isVoid, Entry.quoted, hname] using
      ne_of_continuesName hc (show continuesName '#' = false from rfl)
  have hassign : readAssignment e.quoted =
      some (e.name.toList, '"' :: (escape e.value.toList ++ ['"'])) :=
    readAssignment_name h (Text.trimLeft_of_head rfl)
  unfold Entry.ofLine?
  simp only [htrim, hvoid, hassign, Bool.false_eq_true, if_false, Option.bind_eq_bind,
    Option.bind_some]
  -- behind the equals sign the marks are opened
  rw [if_neg (by simp [isVoid]), readValue]
  simp only [Char.reduceEq, if_false, if_true, Bool.not_false, String.ofList_toList]
  cases readValue lookup true .plain (escape e.value.toList ++ ['"']) <;> rfl

/-- What has no dollar sign is read as it was written. -/
theorem readValue_escape (h : '$' ∉ t) (r : List Char) :
    readValue lookup true .plain (escape t ++ r) =
      (readValue lookup true .plain r).map (t ++ ·) := by
  induction t with
  | nil => simp [escape]
  | cons c t ih =>
    rw [List.mem_cons, not_or] at h
    obtain ⟨hdollar, h⟩ := h
    rw [escape_cons]
    by_cases hc : c = '\\' ∨ c = '"'
    · have hunescape : unescape? c = some c := by rcases hc with rfl | rfl <;> rfl
      rw [if_pos hc]
      simp [readValue, hunescape, ih h, Function.comp_def]
    · obtain ⟨hbackslash, hmark⟩ := not_or.1 hc
      rw [if_neg hc]
      simp [readValue, Ne.symm hdollar, hbackslash, hmark, ih h, Function.comp_def]

/-- Behind a backslash a character stands for itself, or for a line feed. -/
theorem eq_of_unescape? {d : Char} (h : unescape? c = some d) : d = c ∨ d = '\n' := by
  unfold unescape? at h
  split at h
  · exact .inl (Option.some.inj h).symm
  · split at h
    · exact .inr (Option.some.inj h).symm
    · cases h

/-- Reading a value adds no character to it but newlines and what names stand for. -/
theorem count_readValue_le {d : Char} (hd : d ≠ '\n')
    (hlookup : ∀ name, d ∉ (lookup name).toList) {weak : Bool} {state : Reading} {out : List Char}
    (h : readValue lookup weak state s = some out) : out.count d ≤ s.count d := by
  have hvalue : ∀ letters, (valueOf lookup letters).count d = 0 := fun letters =>
    List.count_eq_zero.2 (hlookup _)
  -- a character is passed over or kept, or the value of a name is put in its place
  fun_induction readValue lookup weak state s generalizing out
  all_goals grind [Option.map_eq_some_iff, eq_of_unescape?]

/-- Escaping adds nothing but backslashes. -/
theorem count_escape {d : Char} (hd : d ≠ '\\') (t : List Char) :
    (escape t).count d = t.count d := by
  induction t with
  | nil => rfl
  | cons c t ih =>
    rw [escape_cons, List.count_append, ih, List.count_cons]
    split
    · simp [List.count_cons, hd.symm, Nat.add_comm]
    · simp [List.count_cons, Nat.add_comm]

theorem escape_append (s t : List Char) : escape (s ++ t) = escape s ++ escape t :=
  List.flatMap_append

/-- **A dollar sign is lost**, unless what a name stands for puts another in its place. -/
theorem count_readValue_lt (hlookup : ∀ name, '$' ∉ (lookup name).toList) {out : List Char}
    (ht : '$' ∈ t) (h : readValue lookup true .plain (escape t ++ ['"']) = some out) :
    out.count '$' < t.count '$' := by
  obtain ⟨before, behind, rfl, hbefore⟩ := List.eq_append_cons_of_mem ht
  -- the value is read as it was up to its first dollar sign, which is not kept
  rw [escape_append, escape_cons, if_neg (by decide), List.append_assoc,
    readValue_escape hbefore] at h
  obtain ⟨out, hout, rfl⟩ := Option.map_eq_some_iff.1 h
  simp only [List.cons_append, List.nil_append, readValue, if_true] at hout
  have hle := count_readValue_le (by decide) hlookup hout
  rw [List.count_append, count_escape (by decide)] at hle
  simp only [List.count_append, List.count_eq_zero.2 hbefore, List.count_cons]
  simp at hle ⊢
  omega

/-- What is read of a line has no NUL if neither the value has one nor what names stand for. -/
theorem nul_not_mem_readValue (hlookup : ∀ name, '\x00' ∉ (lookup name).toList)
    {out : List Char} (ht : '\x00' ∉ t)
    (h : readValue lookup true .plain (escape t ++ ['"']) = some out) : '\x00' ∉ out := by
  have hle := count_readValue_le (by decide) hlookup h
  rw [List.count_append, count_escape (by decide), List.count_eq_zero.2 ht] at hle
  exact List.count_eq_zero.1 (Nat.le_zero.1 (by simpa using hle))

end WalletTasks.DotEnv
