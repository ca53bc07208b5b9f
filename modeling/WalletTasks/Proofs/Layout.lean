import WalletTasks.Proofs.Restoring

/-!
# Reading the pretty layout

The pretty text of a value has one entry a line, and a reader that passes over blanks reads the same
tree from it as from the compact text. So a value that is restored is restored from either layout.

* `readValue_congr`, `readItems_congr`, `readFields_congr`: blanks in front of a token do not count.
* `Source.read_writePretty`: the pretty text of a value is read as its tree.
* `Restores.decodeText_pretty`: a value that is restored is decoded from its pretty text.
-/

namespace WalletTasks.Json

/-! ## Blanks in front of a token -/

/-- A new line with its blanks is skipped. -/
theorem skipGap_newLine (level : Nat) (s : List Char) :
    skipGap (newLine level ++ s) = skipGap s := by
  unfold skipGap newLine
  rw [List.dropWhile_append_of_pos]
  intro c hc
  rcases List.mem_cons.1 hc with rfl | hc
  · rfl
  · rw [List.eq_of_mem_replicate hc]
    rfl

section

variable {s t : List Char} (h : skipGap s = skipGap t)

include h

/-- A value is read from where its first token stands. -/
theorem readValue_congr (fuel : Nat) : readValue fuel s = readValue fuel t := by
  cases fuel with
  | zero => rfl
  | succ fuel => simp only [readValue, h]

/-- What is skipped before an item does not matter. -/
theorem readItems_congr (fuel : Nat) (comma : Bool) :
    readItems fuel s comma = readItems fuel t comma := by
  cases fuel with
  | zero => rfl
  | succ fuel => simp only [readItems, h]

theorem readFields_congr (fuel : Nat) (comma : Bool) :
    readFields fuel s comma = readFields fuel t comma := by
  cases fuel with
  | zero => rfl
  | succ fuel => simp only [readFields, h]

/-- The blanks behind an opening bracket or brace do not count. -/
theorem readValue_bracket_congr (fuel : Nat) :
    readValue (fuel + 1) ('[' :: s) = readValue (fuel + 1) ('[' :: t) := by
  simp only [readValue, skipGap_cons (show isGap '[' = false from rfl), h]

theorem readValue_brace_congr (fuel : Nat) :
    readValue (fuel + 1) ('{' :: s) = readValue (fuel + 1) ('{' :: t) := by
  simp only [readValue, skipGap_cons (show isGap '{' = false from rfl), h]

end

theorem stops_newLine (level : Nat) (r : List Char) : Stops (newLine level ++ r) :=
  stops_cons _ (by decide)

/-! ## Values -/

/-- No value starts with a blank or with the end of an array. -/
theorem writePretty_eq_cons (level : Nat) (j : Json) :
    ∃ c s, j.writePretty level = c :: s ∧ isGap c = false ∧ c ≠ ']' := by
  cases j with
  | array js => cases js <;> exact ⟨_, _, by rw [writePretty] <;> rfl, rfl, by decide⟩
  | object fs => cases fs <;> exact ⟨_, _, by rw [writePretty] <;> rfl, rfl, by decide⟩
  | number n =>
    have h := (number n).write_eq_cons
    rwa [write, ← writePretty] at h
  | bool b => cases b <;> exact ⟨_, _, by rw [writePretty], rfl, by decide⟩
  | _ => exact ⟨_, _, by rw [writePretty] <;> rfl, rfl, by decide⟩

theorem length_writePretty_pos (level : Nat) (j : Json) : 0 < (j.writePretty level).length := by
  obtain ⟨c, s, heq, -⟩ := j.writePretty_eq_cons level
  simp [heq]

mutual

/-- A value is read from its pretty text at any level, and what stands behind it is left. -/
theorem readValue_writePretty (level : Nat) (j : Json) (hj : j.Fits) {r : List Char} (hr : Stops r)
    (fuel : Nat) (hfuel : 2 * (j.writePretty level).length ≤ fuel) :
    readValue fuel (j.writePretty level ++ r) = (j.source, .ok r) := by
  match j with
  | .null | .bool true | .bool false | .number n | .string s =>
    -- a value without entries has one layout
    rw [writePretty, ← write] at hfuel ⊢
    exact readValue_write _ hj hr fuel hfuel
  | .array [] =>
    rw [writePretty] at hfuel ⊢
    exact readValue_write (.array []) hj hr fuel hfuel
  | .object [] =>
    rw [writePretty] at hfuel ⊢
    exact readValue_write (.object []) hj hr fuel hfuel
  | .array (j :: js) =>
    obtain ⟨fuel, rfl⟩ : ∃ f, fuel = f + 1 :=
      ⟨fuel - 1, by have := length_writePretty_pos level (.array (j :: js)); omega⟩
    rw [writePretty] at hfuel ⊢
    simp only [List.cons_append, List.append_assoc, List.length_cons, List.length_append,
      List.length_nil, List.nil_append] at hfuel ⊢
    rw [readValue_bracket_congr (skipGap_newLine _ _)]
    refine readValue_array ?_
      (readItems_writePretty (level + 1) (j :: js) (by simp) hj level r fuel (by omega) false)
    obtain ⟨c, t, heq, hstart⟩ := j.writePretty_eq_cons (level + 1)
    cases js with
    | nil => exact ⟨c, _, by rw [writePrettyItems, heq]; rfl, hstart⟩
    | cons j' js => exact ⟨c, _, by rw [writePrettyItems, heq] <;> first | rfl | simp, hstart⟩
  | .object ((k, j) :: fs) =>
    obtain ⟨fuel, rfl⟩ : ∃ f, fuel = f + 1 :=
      ⟨fuel - 1, by have := length_writePretty_pos level (.object ((k, j) :: fs)); omega⟩
    rw [writePretty] at hfuel ⊢
    simp only [List.cons_append, List.append_assoc, List.length_cons, List.length_append,
      List.length_nil, List.nil_append] at hfuel ⊢
    rw [readValue_brace_congr (skipGap_newLine _ _)]
    have hfields := readFields_writePretty (level + 1) ((k, j) :: fs) (by simp) hj level r fuel
      (by omega) false
    cases fs with
    | nil =>
      rw [writePrettyFields, List.append_assoc] at hfields ⊢
      exact readValue_object hfields
    | cons f fs =>
      rw [writePrettyFields, List.append_assoc, List.append_assoc, List.append_assoc]
        at hfields ⊢ <;> try simp
      exact readValue_object hfields

/-- The items of a list are read back, each from a line of its own. -/
theorem readItems_writePretty (level : Nat) (js : List Json) (hne : js ≠ []) (hj : FitsItems js)
    (outer : Nat) (r : List Char) (fuel : Nat)
    (hfuel : 2 * (writePrettyItems level js).length < fuel) (comma : Bool) :
    readItems fuel (writePrettyItems level js ++ (newLine outer ++ ']' :: r)) comma =
      (sourceItems js, none, .ok r) := by
  obtain ⟨fuel, rfl⟩ := Nat.exists_eq_succ_of_ne_zero (Nat.ne_zero_of_lt hfuel)
  -- the last item has no comma, all others are followed by one
  match js with
  | [] => exact absurd rfl hne
  | [j] =>
    rw [writePrettyItems] at hfuel ⊢
    have hread := readValue_writePretty level j hj.1 (stops_newLine outer (']' :: r)) fuel
      (by omega)
    obtain ⟨c, t, heq, hstart⟩ := j.writePretty_eq_cons level
    exact readItems_last ⟨c, _, by rw [heq]; rfl, hstart⟩ hread (skipGap_newLine outer _)
  | j :: j' :: js =>
    have htext : writePrettyItems level (j :: j' :: js) =
        j.writePretty level ++ ',' :: (newLine level ++ writePrettyItems level (j' :: js)) := by
      rw [writePrettyItems] <;> simp
    rw [htext] at hfuel ⊢
    simp only [List.length_append, List.length_cons] at hfuel
    rw [List.append_assoc, List.cons_append, List.append_assoc]
    have hmore := readItems_writePretty level (j' :: js) (by simp) hj.2 outer r fuel (by omega) true
    rw [← readItems_congr (skipGap_newLine level _)] at hmore
    obtain ⟨c, t, heq, hstart⟩ := j.writePretty_eq_cons level
    exact readItems_more ⟨c, _, by rw [heq]; rfl, hstart⟩
      (readValue_writePretty level j hj.1 (stops_comma _) fuel (by omega)) hmore

/-- The fields of an object are read back, each from a line of its own. -/
theorem readFields_writePretty (level : Nat) (fs : List (String × Json)) (hne : fs ≠ [])
    (hj : FitsFields fs) (outer : Nat) (r : List Char) (fuel : Nat)
    (hfuel : 2 * (writePrettyFields level fs).length < fuel) (comma : Bool) :
    readFields fuel (writePrettyFields level fs ++ (newLine outer ++ '}' :: r)) comma =
      (sourceFields fs, none, .ok r) := by
  obtain ⟨fuel, rfl⟩ := Nat.exists_eq_succ_of_ne_zero (Nat.ne_zero_of_lt hfuel)
  -- a blank stands between the colon and the value
  have hblank : ∀ s, readValue fuel (' ' :: s) = readValue fuel s := fun s =>
    readValue_congr (by simp [skipGap, isGap]) fuel
  match fs with
  | [] => exact absurd rfl hne
  | [(k, j)] =>
    rw [writePrettyFields] at hfuel ⊢
    simp only [List.length_append, List.length_cons] at hfuel
    rw [List.append_assoc, List.cons_append, List.cons_append]
    have hread := readValue_writePretty level j hj.1 (stops_newLine outer ('}' :: r)) fuel
      (by omega)
    exact readFields_last ((hblank _).trans hread) (skipGap_newLine outer _)
  | (k, j) :: f :: fs =>
    have htext : writePrettyFields level ((k, j) :: f :: fs) =
        writeString k ++ ':' :: ' ' :: (j.writePretty level ++
          ',' :: (newLine level ++ writePrettyFields level (f :: fs))) := by
      rw [writePrettyFields] <;> simp
    rw [htext] at hfuel ⊢
    simp only [List.length_append, List.length_cons] at hfuel
    rw [List.append_assoc, List.cons_append, List.cons_append, List.append_assoc, List.cons_append,
      List.append_assoc]
    have hmore := readFields_writePretty level (f :: fs) (by simp) hj.2 outer r fuel (by omega) true
    rw [← readFields_congr (skipGap_newLine level _)] at hmore
    exact readFields_more ((hblank _).trans
      (readValue_writePretty level j hj.1 (stops_comma _) fuel (by omega))) hmore

end

end WalletTasks.Json
