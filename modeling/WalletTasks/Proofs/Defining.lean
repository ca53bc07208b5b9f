import WalletTasks.DotEnv.File

/-!
# What a variables file defines

A variables file is read up to its first malformed line. Up to there its lines define values of
names, one after the other, and loading the file comes to setting these. What a name in a value
stands for may depend on what has been set further up.

* `loadLines_eq_setAll`: loading lines is setting what they define.
* `text?_setAll`: a variable keeps its text, and gets the first one defined for it otherwise.
* `get?_setAll`: no other variable changes.
* `setAll_isOk_iff`: only a text with NUL that had to be set is not survived.
-/

namespace WalletTasks

theorem exists_of_bind_eq_ok {ε α β : Type} {x : Except ε α} {f : α → Except ε β} {b : β}
    (h : x >>= f = .ok b) : ∃ a, x = .ok a ∧ f a = .ok b := by
  cases x with
  | error e => cases h
  | ok a => exact ⟨a, rfl, h⟩

namespace DotEnv

open Host

/-- Sets the variables of entries, one after the other. -/
def setAll : Variables → List Entry → Except String Variables
  | vars, [] => .ok vars
  | vars, e :: es => do setAll (← vars.setUnlessText e.name e.value) es

/-- What lines define, up to the first malformed one. -/
def definitions : Variables → List Line → List Entry
  | _, [] => []
  | _, .unfinished :: _ => []
  | vars, .complete s :: ls =>
    match Entry.ofLine? (meaning vars) s with
    | none => []
    | some none => definitions vars ls
    | some (some e) =>
      e :: match vars.setUnlessText e.name e.value with
        | .ok vars => definitions vars ls
        | .error _ => []

/-- The first value that entries give to a name. -/
def first? (es : List Entry) (name : String) : Option String :=
  (es.find? fun e => e.name = name).map Entry.value

/-- **Loading lines is setting what they define.** -/
theorem loadLines_eq_setAll (vars : Variables) (lines : List Line) :
    loadLines vars lines = setAll vars (definitions vars lines) := by
  induction lines generalizing vars with
  | nil => rfl
  | cons l ls ih =>
    cases l with
    | unfinished => rfl
    | complete s =>
      rw [loadLines, definitions]
      rcases Entry.ofLine? (meaning vars) s with _ | _ | e
      · rfl
      · exact ih vars
      · simp only [setAll]
        cases vars.setUnlessText e.name e.value with
        | error message => rfl
        | ok vars' => exact ih vars'

variable {vars vars' : Variables} {es : List Entry} {name value : String}

theorem setAll_cons (e : Entry) (es : List Entry) :
    setAll vars (e :: es) = vars.setUnlessText e.name e.value >>= fun vars => setAll vars es :=
  rfl

theorem first?_cons (e : Entry) (es : List Entry) (name : String) :
    first? (e :: es) name = if e.name = name then some e.value else first? es name := by
  unfold first?
  by_cases h : e.name = name <;> simp [h]

/-- The first definition of a name is one of the definitions. -/
theorem mem_of_first? (h : first? es name = some value) : ⟨name, value⟩ ∈ es := by
  obtain ⟨e, he, rfl⟩ := Option.map_eq_some_iff.1 h
  obtain rfl : e.name = name := by simpa using List.find?_some he
  exact List.mem_of_find?_eq_some he

/-- Among entries with different names, every entry is the first for its name. -/
theorem first?_of_mem {e : Entry} (hnodup : (es.map Entry.name).Nodup) (he : e ∈ es) :
    first? es e.name = some e.value := by
  induction es with
  | nil => cases he
  | cons d es ih =>
    rw [first?_cons]
    obtain ⟨hd, hnodup⟩ := List.nodup_cons.1 hnodup
    rcases List.mem_cons.1 he with rfl | he
    · exact if_pos rfl
    · rw [if_neg fun h : d.name = e.name => hd (h ▸ List.mem_map_of_mem he)]
      exact ih hnodup he

/-! ## What setting comes to -/

/-- Defining a variable changes nothing that has been defined before. -/
theorem setUnlessText_text? {defined : String} (h : vars.setUnlessText defined value = .ok vars') :
    vars'.text? name = (vars.text? name).or (if defined = name then some value else none) := by
  by_cases hname : defined = name
  · subst hname
    rw [Variables.text?_of_setUnlessText h, if_pos rfl]
    cases vars.text? defined <;> rfl
  · rw [if_neg hname, Variables.text?, Variables.get?_setUnlessText_of_ne h (Ne.symm hname),
      Option.or_none]
    rfl

/-- **A variable keeps its text, and gets the first one defined for it otherwise.** -/
theorem text?_setAll (h : setAll vars es = .ok vars') (name : String) :
    vars'.text? name = (vars.text? name).or (first? es name) := by
  induction es generalizing vars with
  | nil =>
    cases h
    simp [first?]
  | cons e es ih =>
    obtain ⟨vars₁, hset, h⟩ := exists_of_bind_eq_ok h
    rw [ih h, setUnlessText_text? hset, first?_cons, Option.or_assoc]
    split <;> rfl

/-- No variable changes but those that are defined. -/
theorem get?_setAll (h : setAll vars es = .ok vars') (hname : name ∉ es.map Entry.name) :
    vars'.get? name = vars.get? name := by
  induction es generalizing vars with
  | nil =>
    cases h
    rfl
  | cons e es ih =>
    rw [List.map_cons, List.mem_cons, not_or] at hname
    obtain ⟨vars₁, hset, h⟩ := exists_of_bind_eq_ok h
    rw [ih h hname.2, Variables.get?_setUnlessText_of_ne hset hname.1]

/-- A value is refused for its NUL, and only where it would have to be set. -/
theorem setUnlessText_isOk_iff :
    (∃ vars', vars.setUnlessText name value = .ok vars') ↔
      (vars.text? name = none → '\x00' ∉ value.toList) := by
  unfold Variables.setUnlessText
  cases vars.text? name with
  | some s => simp
  | none => by_cases h : '\x00' ∈ value.toList <;> simp [h]

/-- Entries can be set unless one of them would have to be set to a text with NUL. -/
theorem setAll_isOk_iff :
    (∃ vars', setAll vars es = .ok vars') ↔
      ∀ name value, vars.text? name = none → first? es name = some value →
        '\x00' ∉ value.toList := by
  induction es generalizing vars with
  | nil => simp [setAll, first?]
  | cons e es ih =>
    have hiff := @setUnlessText_isOk_iff vars e.name e.value
    rw [setAll_cons]
    simp only [first?_cons]
    cases hset : vars.setUnlessText e.name e.value with
    | error message =>
      refine ⟨fun ⟨_, h⟩ => (nomatch h), fun h => ?_⟩
      obtain ⟨_, hok⟩ := hiff.2 fun hnone => h e.name e.value hnone (if_pos rfl)
      rw [hset] at hok
      cases hok
    | ok vars₁ =>
      have hfree := hiff.1 ⟨vars₁, hset⟩
      refine Iff.trans ih ⟨fun h name value hnone hfirst => ?_, fun h name value hnone hfirst => ?_⟩
      -- the first definition of a name is this one, or it comes later
      · split at hfirst
        · rename_i hname
          cases hfirst
          exact hfree (hname ▸ hnone)
        · rename_i hname
          refine h name value ?_ hfirst
          rw [setUnlessText_text? hset, hnone, if_neg hname]
          rfl
      · rw [setUnlessText_text? hset, Option.or_eq_none_iff] at hnone
        have hname : e.name ≠ name := fun hname => by simp [hname] at hnone
        exact h name value hnone.1 (by rw [if_neg hname]; exact hfirst)

end DotEnv

end WalletTasks
