import WalletTasks.Proofs.Defining
import WalletTasks.Proofs.Quoting
import WalletTasks.Proofs.Writing
import WalletTasks.Startup
import Mathlib.Data.List.Basic

/-!
# What has been saved is loaded

The program writes its own variables file and reads it again. It finds what it has written, and
every entry is a line of its own, whatever the values are: so nothing but the variables of the
entries can be set. A value comes back as it was unless it has a dollar sign.

* `DotEnv.name_mem_of_definitions`: written entries define no other names than their own.
* `Startup.survive_iff`: the values that survive are those without a dollar sign.
* `Startup.saved_confined`: loading what was saved changes no other variable.
-/

namespace WalletTasks

open Host

/-! ## What written entries define -/

/-- No variable has a text with a character. -/
def Host.Variables.Lacks (vars : Variables) (d : Char) : Prop :=
  ∀ name s, vars.text? name = some s → d ∉ s.toList

namespace DotEnv

variable {vars vars' : Variables} {es : List Entry} {e : Entry} {d : Char} {name value : String}

theorem not_mem_meaning (h : vars.Lacks d) (name : String) : d ∉ (meaning vars name).toList := by
  unfold meaning
  cases hs : vars.text? name with
  | none => simp
  | some s => exact h name s hs

theorem lacks_empty : Variables.empty.Lacks d := fun _ _ (hs : none = some _) => nomatch hs

/-- A variable has a text if it is set and its value is text. -/
theorem text?_eq_some_iff {s : String} :
    vars.text? name = some s ↔ vars.get? name = some (.text s) := by
  unfold Variables.text?
  split
  · rename_i heq
    simp [heq]
  · rename_i hother
    simp only [reduceCtorEq, false_iff]
    exact fun heq => hother s heq

/-- Defining a variable without a character does not bring it in. -/
theorem lacks_setUnlessText (h : vars.Lacks d) (hvalue : d ∉ value.toList)
    (hset : vars.setUnlessText name value = .ok vars') : vars'.Lacks d := by
  intro other s hs
  rw [setUnlessText_text? hset, Option.or_eq_some_iff] at hs
  obtain hs | ⟨-, hs⟩ := hs
  · exact h other s hs
  · split at hs
    · cases hs
      exact hvalue
    · cases hs

/-- The lines of entries. -/
def quotedLines (es : List Entry) : List Line := es.map fun e => .complete e.quoted

/-- The line of an entry defines nothing, or its own name. -/
theorem ofLine?_quoted_cases (hname : isName e.name = true) (vars : Variables) :
    Entry.ofLine? (meaning vars) e.quoted = none ∨
      ∃ value, readValue (meaning vars) true .plain (escape e.value.toList ++ ['"']) = some value ∧
        Entry.ofLine? (meaning vars) e.quoted = some (some ⟨e.name, String.ofList value⟩) := by
  rw [Entry.ofLine?_quoted hname]
  cases readValue (meaning vars) true .plain (escape e.value.toList ++ ['"']) with
  | none => exact .inl rfl
  | some value => exact .inr ⟨value, rfl, rfl⟩

/-- Without a dollar sign in its value an entry is read as it is. -/
theorem ofLine?_quoted_eq (hname : isName e.name = true) (hdollar : '$' ∉ e.value.toList)
    (lookup : String → String) : Entry.ofLine? lookup e.quoted = some (some e) := by
  rw [Entry.ofLine?_quoted hname, readValue_escape hdollar]
  simp [readValue]

/-- **Written entries define no other names than their own**, whatever their values are. -/
theorem name_mem_of_definitions (hname : ∀ e ∈ es, isName e.name = true) {d : Entry}
    (hd : d ∈ definitions vars (quotedLines es)) : d.name ∈ es.map Entry.name := by
  induction es generalizing vars with
  | nil => cases hd
  | cons e es ih =>
    obtain ⟨he, hname⟩ := List.forall_mem_cons.1 hname
    rw [quotedLines, List.map_cons, definitions] at hd
    obtain hread | ⟨value, -, hread⟩ := ofLine?_quoted_cases he vars
    · rw [hread] at hd
      cases hd
    · rw [hread] at hd
      rcases List.mem_cons.1 hd with rfl | hd
      · exact List.mem_cons_self
      · split at hd
        · exact List.mem_cons_of_mem _ (ih hname hd)
        · cases hd

/-- Without NUL in values and variables there is none in what is defined. -/
theorem nul_not_mem_of_definitions (hname : ∀ e ∈ es, isName e.name = true)
    (hnul : ∀ e ∈ es, '\x00' ∉ e.value.toList) (hvars : vars.Lacks '\x00') {d : Entry}
    (hd : d ∈ definitions vars (quotedLines es)) : '\x00' ∉ d.value.toList := by
  induction es generalizing vars with
  | nil => cases hd
  | cons e es ih =>
    obtain ⟨he, hname⟩ := List.forall_mem_cons.1 hname
    obtain ⟨henul, hnul⟩ := List.forall_mem_cons.1 hnul
    rw [quotedLines, List.map_cons, definitions] at hd
    -- a line may be misread, but never into a value with a zero byte
    obtain hread | ⟨value, hvalue, hread⟩ := ofLine?_quoted_cases he vars
    · rw [hread] at hd
      cases hd
    · have hfree : '\x00' ∉ (String.ofList value).toList := by
        rw [String.toList_ofList]
        exact nul_not_mem_readValue (not_mem_meaning hvars) henul hvalue
      rw [hread] at hd
      rcases List.mem_cons.1 hd with rfl | hd
      · exact hfree
      · split at hd
        · rename_i vars' hset
          exact ih hname hnul (lacks_setUnlessText hvars hfree hset) hd
        · cases hd

/-- **Written entries define what they are**, if no value has a dollar sign. -/
theorem definitions_quotedLines (hname : ∀ e ∈ es, isName e.name = true)
    (hnul : ∀ e ∈ es, '\x00' ∉ e.value.toList) (hdollar : ∀ e ∈ es, '$' ∉ e.value.toList)
    (vars : Variables) : definitions vars (quotedLines es) = es := by
  induction es generalizing vars with
  | nil => rfl
  | cons e es ih =>
    obtain ⟨he, hname⟩ := List.forall_mem_cons.1 hname
    obtain ⟨henul, hnul⟩ := List.forall_mem_cons.1 hnul
    obtain ⟨hedollar, hdollar⟩ := List.forall_mem_cons.1 hdollar
    obtain ⟨vars', hset⟩ := setUnlessText_isOk_iff.2 fun _ : vars.text? e.name = none => henul
    rw [quotedLines, List.map_cons, definitions, ofLine?_quoted_eq he hedollar]
    simp only [hset]
    exact congrArg (e :: ·) (ih hname hnul hdollar vars')

/-- **A value with a dollar sign is not read as it was**, where no variable has a text with one. -/
theorem exists_changed (hname : ∀ e ∈ es, isName e.name = true)
    (hnodup : (es.map Entry.name).Nodup) (hunset : ∀ e ∈ es, vars.text? e.name = none)
    (hvars : vars.Lacks '$') (hdollar : ∃ e ∈ es, '$' ∈ e.value.toList)
    (h : loadLines vars (quotedLines es) = .ok vars') :
    ∃ e ∈ es, vars'.text? e.name ≠ some e.value := by
  induction es generalizing vars with
  | nil => simp at hdollar
  | cons e es ih =>
    obtain ⟨he, hname⟩ := List.forall_mem_cons.1 hname
    obtain ⟨heunset, hunset⟩ := List.forall_mem_cons.1 hunset
    obtain ⟨hne, hnodup⟩ := List.nodup_cons.1 hnodup
    rw [quotedLines, List.map_cons] at h
    by_cases hd : '$' ∈ e.value.toList
    · refine ⟨e, List.mem_cons_self, fun heq => ?_⟩
      obtain hread | ⟨value, hvalue, hread⟩ := ofLine?_quoted_cases he vars
      · -- the file is not read any further
        rw [loadLines, hread] at h
        cases h
        rw [heunset] at heq
        cases heq
      · -- one dollar sign is lost, and no variable brings in another
        rw [text?_of_load_cons hread h, heunset] at heq
        have hlt := count_readValue_lt (not_mem_meaning hvars) hd hvalue
        rw [← Option.some.inj heq] at hlt
        simp at hlt
    · -- the entry is read as it is, and the one with a dollar sign stands behind it
      rw [loadLines, ofLine?_quoted_eq he hd] at h
      obtain ⟨vars₁, hset, h⟩ := exists_of_bind_eq_ok h
      have hunset' : ∀ d ∈ es, vars₁.text? d.name = none := by
        intro d hmem
        have hdname : e.name ≠ d.name := fun heq => hne (heq ▸ List.mem_map_of_mem hmem)
        rw [setUnlessText_text? hset, hunset d hmem, if_neg hdname]
        rfl
      have hdollar' : ∃ d ∈ es, '$' ∈ d.value.toList := by
        obtain ⟨d, hmem, hdd⟩ := hdollar
        rcases List.mem_cons.1 hmem with rfl | hmem
        · exact absurd hdd hd
        · exact ⟨d, hmem, hdd⟩
      obtain ⟨d, hmem, hchanged⟩ :=
        ih hname hnodup hunset' (lacks_setUnlessText hvars hd hset) hdollar' h
      exact ⟨d, List.mem_cons_of_mem _ hmem, hchanged⟩

end DotEnv

namespace Startup

variable {h h₁ : Host} {entries : List DotEnv.Entry}

/-! ## Saving and loading -/

/-- What saving leaves: nothing has changed but the files, and these by the one that is written. -/
theorem save_stores (hsave : save h entries = (h₁, .ok ())) :
    h.files.Stores h.variablesPath (DotEnv.render entries) h₁.files ∧
      h₁ = { h with files := h₁.files } := by
  unfold save at hsave
  simp only at hsave
  have hgrows := Files.makeDirectories_grows h.files ((Path.parent? h.variablesPath).getD "")
  rcases hmake : h.files.makeDirectories ((Path.parent? h.variablesPath).getD "") with
    ⟨files, e | ⟨⟨⟩⟩⟩
  · rw [hmake] at hsave
    cases hsave
  · rw [hmake] at hsave hgrows
    simp only at hsave
    -- the directories are there, and the file is written into them
    cases hwrite : files.write h.variablesPath (DotEnv.render entries) with
    | error e =>
      rw [hwrite] at hsave
      cases hsave
    | ok files' =>
      rw [hwrite] at hsave
      cases hsave
      exact ⟨Files.write_stores hgrows hwrite, rfl⟩

/-- What has been saved is read line by line. -/
theorem loadOwn_save (hname : ∀ e ∈ entries, DotEnv.isName e.name = true)
    (hsave : save h entries = (h₁, .ok ())) :
    h₁.variables = h.variables ∧
      loadOwn h₁ = DotEnv.loadLines h.variables (DotEnv.quotedLines entries) >>= fun vars =>
        .ok { h₁ with «variables» := vars } := by
  obtain ⟨hstores, heq⟩ := save_stores hsave
  have hvars : h₁.variables = h.variables := by rw [heq]
  have hpath : h₁.variablesPath = h.variablesPath := by rw [heq]; rfl
  refine ⟨hvars, ?_⟩
  unfold loadOwn
  rw [hpath, hstores.find, hvars]
  simp only [Except.toOption, loadEntry, DotEnv.load, DotEnv.Line.ofText_render hname,
    DotEnv.quotedLines]

/-- Whether a file can be saved does not depend on what is saved. -/
theorem save_snd (h : Host) (es es' : List DotEnv.Entry) : (save h es).2 = (save h es').2 := by
  have hwrite := fun files : Files => files.write_map_unit h.variablesPath
    (DotEnv.render es) (DotEnv.render es')
  unfold save
  simp only
  rcases h.files.makeDirectories ((Path.parent? h.variablesPath).getD "") with ⟨files, e | ⟨⟨⟩⟩⟩
  · rfl
  · replace hwrite := hwrite files
    simp only
    revert hwrite
    cases files.write h.variablesPath (DotEnv.render es) <;>
      cases files.write h.variablesPath (DotEnv.render es') <;>
      simp [Except.map]

/-- **Entries survive**: on any machine where their variables are not set, once they have been
saved, loading sets each of them to its value. -/
def Survive (entries : List DotEnv.Entry) : Prop :=
  ∀ h h₁ : Host, (∀ e ∈ entries, h.variables.get? e.name = none) →
    save h entries = (h₁, .ok ()) →
    ∃ h₂, loadOwn h₁ = .ok h₂ ∧ ∀ e ∈ entries, h₂.variables.text? e.name = some e.value

/-- Without a dollar sign and a zero byte all variables survive. -/
theorem survive_of_noDollar (hname : ∀ e ∈ entries, DotEnv.isName e.name = true)
    (hnodup : (entries.map DotEnv.Entry.name).Nodup)
    (hnul : ∀ e ∈ entries, '\x00' ∉ e.value.toList)
    (hdollar : ∀ e ∈ entries, '$' ∉ e.value.toList) : Survive entries := by
  intro h h₁ hunset hsave
  obtain ⟨-, hload⟩ := loadOwn_save hname hsave
  obtain ⟨vars, hset⟩ : ∃ vars, DotEnv.setAll h.variables entries = .ok vars :=
    DotEnv.setAll_isOk_iff.2 fun name value _ hfirst => hnul _ (DotEnv.mem_of_first? hfirst)
  rw [DotEnv.loadLines_eq_setAll, DotEnv.definitions_quotedLines hname hnul hdollar, hset] at hload
  refine ⟨_, hload, fun e he => ?_⟩
  have hnone : h.variables.text? e.name = none := by
    unfold Variables.text?
    rw [hunset e he]
  show vars.text? e.name = some e.value
  rw [DotEnv.text?_setAll hset, hnone, DotEnv.first?_of_mem hnodup he]
  rfl

/-- The machine without files and variables. -/
def bare : Host := ⟨⟨[], []⟩, .empty⟩

theorem save_bare_nil : (save bare []).2 = .ok () := by decide +kernel

/-- Any variables can be saved on a bare machine. -/
theorem save_bare (entries : List DotEnv.Entry) : ∃ h₁, save bare entries = (h₁, .ok ()) :=
  ⟨(save bare entries).1, Prod.ext rfl ((save_snd bare entries []).trans save_bare_nil)⟩

/-- **Which values survive being saved**: exactly those without a dollar sign. Blanks, newlines,
quotation marks, backslashes and number signs are kept, but what follows a dollar sign is taken for
the name of a variable. -/
theorem survive_iff (hname : ∀ e ∈ entries, DotEnv.isName e.name = true)
    (hnodup : (entries.map DotEnv.Entry.name).Nodup)
    (hnul : ∀ e ∈ entries, '\x00' ∉ e.value.toList) :
    Survive entries ↔ ∀ e ∈ entries, '$' ∉ e.value.toList := by
  refine ⟨fun hsurvive => ?_, survive_of_noDollar hname hnodup hnul⟩
  by_contra hdollar
  obtain ⟨h₁, hsave⟩ := save_bare entries
  obtain ⟨h₂, hload, hkept⟩ := hsurvive bare h₁ (fun _ _ => rfl) hsave
  obtain ⟨-, hread⟩ := loadOwn_save hname hsave
  rw [hread] at hload
  obtain ⟨vars, hlines, hload⟩ := exists_of_bind_eq_ok hload
  cases hload
  obtain ⟨e, he, hchanged⟩ := DotEnv.exists_changed hname hnodup (fun _ _ => rfl)
    DotEnv.lacks_empty (by simpa using hdollar) hlines
  exact hchanged (hkept e he)

/-- Quotation marks, backslashes, number signs and newlines survive, and a dollar sign does not. -/
theorem sample_survive_iff :
    Survive [⟨"NOTE", "a \"b\" \\ # 'c'\nD=1"⟩, ⟨"MODE", "prod"⟩] ∧
      ¬Survive [⟨"PRICE", "5$"⟩] := by
  refine ⟨(survive_iff (by decide) (by decide) (by decide)).2 (by decide), fun h => ?_⟩
  have hdollar := (survive_iff (by decide) (by decide) (by decide)).1 h
  revert hdollar
  decide

/-- On a machine without variables a name in a value is replaced by what stands further up in the
same file. -/
theorem sample_replaced :
    let entries : List DotEnv.Entry := [⟨"A", "1"⟩, ⟨"B", "$\x7bA\x7d"⟩, ⟨"C", "after"⟩]
    let saved := save bare entries
    saved.2 = .ok () ∧
      (loadOwn saved.1).toOption.map (fun h => h.variables.text? "B") = some (some "1") := by
  decide +kernel

/-- **Nothing is set but what was saved**, whatever the values are. Once entries have been saved,
loading them changes no variable with another name, and none that had a text. -/
theorem saved_confined (hname : ∀ e ∈ entries, DotEnv.isName e.name = true)
    (hnul : ∀ e ∈ entries, '\x00' ∉ e.value.toList) (hvars : h.variables.Lacks '\x00')
    (hsave : save h entries = (h₁, .ok ())) :
    ∃ h₂, loadOwn h₁ = .ok h₂ ∧
      (∀ name, name ∉ entries.map DotEnv.Entry.name →
        h₂.variables.get? name = h.variables.get? name) ∧
      ∀ name s, h.variables.get? name = some (.text s) →
        h₂.variables.get? name = some (.text s) := by
  obtain ⟨-, hload⟩ := loadOwn_save hname hsave
  rw [DotEnv.loadLines_eq_setAll] at hload
  generalize hdefs : DotEnv.definitions h.variables (DotEnv.quotedLines entries) = defs at hload
  obtain ⟨vars, hset⟩ : ∃ vars, DotEnv.setAll h.variables defs = .ok vars := by
    refine DotEnv.setAll_isOk_iff.2 fun name value _ hfirst => ?_
    exact DotEnv.nul_not_mem_of_definitions hname hnul hvars
      (hdefs ▸ DotEnv.mem_of_first? hfirst)
  rw [hset] at hload
  refine ⟨_, hload, fun name hother => ?_, fun name s hs => ?_⟩
  · refine DotEnv.get?_setAll hset fun hdefined => hother ?_
    obtain ⟨d, hd, rfl⟩ := List.mem_map.1 hdefined
    exact DotEnv.name_mem_of_definitions hname (hdefs ▸ hd)
  · rw [← DotEnv.text?_eq_some_iff] at hs ⊢
    rw [DotEnv.text?_setAll hset, hs]
    rfl

/-- A value that looks like the end of its line and further lines sets no other variable, and one
that is set already stays. -/
theorem sample_saved_confined :
    let h : Host := { bare with «variables» := ⟨[("MODE", .text "dev")]⟩ }
    let entries : List DotEnv.Entry :=
      [⟨"NOTE", "prod\"\nOTHER=\"1"⟩, ⟨"MODE", "prod\nOTHER=$MODE\n"⟩, ⟨"END", "$OTHER\""⟩]
    ∃ h₂, loadOwn (save h entries).1 = .ok h₂ ∧ h₂.variables.get? "OTHER" = none ∧
      h₂.variables.get? "MODE" = some (.text "dev") := by
  intro h entries
  have hset : Variables.empty.setUnlessText "MODE" "dev" = .ok h.variables := rfl
  have hvars : h.variables.Lacks '\x00' :=
    DotEnv.lacks_setUnlessText DotEnv.lacks_empty (by decide) hset
  have hsaved : (save h entries).2 = .ok () := by decide +kernel
  have hsave : save h entries = ((save h entries).1, .ok ()) := by rw [← hsaved]
  obtain ⟨h₂, hload, hother, hkept⟩ :=
    saved_confined (by decide) (by decide) hvars hsave
  exact ⟨h₂, hload, hother "OTHER" (by decide), hkept "MODE" "dev" (by decide)⟩

end Startup

end WalletTasks
