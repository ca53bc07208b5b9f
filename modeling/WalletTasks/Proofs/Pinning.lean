import WalletTasks.Command.Perform
import WalletTasks.Proofs.Layering
import WalletTasks.Proofs.Preserving

/-!
# A pinned environment

New settings can be written together with the name of an environment. The name goes into the
settings, and as a variable into the program's own variables file, where it counts from the next
start on. It is written whatever it is, but a start needs the environment that it stands for: so the
program can be configured again if there is one, and hardly ever otherwise.

* `DotEnv.loadLines_quoted`: what a file with one written entry sets.
* `Host.Pinned`: what is on a machine once an environment has been pinned. Its variables file may be
  the nearest one as well, and is then read twice.
* `Config.load_pinned_eq`: which name decides the environment afterwards.
* `Command.settles_iff`: the names that settle the environment are those that stand for one, and
  others lock the user out.
-/

namespace WalletTasks

open Host

/-! ## One written entry -/

namespace DotEnv

variable {vars vars' : Variables} {e : Entry}

/-- What the line of an entry is read as, where names in it stand for the values of variables. -/
def Entry.readBack? (vars : Variables) (e : Entry) : Option String :=
  (Entry.ofLine? (meaning vars) e.quoted).join.map Entry.value

/-- **What a file with one written entry sets**: its variable, unless the line cannot be read. -/
theorem loadLines_quoted (hname : isName e.name = true) (vars : Variables) :
    loadLines vars (quotedLines [e]) =
      match e.readBack? vars with
      | none => .ok vars
      | some value => vars.setUnlessText e.name value := by
  show loadLines vars [.complete e.quoted] = _
  unfold Entry.readBack?
  rw [loadLines]
  obtain hread | ⟨value, -, hread⟩ := ofLine?_quoted_cases hname vars
  · rw [hread]
    rfl
  · rw [hread]
    show (vars.setUnlessText e.name (String.ofList value) >>= fun vars => .ok vars) =
      vars.setUnlessText e.name (String.ofList value)
    cases vars.setUnlessText e.name (String.ofList value) <;> rfl

/-- A second time, the file sets nothing. -/
theorem loadLines_quoted_again (hname : isName e.name = true)
    (h : loadLines vars (quotedLines [e]) = .ok vars') :
    loadLines vars' (quotedLines [e]) = .ok vars' := by
  rw [loadLines_quoted hname] at h ⊢
  cases hread : e.readBack? vars with
  | none =>
    rw [hread] at h
    cases h
    rw [hread]
  | some value =>
    rw [hread] at h
    have htext := Variables.text?_of_setUnlessText h
    -- the line may be read otherwise now, but its variable has a text
    cases e.readBack? vars' with
    | none => rfl
    | some _ => exact Variables.setUnlessText_of_text htext

/-- No other variable changes. -/
theorem get?_of_loadLines_quoted {other : String} (hname : isName e.name = true)
    (h : loadLines vars (quotedLines [e]) = .ok vars') (hne : other ≠ e.name) :
    vars'.get? other = vars.get? other := by
  rw [loadLines_quoted hname] at h
  cases hread : e.readBack? vars with
  | none =>
    rw [hread] at h
    cases h
    rfl
  | some value =>
    rw [hread] at h
    exact Variables.get?_setUnlessText_of_ne h hne

/-- A value without a dollar sign is read back as it was written. -/
theorem readBack?_of_noDollar (hname : isName e.name = true) (hdollar : '$' ∉ e.value.toList)
    (vars : Variables) : e.readBack? vars = some e.value := by
  rw [Entry.readBack?, ofLine?_quoted_eq hname hdollar]
  rfl

end DotEnv

/-! ## Names of environments -/

namespace Config

/-- A character that is no blank and no capital comes through the normal form. -/
theorem mem_normalName {name : String} {c : Char} (hblank : Text.isBlank c = false)
    (hlower : Text.lowerAscii c = c) (hhyphen : c ≠ '-') (h : c ∈ name.toList) :
    c ∈ (normalName name).toList := by
  have hspace : c ≠ ' ' := by
    rintro rfl
    cases hblank
  obtain ⟨before, after, hname, hbefore, hafter⟩ := Text.pads_trim name.toList
  have htrim : c ∈ Text.trim name.toList := by
    rw [hname, List.mem_append, List.mem_append] at h
    obtain h | h | h := h
    · rw [hbefore c h] at hblank
      cases hblank
    · exact h
    · rw [hafter c h] at hblank
      cases hblank
  rw [normalName, String.toList_ofList]
  exact List.mem_map.2 ⟨c, htrim, by simp [hlower, hhyphen, hspace]⟩

/-- The normal forms of the names of environments. -/
def environmentNames : List String := ["local", "dev", "development", "prod", "production"]

theorem normalName_mem {name : String} {e : Environment} (h : environmentOf? name = some e) :
    normalName name ∈ environmentNames := by
  unfold environmentOf? at h
  revert h
  generalize normalName name = n
  intro h
  by_contra hn
  simp only [environmentNames, List.mem_cons, List.not_mem_nil, or_false, not_or] at hn
  simp [hn] at h

/-- The name of an environment has neither a dollar sign nor a NUL. -/
theorem plain_of_environmentOf? {name : String} {e : Environment}
    (h : environmentOf? name = some e) : '$' ∉ name.toList ∧ '\x00' ∉ name.toList := by
  have hplain : ∀ n ∈ environmentNames, '$' ∉ n.toList ∧ '\x00' ∉ n.toList := by decide
  obtain ⟨hdollar, hnul⟩ := hplain _ (normalName_mem h)
  exact ⟨fun hmem => hdollar (mem_normalName rfl rfl (by decide) hmem),
    fun hmem => hnul (mem_normalName rfl rfl (by decide) hmem)⟩

/-- A blank name stands for no environment. -/
theorem allBlank_of_environmentOf? {name : String} {e : Environment}
    (h : environmentOf? name = some e) : Text.allBlank name = false := by
  by_contra hblank
  rw [Bool.not_eq_false] at hblank
  have htrim : Text.trim name.toList = [] :=
    Text.trim_eq_of_pads ⟨name.toList, [], by simp, List.all_eq_true.1 hblank, nofun⟩ nofun
  have hnormal : normalName name = "" := by
    rw [normalName, htrim]
    rfl
  have hmem := normalName_mem h
  rw [hnormal] at hmem
  revert hmem
  decide

end Config

/-! ## What is written -/

/-- The settings with an environment, and the defaults for the rest. -/
def Settings.pinning (name : String) : Settings :=
  { standard with run := { standard.run with env := name } }

/-- The configuration with an environment, and the defaults for the rest. -/
def Config.usual (environment : Environment) : Config :=
  ⟨{ Limits.standard with environment }, ⟨Settings.standard.log.filter, false⟩⟩

/-- The entry that pins an environment. -/
def DotEnv.Entry.pinning (name : String) : DotEnv.Entry := ⟨Config.Key.environment.name, name⟩

namespace Startup

variable {files : Files} {text : String}

/-- There is no nearest file if there is none here and none above. -/
theorem nearest?_eq_none_iff :
    nearest? files = none ↔ ∀ place ∈ upwards files.here, files.IsVacant (place ++ [".env"]) := by
  unfold nearest? Files.IsVacant
  rw [List.findSome?_eq_none_iff]
  refine forall₂_congr fun place _ => ?_
  rcases files.at? (place ++ [".env"]) with _ | _ | _ | _ <;> simp

/-- If there is one file at most, then it is the nearest one or there is none. -/
theorem nearest?_of_file_or_isVacant
    (h : ∀ place ∈ upwards files.here, files.at? (place ++ [".env"]) = some (.file text) ∨
      files.IsVacant (place ++ [".env"])) :
    nearest? files = none ∨ nearest? files = some (.file text) := by
  cases hnearest : nearest? files with
  | none => exact .inl rfl
  | some e =>
    obtain ⟨place, hplace, hfound⟩ := List.exists_of_findSome?_eq_some hnearest
    obtain hfile | hnone | hdirectory := h place hplace
    · rw [hfile] at hfound
      exact .inr hfound.symm
    · rw [hnone] at hfound
      cases hfound
    · rw [hdirectory] at hfound
      cases hfound

end Startup

/-- Making room for a file only adds directories. -/
theorem Settings.makeRoom_grows (files : Files) (path : String) :
    files.Grows (makeRoom files path).1 := by
  unfold makeRoom
  split
  · exact .refl files
  · exact Files.makeDirectories_grows _ _

/-- Settings that are saved stand in their file as they are rendered. -/
theorem Settings.save_stores {s : Settings} {files files' : Files} {path : String}
    (h : s.save files path = (files', .ok ())) :
    ∃ text, s.render? = some text ∧ files.Stores path text files' := by
  unfold save at h
  -- rendered, room made, written: it is the last step that counts
  cases hrender : s.render? with
  | none =>
    rw [hrender] at h
    cases h
  | some text =>
    rw [hrender] at h
    simp only at h
    have hgrows := makeRoom_grows files path
    rcases hroom : makeRoom files path with ⟨made, e | ⟨⟨⟩⟩⟩
    · rw [hroom] at h
      cases h
    · rw [hroom] at h hgrows
      simp only at h
      cases hwrite : made.write path text with
      | error e =>
        rw [hwrite] at h
        cases h
      | ok written =>
        rw [hwrite] at h
        cases h
        exact ⟨text, rfl, Files.write_stores hgrows hwrite⟩

/-- **What is on a machine once an environment has been pinned**: the settings and the entry. The
variables file may be the nearest one as well, if there was none before. -/
structure Host.Pinned (h : Host) (name : String) (h₁ : Host) : Prop where
  variables_eq : h₁.variables = h.variables
  settings : Settings.load h₁.files h.settingsPath = .ok (some (.pinning name))
  own : h₁.files.find h.variablesPath = .ok (.file (DotEnv.render [.pinning name]))
  nearest : Startup.nearest? h.files = none →
    Startup.nearest? h₁.files = none ∨
      Startup.nearest? h₁.files = some (.file (DotEnv.render [.pinning name]))

theorem Settings.inRange_pinning (name : String) : (pinning name).InRange :=
  show standard.InRange by decide

/-- What initialising with an environment comes to: the settings may be there already, or cannot be
saved, or else the environment is pinned. -/
theorem Command.initConfig_cases (h : Host) (force : Bool) (name : String) :
    (h.files.pathExists h.settingsPath = true ∧
      initConfig h force (some name) = ⟨h, "", some (.alreadyExists h.settingsPath)⟩) ∨
    (∃ files e, (Settings.pinning name).save h.files h.settingsPath = (files, .error e) ∧
      initConfig h force (some name) = ⟨{ h with files }, "", some (.settingsUnsaved e)⟩) ∨
    ∃ files, (Settings.pinning name).save h.files h.settingsPath = (files, .ok ()) ∧
      initConfig h force (some name) =
        pinEnvironment { h with files } (written h.settingsPath) name := by
  unfold initConfig
  simp only [Option.getD_some]
  split
  · next hexists => exact .inl ⟨hexists.1, rfl⟩
  · refine .inr ?_
    rw [← Settings.pinning.eq_1]
    rcases (Settings.pinning name).save h.files h.settingsPath with ⟨files, e | ⟨⟨⟩⟩⟩
    · exact .inl ⟨files, e, rfl, rfl⟩
    · exact .inr ⟨files, rfl, rfl⟩

theorem Command.save_of_pinEnvironment {h : Host} {output name : String}
    (hok : (pinEnvironment h output name).error = none) :
    Startup.save h [.pinning name] = ((pinEnvironment h output name).host, .ok ()) := by
  unfold pinEnvironment at hok ⊢
  unfold DotEnv.Entry.pinning Config.Key.name
  revert hok
  rcases Startup.save h [⟨"CHAINFLOW_ENV", name⟩] with ⟨h₁, e | ⟨⟨⟩⟩⟩
  · exact fun hok => nomatch hok
  · exact fun _ => rfl

/-- Initialising with an environment saves both files, one after the other. -/
theorem Command.saves_of_initConfig {h : Host} {force : Bool} {name : String}
    (hok : (initConfig h force (some name)).error = none) :
    ∃ files, (Settings.pinning name).save h.files h.settingsPath = (files, .ok ()) ∧
      Startup.save { h with files } [.pinning name] =
        ((initConfig h force (some name)).host, .ok ()) := by
  obtain ⟨-, heq⟩ | ⟨_, _, -, heq⟩ | ⟨files, hsettings, heq⟩ := initConfig_cases h force name
  · rw [heq] at hok
    cases hok
  · rw [heq] at hok
    cases hok
  · rw [heq] at hok ⊢
    exact ⟨files, hsettings, save_of_pinEnvironment hok⟩

/-- **Initialising pins the environment**, whatever its name is. -/
theorem Command.pinned_initConfig {h : Host} {force : Bool} {name : String}
    (hok : (initConfig h force (some name)).error = none) :
    h.Pinned name (initConfig h force (some name)).host := by
  obtain ⟨files, hsettings, hentry⟩ := saves_of_initConfig hok
  generalize (initConfig h force (some name)).host = h₁ at hentry
  obtain ⟨text, hrender, hfirst⟩ := Settings.save_stores hsettings
  obtain ⟨hsecond, heq⟩ := Startup.save_stores hentry
  have hsettingsName : (Path.parts h.settingsPath).getLast? = some "config.toml" :=
    Path.getLast?_parts_join _ _
  have hvariablesName : (Path.parts h.variablesPath).getLast? = some ".env" :=
    Path.getLast?_parts_join _ _
  refine ⟨by rw [heq], ?_, hsecond.find, fun hnearest => ?_⟩
  · -- the settings are still there when the entry has been written behind them
    have hfind : h₁.files.find h.settingsPath = .ok (.file text) :=
      hfirst.find_before hsecond (by
        rw [hsettingsName]
        exact fun hname => absurd (hname.trans hvariablesName) (by decide))
    have hparse := Settings.parse?_render? _ (Settings.inRange_pinning name)
    rw [hrender] at hparse
    refine Settings.load_of_read ?_ hparse
    unfold Files.read
    rw [hfind]
    rfl
  · rw [Startup.nearest?_eq_none_iff] at hnearest
    refine Startup.nearest?_of_file_or_isVacant fun place hplace => ?_
    rw [hsecond.here, hfirst.here] at hplace
    -- the settings have another name than the files that are looked for
    have hmid : files.IsVacant (place ++ [".env"]) := by
      obtain ⟨-, hlast⟩ | hvacant := hfirst.file_or_isVacant (hnearest place hplace)
      · rw [List.getLast?_concat, hsettingsName] at hlast
        simp at hlast
      · exact hvacant
    exact (hsecond.file_or_isVacant hmid).imp_left And.left

/-! ## How the program is configured afterwards -/

/-- Nothing on the machine configures the program but its own files: no key is set, and no file
`.env` stands in the working directory or above. -/
structure Host.IsUnconfigured (h : Host) : Prop where
  keys : ∀ key : Config.Key, h.variables.get? key.name = none
  nearest : Startup.nearest? h.files = none

theorem DotEnv.Entry.isName_pinning (name : String) : isName (pinning name).name = true :=
  show isName "CHAINFLOW_ENV" = true by decide

variable {h h₁ : Host} {name : String} {vars : Variables}

/-- The home directory decides where the program looks for its files. -/
theorem Host.paths_of_home {h h' : Host}
    (hhome : h'.variables.get? "HOME" = h.variables.get? "HOME") :
    h'.variablesPath = h.variablesPath ∧ h'.settingsPath = h.settingsPath := by
  have heq : h'.home = h.home := by
    unfold home Variables.text?
    rw [hhome]
  unfold variablesPath settingsPath programDirectory
  rw [heq]
  exact ⟨rfl, rfl⟩

/-- **Start-up sets the variable that was pinned**, and it does so once even if the file is the
nearest one as well. -/
theorem Startup.load_pinned (hpinned : h.Pinned name h₁) (hnearest : nearest? h.files = none) :
    load h₁ = (DotEnv.loadLines h.variables (DotEnv.quotedLines [.pinning name])).map
      fun vars => { h₁ with «variables» := vars } := by
  have hname := DotEnv.Entry.isName_pinning name
  have hlines : linesOf (some (.file (DotEnv.render [.pinning name]))) =
      DotEnv.quotedLines [.pinning name] :=
    DotEnv.Line.ofText_render (by simpa using hname)
  have hown : ∀ vars : Variables, vars.get? "HOME" = h.variables.get? "HOME" →
      loadOwn { h₁ with «variables» := vars } =
        (DotEnv.loadLines vars (DotEnv.quotedLines [.pinning name])).map
          fun vars => { h₁ with «variables» := vars } := by
    intro vars hhome
    have hpath : ({ h₁ with «variables» := vars } : Host).variablesPath = h.variablesPath :=
      (Host.paths_of_home hhome).1
    unfold loadOwn
    rw [hpath, hpinned.own, Except.toOption, loadEntry_eq, hlines]
    cases DotEnv.loadLines vars (DotEnv.quotedLines [.pinning name]) <;> rfl
  unfold load loadNearest
  rw [loadEntry_eq, hpinned.variables_eq]
  -- the working directory may lie below the home, so that the own file is the nearest one as well
  obtain hnone | hfile := hpinned.nearest hnearest
  · rw [hnone]
    exact hown h.variables rfl
  · rw [hfile, hlines]
    cases hload : DotEnv.loadLines h.variables (DotEnv.quotedLines [.pinning name]) with
    | error message => rfl
    | ok vars =>
      show loadOwn { h₁ with «variables» := vars } = _
      have hhome : vars.get? "HOME" = h.variables.get? "HOME" :=
        DotEnv.get?_of_loadLines_quoted hname hload (show "HOME" ≠ "CHAINFLOW_ENV" by decide)
      rw [hown vars hhome, DotEnv.loadLines_quoted_again hname hload]

namespace Config

/-- A choice is made by the variable if it is given, and by the settings otherwise. -/
theorem choice_of_given {α : Type} {key : String} {given : Option String}
    (h : given? vars key = .ok given) (setting : String) (read? : String → Option α)
    (expected : String) :
    choice vars key setting read? expected =
      match read? (given.getD setting) with
      | some a => .ok a
      | none =>
        .error (.invalidValue key
          ("expected " ++ expected ++ ", got '" ++ given.getD setting ++ "'")) := by
  unfold choice
  rw [h]
  rfl

/-- The environment that the variables choose or, failing that, the settings. -/
def chosen (vars : Variables) (setting : String) : Except ConfigError Environment :=
  choice vars "CHAINFLOW_ENV" setting environmentOf? "'local', 'dev', or 'prod'"

/-- Where no other key is set, everything but the environment has its default. -/
theorem resolve_pinning (hunset : ∀ key : Key, key ≠ .environment → vars.get? key.name = none)
    (name : String) :
    resolve vars (.pinning name) = (chosen vars name).map usual := by
  have hgiven : ∀ key : Key, key ≠ .environment → given? vars key.name = .ok none := by
    intro key hkey
    unfold given?
    rw [hunset key hkey]
  have hnumber : ∀ (key : Key) (setting : UInt64), key ≠ .environment →
      number vars key.name setting = positive key.name setting.toNat := by
    intro key setting hkey
    unfold number
    rw [hgiven key hkey]
    rfl
  have hformat : choice vars "LOG_FORMAT" "pretty" jsonOf? "'pretty' or 'json'" = .ok false :=
    choice_of_given (hgiven .format (by decide)) "pretty" jsonOf? "'pretty' or 'json'"
  have htimeout := hnumber .timeout 120 (by decide)
  have hstarkNet := hnumber .starkNetTimeout 600 (by decide)
  have hpoll := hnumber .pollInterval 3000 (by decide)
  simp only [Key.name] at htimeout hstarkNet hpoll
  simp only [resolve, limitsOf, loggingOf, Settings.pinning, Settings.standard, htimeout, hstarkNet,
    hpoll, hformat]
  rw [chosen]
  cases choice vars "CHAINFLOW_ENV" name environmentOf? "'local', 'dev', or 'prod'" <;> rfl

/-- **How the program is configured** once an environment has been pinned. -/
theorem load_pinned (hpinned : h.Pinned name h₁) (hunconfigured : h.IsUnconfigured) :
    (load h₁ none).map Prod.snd =
      match DotEnv.loadLines h.variables (DotEnv.quotedLines [.pinning name]) with
      | .error message => .error (.crash message)
      | .ok vars => ((chosen vars name).map usual).mapError .error := by
  have hname := DotEnv.Entry.isName_pinning name
  unfold load
  rw [Startup.load_pinned hpinned hunconfigured.nearest]
  cases hload : DotEnv.loadLines h.variables (DotEnv.quotedLines [.pinning name]) with
  | error message => rfl
  | ok vars =>
    have hother : ∀ {other : String}, other ≠ "CHAINFLOW_ENV" →
        vars.get? other = h.variables.get? other :=
      fun hne => DotEnv.get?_of_loadLines_quoted hname hload hne
    have hpath : ({ h₁ with «variables» := vars } : Host).settingsPath = h.settingsPath :=
      (Host.paths_of_home (hother (by decide))).2
    have hunset : ∀ key : Key, key ≠ .environment → vars.get? key.name = none := by
      intro key hkey
      rw [hother (by cases key <;> simp_all [Key.name]), hunconfigured.keys]
    show (Except.mapError _ (settings { h₁ with «variables» := vars } none) >>= _).map _ =
      ((chosen vars name).map usual).mapError Failure.error
    rw [settings_none, hpath, hpinned.settings]
    show ((resolve vars (.pinning name)).mapError _ >>= _).map _ = _
    rw [resolve_pinning hunset]
    cases chosen vars name <;> rfl

/-- The outcome where a name decides the environment, and the defaults everything else. -/
def settled (name : String) : Except Failure Config :=
  match environmentOf? name with
  | some e => .ok (usual e)
  | none => .error (.error (.invalidValue "CHAINFLOW_ENV"
      ("expected 'local', 'dev', or 'prod', got '" ++ name ++ "'")))

theorem settled_eq_ok_iff {config : Config} :
    settled name = .ok config ↔ ∃ e, environmentOf? name = some e ∧ config = usual e := by
  unfold settled
  cases environmentOf? name <;> simp [eq_comm]

/-- Both places name the same environment, so that it does not matter which of them decides. -/
theorem settled_of_given {given : Option String}
    (hgiven : given? vars "CHAINFLOW_ENV" = .ok given) (name : String) :
    ((chosen vars name).map usual).mapError .error = settled (given.getD name) := by
  rw [chosen, choice_of_given hgiven, settled]
  cases environmentOf? (given.getD name) <;> rfl

/-- **Which name decides the environment** once one has been pinned: what its line is read as,
unless this is blank, and that in the settings otherwise. -/
theorem load_pinned_eq (hpinned : h.Pinned name h₁) (hunconfigured : h.IsUnconfigured) :
    (load h₁ none).map Prod.snd =
      match (DotEnv.Entry.pinning name).readBack? h.variables with
      | none => settled name
      | some value =>
        if '\x00' ∈ value.toList then .error (.crash (Variables.refusal "CHAINFLOW_ENV" value))
        else settled (if Text.allBlank value then name else value) := by
  have hkey : h.variables.get? "CHAINFLOW_ENV" = none := hunconfigured.keys .environment
  rw [load_pinned hpinned hunconfigured,
    DotEnv.loadLines_quoted (DotEnv.Entry.isName_pinning name)]
  -- not read back at all, or as a value that may differ from the name
  cases (DotEnv.Entry.pinning name).readBack? h.variables with
  | none =>
    have hgiven : given? h.variables "CHAINFLOW_ENV" = .ok none := by
      unfold given?
      rw [hkey]
    exact settled_of_given hgiven name
  | some value =>
    have hset : h.variables.setUnlessText "CHAINFLOW_ENV" value =
        if '\x00' ∈ value.toList then .error (Variables.refusal "CHAINFLOW_ENV" value)
        else .ok (h.variables.set "CHAINFLOW_ENV" (.text value)) := by
      simp [Variables.setUnlessText, Variables.text?, hkey]
    show (match h.variables.setUnlessText "CHAINFLOW_ENV" value with
      | .error message => .error (.crash message)
      | .ok vars => ((chosen vars name).map usual).mapError .error) =
        if '\x00' ∈ value.toList then .error (.crash (Variables.refusal "CHAINFLOW_ENV" value))
        else settled (if Text.allBlank value then name else value)
    rw [hset]
    by_cases hnul : '\x00' ∈ value.toList
    · rw [if_pos hnul, if_pos hnul]
    · rw [if_neg hnul, if_neg hnul]
      have hgiven : given? (h.variables.set "CHAINFLOW_ENV" (.text value)) "CHAINFLOW_ENV" =
          .ok (if Text.allBlank value then none else some value) := by
        unfold given?
        rw [Variables.get?_set]
      refine (settled_of_given hgiven name).trans (congrArg settled ?_)
      split <;> rfl

/-- The name that counts once one has been pinned. -/
def pinnedName (vars : Variables) (name : String) : String :=
  ((DotEnv.Entry.pinning name).readBack? vars).getD name

/-- Without a dollar sign the name is read back. -/
theorem readBack?_pinning (hdollar : '$' ∉ name.toList) (vars : Variables) :
    (DotEnv.Entry.pinning name).readBack? vars = some name :=
  DotEnv.readBack?_of_noDollar (DotEnv.Entry.isName_pinning name) hdollar vars

/-- **When the program can be configured** once an environment has been pinned. -/
theorem load_pinned_eq_ok_iff (hpinned : h.Pinned name h₁) (hunconfigured : h.IsUnconfigured)
    {config : Config} :
    (load h₁ none).map Prod.snd = .ok config ↔
      ∃ e, environmentOf? (pinnedName h.variables name) = some e ∧ config = usual e := by
  rw [load_pinned_eq hpinned hunconfigured, pinnedName]
  cases hread : (DotEnv.Entry.pinning name).readBack? h.variables with
  | none => exact settled_eq_ok_iff
  | some value =>
    simp only [Option.getD_some]
    split
    · next hnul =>
      refine ⟨nofun, fun ⟨e, henv, _⟩ => ?_⟩
      exact absurd hnul (plain_of_environmentOf? henv).2
    split
    · next hblank =>
      rw [settled_eq_ok_iff]
      constructor
      · rintro ⟨e, henv, -⟩
        -- a name that stands for an environment is read as it is, and is not blank
        rw [readBack?_pinning (plain_of_environmentOf? henv).1] at hread
        cases hread
        rw [allBlank_of_environmentOf? henv] at hblank
        cases hblank
      · rintro ⟨e, henv, -⟩
        rw [allBlank_of_environmentOf? henv] at hblank
        cases hblank
    · exact settled_eq_ok_iff

/-- Without a dollar sign it is the name itself that decides. -/
theorem load_pinned_of_noDollar (hpinned : h.Pinned name h₁) (hunconfigured : h.IsUnconfigured)
    (hdollar : '$' ∉ name.toList) (hnul : '\x00' ∉ name.toList) :
    (load h₁ none).map Prod.snd = settled name := by
  rw [load_pinned_eq hpinned hunconfigured, readBack?_pinning hdollar]
  simp only [hnul, if_false, ite_self]

end Config

/-! ## The bare machine -/

/-- The bare machine with some text for its settings. -/
def Startup.bareWith (text : String) : Host where
  files := ⟨[([".chainflow", "config.toml"], .file text), ([".chainflow"], .directory)], []⟩
  «variables» := .empty

theorem Settings.save_bare {s : Settings} {text : String} (hrender : s.render? = some text) :
    s.save Startup.bare.files Startup.bare.settingsPath =
      ((Startup.bareWith text).files, .ok ()) := by
  have hpath : Startup.bare.settingsPath = "./.chainflow/config.toml" := by decide +kernel
  have hroom : makeRoom Startup.bare.files "./.chainflow/config.toml" =
      (⟨[([".chainflow"], .directory)], []⟩, .ok ()) := rfl
  have hwrite : (⟨[([".chainflow"], .directory)], []⟩ : Files).write
      "./.chainflow/config.toml" text = .ok (Startup.bareWith text).files := rfl
  rw [hpath]
  simp only [save, hrender, hroom, hwrite]

/-- Variables can be saved on a machine with nothing on it but the settings. -/
theorem Startup.save_bareWith (text : String) (entries : List DotEnv.Entry) :
    ∃ h₁, save (bareWith text) entries = (h₁, .ok ()) := by
  have hpath : (bareWith text).variablesPath = "./.chainflow/.env" :=
    show bare.variablesPath = "./.chainflow/.env" by decide +kernel
  have hparent : (Path.parent? "./.chainflow/.env").getD "" = "./.chainflow" := by decide +kernel
  have hmade : (bareWith text).files.makeDirectories "./.chainflow" =
      ((bareWith text).files, .ok ()) := rfl
  obtain ⟨files, hwrite⟩ : ∃ files, (bareWith text).files.write "./.chainflow/.env"
      (DotEnv.render entries) = .ok files := ⟨_, rfl⟩
  refine ⟨{ bareWith text with files }, ?_⟩
  unfold save
  simp only [hpath, hparent, hmade, hwrite]

theorem Startup.isUnconfigured_bare : bare.IsUnconfigured := ⟨fun _ => rfl, by decide⟩

/-- Every name is pinned on the bare machine. -/
theorem Command.initConfig_bare (name : String) :
    (initConfig Startup.bare false (some name)).error = none := by
  obtain ⟨text, hrender⟩ : ∃ text, (Settings.pinning name).render? = some text :=
    Option.isSome_iff_exists.1
      ((Settings.render?_isSome_iff _).2 (Settings.inRange_pinning name))
  obtain ⟨h₁, hentry⟩ := Startup.save_bareWith text [⟨"CHAINFLOW_ENV", name⟩]
  have hmissing : Startup.bare.files.pathExists Startup.bare.settingsPath = false := by
    decide +kernel
  have hsettings := Settings.save_bare hrender
  -- of the three ways only the one that writes both files is left
  obtain ⟨hexists, -⟩ | ⟨_, _, hfails, -⟩ | ⟨files, hsaved, heq⟩ :=
    initConfig_cases Startup.bare false name
  · rw [hmissing] at hexists
    cases hexists
  · rw [hsettings] at hfails
    cases hfails
  · rw [hsettings] at hsaved
    cases hsaved
    rw [heq]
    show (pinEnvironment (Startup.bareWith text) _ name).error = none
    unfold pinEnvironment
    rw [hentry]

/-! ## Which names settle the environment -/

namespace Command

/-- **A name settles the environment**: wherever nothing else configures the program, once it has
been initialised with the name, it can be configured again, with the environment that the name
stands for and the defaults for the rest. -/
def Settles (name : String) : Prop :=
  ∀ (h : Host) (force : Bool), h.IsUnconfigured →
    (initConfig h force (some name)).error = none →
    ∃ e, Config.environmentOf? name = some e ∧
      (Config.load (initConfig h force (some name)).host none).map Prod.snd =
        .ok (Config.usual e)

/-- **The names that settle the environment are those that stand for one**, in any case of letters
and with any blanks around them. Other names are pinned as well, and then what is read of them
counts. Without a dollar sign that is the name itself, so that from then on the program refuses to
start whatever it is asked to do, be it to initialise the settings again. -/
theorem settles_iff (name : String) :
    (Settles name ↔ ∃ e, Config.environmentOf? name = some e) ∧
      ∀ (h : Host) (force : Bool), h.IsUnconfigured →
        (initConfig h force (some name)).error = none →
        (∀ config, (Config.load (initConfig h force (some name)).host none).map Prod.snd =
            .ok config ↔
          ∃ e, Config.environmentOf? (Config.pinnedName h.variables name) = some e ∧
            config = Config.usual e) ∧
        ('$' ∉ name.toList → '\x00' ∉ name.toList → Config.environmentOf? name = none →
          ∀ words r, Request.ofWords (configVariable h.variables) words = .ok r →
            r.config = none →
            run (initConfig h force (some name)).host words =
              .unconfigured (.error (.invalidValue "CHAINFLOW_ENV"
                ("expected 'local', 'dev', or 'prod', got '" ++ name ++ "'")))) := by
  -- the bare machine shows that it is necessary; any other is settled by what has been pinned
  refine ⟨⟨fun hsettles => ?_, fun ⟨e, henv⟩ h force hunconfigured hok => ?_⟩,
    fun h force hunconfigured hok => ⟨fun config => ?_, ?_⟩⟩
  · obtain ⟨e, henv, -⟩ :=
      hsettles Startup.bare false Startup.isUnconfigured_bare (initConfig_bare name)
    exact ⟨e, henv⟩
  · obtain ⟨hdollar, hnul⟩ := Config.plain_of_environmentOf? henv
    refine ⟨e, henv, ?_⟩
    rw [Config.load_pinned_of_noDollar (pinned_initConfig hok) hunconfigured hdollar hnul]
    exact Config.settled_eq_ok_iff.2 ⟨e, henv, rfl⟩
  · exact Config.load_pinned_eq_ok_iff (pinned_initConfig hok) hunconfigured
  · intro hdollar hnul hnone words r hwords hpath
    have hpinned := pinned_initConfig hok
    have hload := Config.load_pinned_of_noDollar hpinned hunconfigured hdollar hnul
    generalize (initConfig h force (some name)).host = h₁ at hpinned hload
    rw [Config.settled, hnone] at hload
    unfold run
    rw [hpinned.variables_eq, hwords]
    simp only [hpath]
    cases hconfig : Config.load h₁ none with
    | ok r =>
      rw [hconfig] at hload
      cases hload
    | error failure =>
      rw [hconfig] at hload
      cases hload
      rfl

/-- Capitals and blanks of any kind do not matter. A name in which a variable is replaced is pinned,
but does not settle the environment, although there is one afterwards; and behind a name that stands
for no environment the settings cannot be initialised with another one. -/
theorem sample_settles_iff :
    Settles "\n Development\r\n\u00a0" ∧
      (¬Settles "prod$\x7bX\x7d" ∧
        (Config.load (initConfig Startup.bare false (some "prod$\x7bX\x7d")).host none).map
          Prod.snd = .ok (Config.usual .prod)) ∧
      run (initConfig Startup.bare false (some "staging")).host
          ["config", "init", "--force", "--env", "prod"] =
        .unconfigured (.error (.invalidValue "CHAINFLOW_ENV"
          "expected 'local', 'dev', or 'prod', got 'staging'")) := by
  have hbare := Startup.isUnconfigured_bare
  refine ⟨(settles_iff _).1.2 ⟨.dev, by decide⟩, ⟨fun hsettles => ?_, ?_⟩, ?_⟩
  · obtain ⟨e, henv⟩ := (settles_iff _).1.1 hsettles
    exact nomatch (show none = some e from henv)
  · have hconfig := ((settles_iff "prod$\x7bX\x7d").2 Startup.bare false hbare
      (initConfig_bare _)).1
    exact (hconfig _).2 ⟨.prod, by decide +kernel, rfl⟩
  · have hlocked := ((settles_iff "staging").2 Startup.bare false hbare (initConfig_bare _)).2
    exact hlocked (by decide) (by decide) (by decide)
      ["config", "init", "--force", "--env", "prod"] ⟨.initConfig true (some "prod"), none⟩
      (by decide) rfl

/-- On a machine without files and variables, initialising with a name that stands for no
environment succeeds, and then the program cannot be configured. -/
theorem sample_locked_out :
    (initConfig Startup.bare false (some "staging")).error = none ∧
      (Config.load (initConfig Startup.bare false (some "staging")).host none).map Prod.snd =
        .error (.error (.invalidValue "CHAINFLOW_ENV"
          "expected 'local', 'dev', or 'prod', got 'staging'")) := by
  have hok := initConfig_bare "staging"
  refine ⟨hok, ?_⟩
  rw [Config.load_pinned_of_noDollar (pinned_initConfig hok) Startup.isUnconfigured_bare (by decide)
    (by decide)]
  rfl

end Command

end WalletTasks
