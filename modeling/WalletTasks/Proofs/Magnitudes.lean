import WalletTasks.Toml.Document
import Mathlib.Data.List.Basic

/-!
# The numbers of a document

A whole number of a document has at most 63 bits and a sign, in whichever base it is written. The
reader sees to that for each number on its own, and nothing it does with values afterwards makes
another number: so it holds of every number in every value of the tables, however deep it stands.

* `ranged_scalar?`: the number that a word is has at most 63 bits.
* `readDocument_ranged`: so have all the numbers of a document.
-/

namespace WalletTasks.Toml

variable {v w : Value} {fs fs' : Fields} {items items' : List Fields} {key : String}
  {keys : List String} {change : Fields → Option Fields} {s r : List Char}

/-- Whether every whole number in a value has at most 63 bits. -/
inductive Value.Ranged : Value → Prop
  | text (s : String) : Ranged (.text s)
  | integer {n : Int} (h : n < integerBound) : Ranged (.integer n)
  | fraction (s : String) : Ranged (.fraction s)
  | boolean (b : Bool) : Ranged (.boolean b)
  | time (s : String) : Ranged (.time s)
  | array {items : List Value} (h : ∀ v ∈ items, Ranged v) : Ranged (.array items)
  | table (origin : Origin) {fs : Fields} (h : ∀ f ∈ fs, Ranged f.2) : Ranged (.table origin fs)
  | tables {items : List Fields} (h : ∀ fs ∈ items, ∀ f ∈ fs, Ranged f.2) :
      Ranged (.tables items)

/-! ## Tables -/

namespace Fields

/-- Whether every whole number in the fields of a table has at most 63 bits. -/
def Ranged (fs : Fields) : Prop := ∀ f ∈ fs, f.2.Ranged

theorem Ranged.nil : Ranged [] := fun _ hf => nomatch hf

theorem Ranged.field? (h : Ranged fs) (hv : fs.field? key = some v) : v.Ranged := by
  obtain ⟨before, behind, heq, -⟩ := List.lookup_eq_some_iff.1 hv
  exact h (key, v) (by rw [heq]; simp)

/-- The fields of a table that is found are those of a table. -/
theorem Ranged.inner {origin : Origin} {inner : Fields} (h : Ranged fs)
    (hv : fs.field? key = some (.table origin inner)) : Ranged inner := by
  cases h.field? hv with
  | table _ hinner => exact hinner

theorem Ranged.tables (h : Ranged fs) (hv : fs.field? key = some (.tables items)) :
    ∀ fs ∈ items, Ranged fs := by
  cases h.field? hv with
  | tables hitems => exact hitems

/-- Putting a value in range into a table keeps the table in range. -/
theorem Ranged.put (h : Ranged fs) (hv : v.Ranged) (key : String) : Ranged (put fs key v) := by
  induction fs with
  | nil =>
    intro f hf
    rw [List.mem_singleton.1 hf]
    exact hv
  | cons f fs ih =>
    obtain ⟨k, w⟩ := f
    obtain ⟨hw, hfs⟩ := List.forall_mem_cons.1 h
    rw [Fields.put]
    split
    · exact List.forall_mem_cons.2 ⟨hv, hfs⟩
    · exact List.forall_mem_cons.2 ⟨hw, ih hfs⟩

/-- A table that is changed inside of another one. -/
theorem Ranged.put_table {origin : Origin} {inner? : Option Fields} (hfs : Ranged fs)
    (hinner : ∀ inner, inner? = some inner → Ranged inner)
    (h : inner?.map (fun inner => Fields.put fs key (.table origin inner)) = some fs') :
    Ranged fs' := by
  obtain ⟨inner, heq, rfl⟩ := Option.map_eq_some_iff.1 h
  exact hfs.put (.table origin (hinner inner heq)) key

/-- Whether a change of a table makes no number of more than 63 bits. -/
def Preserves (change : Fields → Option Fields) : Prop :=
  ∀ ⦃fs fs'⦄, change fs = some fs' → Ranged fs → Ranged fs'

/-- A change of a table, made to the last one of several, keeps all of them in range. -/
theorem Preserves.atLast (hchange : Preserves change) (h : atLast change items = some items')
    (hitems : ∀ fs ∈ items, Ranged fs) : ∀ fs ∈ items', Ranged fs := by
  induction items generalizing items' with
  | nil => cases h
  | cons fs rest ih =>
    obtain ⟨hfs, hrest⟩ := List.forall_mem_cons.1 hitems
    cases rest with
    | nil =>
      obtain ⟨fs', hfs', rfl⟩ := Option.map_eq_some_iff.1 h
      exact List.forall_mem_singleton.2 (hchange hfs' hfs)
    | cons next rest =>
      obtain ⟨rest', hrest', rfl⟩ := Option.map_eq_some_iff.1 h
      exact List.forall_mem_cons.2 ⟨hfs, ih hrest' hrest⟩

/-- The last of some tables is changed inside of another one. -/
theorem Ranged.put_atLast (hfs : Ranged fs) (hchange : Preserves change)
    (hitems : ∀ fs ∈ items, Ranged fs)
    (h : (Fields.atLast change items).map (fun items => Fields.put fs key (.tables items)) =
      some fs') : Ranged fs' := by
  obtain ⟨items', heq, rfl⟩ := Option.map_eq_some_iff.1 h
  exact hfs.put (.tables (hchange.atLast heq hitems)) key

/-- A value in range may be inserted under any keys. -/
theorem preserves_insert (hv : v.Ranged) (keys : List String) : Preserves (insert keys v) := by
  induction keys with
  | nil => exact fun _ _ h => nomatch h
  | cons key rest ih =>
    intro fs fs' h hfs
    cases rest with
    | nil =>
      rw [insert] at h
      split at h
      · cases h
        exact hfs.put hv key
      · cases h
    | cons next rest =>
      -- a table on the way is new, or one that the key is found to have
      rw [insert] at h
      split at h
      · exact hfs.put_table (fun _ hinner => ih hinner .nil) h
      · rename_i hfound
        exact hfs.put_table (fun _ hinner => ih hinner (hfs.inner hfound)) h
      · rename_i hfound
        split at h
        · cases h
        · exact hfs.put_table (fun _ hinner => ih hinner (hfs.inner hfound)) h
      · rename_i hfound
        split at h
        · cases h
        · exact hfs.put_atLast ih (hfs.tables hfound) h
      · cases h

/-- A change of a table may be made at any depth. -/
theorem Preserves.within (hchange : Preserves change) (keys : List String) :
    Preserves (within change keys) := by
  induction keys with
  | nil => exact hchange
  | cons key rest ih =>
    intro fs fs' h hfs
    rw [Fields.within] at h
    split at h
    · exact hfs.put_table (fun _ hinner => ih hinner .nil) h
    · cases h
    · rename_i hfound
      exact hfs.put_table (fun _ hinner => ih hinner (hfs.inner hfound)) h
    · rename_i hfound
      exact hfs.put_atLast ih (hfs.tables hfound) h
    · cases h

theorem preserves_openTable (key : String) : Preserves (openTable key) := by
  intro fs fs' h hfs
  unfold openTable at h
  split at h
  · cases h
    exact hfs.put (.table _ Ranged.nil) key
  · rename_i hfound
    cases h
    exact hfs.put (.table _ (hfs.inner hfound)) key
  · cases h

/-- A header in double brackets adds an empty table, which is in range. -/
theorem preserves_openNext (key : String) : Preserves (openNext key) := by
  intro fs fs' h hfs
  unfold openNext at h
  split at h
  · cases h
    exact hfs.put (.tables (List.forall_mem_singleton.2 Ranged.nil)) key
  · rename_i hfound
    cases h
    refine hfs.put (.tables fun fs hmem => ?_) key
    rcases List.mem_append.1 hmem with hmem | hmem
    · exact hfs.tables hfound fs hmem
    · rw [List.mem_singleton.1 hmem]
      exact Ranged.nil
  · cases h

theorem preserves_atHeader {operation : String → Fields → Option Fields}
    (hoperation : ∀ key, Preserves (operation key)) (header : List String) :
    Preserves (atHeader operation header) := by
  intro fs fs' h hfs
  unfold atHeader at h
  split at h
  · exact (hoperation _).within _ h hfs
  · cases h

end Fields

/-! ## Values -/

/-- Integers are read up to the bound of 64 bits. -/
theorem lt_of_integer? {n : Int} (h : integer? s = some n) : n < integerBound := by
  unfold integer? at h
  generalize sign s = signed at h
  obtain ⟨negative, t⟩ := signed
  obtain ⟨ds, -, h⟩ := Option.bind_eq_some_iff.1 h
  simp only at h
  split at h
  · split at h
    · cases h
      have : 0 < integerBound := by decide
      omega
    · cases h
  · split at h
    · cases h
      omega
    · cases h

theorem lt_of_inBase? {base : Nat} {n : Int} (h : inBase? base s = some n) : n < integerBound := by
  unfold inBase? at h
  obtain ⟨ds, -, h⟩ := Option.bind_eq_some_iff.1 h
  simp only at h
  split at h
  · cases h
    omega
  · cases h

/-- **The number that a word is has at most 63 bits**, in whichever base it is written. -/
theorem ranged_scalar? (h : scalar? s = some v) : v.Ranged := by
  unfold scalar? at h
  split at h
  -- the three prefixes for other bases; everything else is tried in turn
  case h_1 | h_2 | h_3 =>
    obtain ⟨n, hn, rfl⟩ := Option.map_eq_some_iff.1 h
    exact .integer (lt_of_inBase? hn)
  case h_4 =>
    split at h
    · cases h
      exact .boolean true
    · split at h
      · cases h
        exact .boolean false
      · split at h
        · rename_i hn
          cases h
          exact .integer (lt_of_integer? hn)
        · split at h
          · cases h
            exact .fraction _
          · split at h
            · cases h
              exact .time _
            · cases h

/-- Whether all that a reader takes has numbers of at most 63 bits. -/
def TakesRanged (read : List Char → Option (Value × List Char)) : Prop :=
  ∀ ⦃s v r⦄, read s = some (v, r) → v.Ranged

variable {read : List Char → Option (Value × List Char)}

/-- What is read item by item is in range, if each item is. -/
theorem ranged_readItems (hread : TakesRanged read) {bound : Nat} {vs : List Value}
    (h : readItems read bound s = some (vs, r)) : ∀ v ∈ vs, v.Ranged := by
  induction bound generalizing s vs with
  | zero => cases h
  | succ bound ih =>
    rw [readItems] at h
    obtain ⟨t, -, h⟩ := Option.bind_eq_some_iff.1 h
    split at h
    · cases h
      exact fun _ hv => nomatch hv
    · obtain ⟨⟨v, t'⟩, hv, h⟩ := Option.bind_eq_some_iff.1 h
      obtain ⟨t'', -, h⟩ := Option.bind_eq_some_iff.1 h
      split at h
      · obtain ⟨⟨rest, t⟩, hrest, h⟩ := Option.bind_eq_some_iff.1 h
        cases h
        exact List.forall_mem_cons.2 ⟨hread hv, ih hrest⟩
      · cases h
        exact List.forall_mem_singleton.2 (hread hv)
      · cases h

/-- What is read field by field is in range, if each value is. -/
theorem ranged_readFields (hread : TakesRanged read) {bound : Nat} (hfs : fs.Ranged)
    (h : readFields read bound fs s = some (fs', r)) : fs'.Ranged := by
  induction bound generalizing s fs with
  | zero => cases h
  | succ bound ih =>
    rw [readFields] at h
    obtain ⟨⟨key, t⟩, -, h⟩ := Option.bind_eq_some_iff.1 h
    obtain ⟨t', -, h⟩ := Option.bind_eq_some_iff.1 h
    obtain ⟨⟨v, t''⟩, hv, h⟩ := Option.bind_eq_some_iff.1 h
    obtain ⟨fs₁, hinsert, h⟩ := Option.bind_eq_some_iff.1 h
    have hfs₁ : fs₁.Ranged := Fields.preserves_insert (hread hv) key hinsert hfs
    split at h
    · exact ih hfs₁ h
    · cases h
      exact hfs₁
    · cases h

/-- **Every value that is read has numbers of at most 63 bits.** -/
theorem takesRanged_readValue (depth : Nat) : TakesRanged (readValue depth) := by
  -- by the depth of nesting, which is bounded
  induction depth using Nat.strongRecOn with
  | ind depth ih =>
    intro s v r h
    rw [readValue.eq_def] at h
    simp only at h
    split at h
    · cases h
    · split at h
      · obtain ⟨_, -, h⟩ := Option.map_eq_some_iff.1 h
        cases h
        exact .text _
      · split at h
        · split at h
          · cases h
          · rename_i depth
            obtain ⟨⟨vs, t⟩, hvs, h⟩ := Option.map_eq_some_iff.1 h
            cases h
            exact .array (ranged_readItems (ih depth depth.lt_succ_self) hvs)
        · split at h
          · split at h
            · cases h
            · rename_i depth
              split at h
              · cases h
                exact .table _ Fields.Ranged.nil
              · obtain ⟨⟨fs, t⟩, hfs, h⟩ := Option.map_eq_some_iff.1 h
                cases h
                exact .table _ (ranged_readFields (ih depth depth.lt_succ_self) .nil hfs)
          · obtain ⟨w, hw, h⟩ := Option.map_eq_some_iff.1 h
            cases h
            exact ranged_scalar? hw

namespace Draft

variable {d d' : Draft}

theorem ranged_addField (hd : d.root.Ranged) (hv : v.Ranged) (h : d.addField keys v = some d') :
    d'.root.Ranged := by
  obtain ⟨root, hroot, rfl⟩ := Option.map_eq_some_iff.1 h
  exact (Fields.preserves_insert hv keys).within d.header hroot hd

/-- A header opens a table and changes no value. -/
theorem ranged_readHeader (hd : d.root.Ranged) (h : d.readHeader s = some (d', r)) :
    d'.root.Ranged := by
  unfold readHeader at h
  split at h
  · obtain ⟨⟨header, t⟩, -, h⟩ := Option.bind_eq_some_iff.1 h
    obtain ⟨_, -, h⟩ := Option.bind_eq_some_iff.1 h
    obtain ⟨_, -, h⟩ := Option.bind_eq_some_iff.1 h
    obtain ⟨d₁, hstart, h⟩ := Option.bind_eq_some_iff.1 h
    obtain ⟨root, hroot, rfl⟩ := Option.map_eq_some_iff.1 hstart
    cases h
    exact Fields.preserves_atHeader Fields.preserves_openNext header hroot hd
  · obtain ⟨⟨header, t⟩, -, h⟩ := Option.bind_eq_some_iff.1 h
    obtain ⟨_, -, h⟩ := Option.bind_eq_some_iff.1 h
    obtain ⟨d₁, hstart, h⟩ := Option.bind_eq_some_iff.1 h
    obtain ⟨root, hroot, rfl⟩ := Option.map_eq_some_iff.1 hstart
    cases h
    exact Fields.preserves_atHeader Fields.preserves_openTable header hroot hd

theorem ranged_readField (hd : d.root.Ranged) (h : d.readField s = some (d', r)) :
    d'.root.Ranged := by
  obtain ⟨⟨key, t⟩, -, h⟩ := Option.bind_eq_some_iff.1 h
  obtain ⟨_, -, h⟩ := Option.bind_eq_some_iff.1 h
  obtain ⟨⟨v, t'⟩, hv, h⟩ := Option.bind_eq_some_iff.1 h
  obtain ⟨d₁, hadd, h⟩ := Option.bind_eq_some_iff.1 h
  cases h
  exact ranged_addField hd (takesRanged_readValue maxDepth hv) hadd

/-- One line adds no number of more than 63 bits. -/
theorem ranged_readLine (hd : d.root.Ranged) (h : d.readLine s = some (d', r)) :
    d'.root.Ranged := by
  unfold readLine at h
  split at h
  case h_1 | h_2 | h_3 =>
    obtain ⟨_, -, h⟩ := Option.map_eq_some_iff.1 h
    cases h
    exact hd
  · obtain ⟨⟨d₁, t⟩, hheader, h⟩ := Option.bind_eq_some_iff.1 h
    obtain ⟨_, -, h⟩ := Option.bind_eq_some_iff.1 h
    cases h
    exact ranged_readHeader hd hheader
  · obtain ⟨⟨d₁, t⟩, hfield, h⟩ := Option.bind_eq_some_iff.1 h
    obtain ⟨_, -, h⟩ := Option.bind_eq_some_iff.1 h
    cases h
    exact ranged_readField hd hfield

/-- Lines add no number of more than 63 bits. -/
theorem ranged_readLines (hd : d.root.Ranged) {bound : Nat} (h : d.readLines bound s = some d') :
    d'.root.Ranged := by
  induction bound generalizing d s with
  | zero => cases h
  | succ bound ih =>
    rw [readLines] at h
    split at h
    · cases h
      exact hd
    · obtain ⟨⟨d₁, t⟩, hline, h⟩ := Option.bind_eq_some_iff.1 h
      exact ih (ranged_readLine hd hline) h

end Draft

/-- **Every whole number of a document has at most 63 bits**, however deep it stands. -/
theorem readDocument_ranged {text : String} (h : readDocument text = some fs) : fs.Ranged := by
  obtain ⟨d, hd, rfl⟩ := Option.map_eq_some_iff.1 h
  exact Draft.ranged_readLines Fields.Ranged.nil hd

end WalletTasks.Toml
