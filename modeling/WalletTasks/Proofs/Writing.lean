import WalletTasks.Host.Files
import WalletTasks.Proofs.Defining
import Mathlib.Data.List.Basic
import Mathlib.Tactic.SplitIfs

/-!
# Files that are written

A path leads along directories, so it leads to the same place wherever these stay. A file is written
together with the missing directories above it: then it is found under its path, and nothing else
has changed but that directories stand where nothing stood. So of two files with different names,
written one after the other, both are found.

* `Files.locate_stays`: paths lead where they did, while directories stay.
* `Files.makeDirectories_grows`: making directories changes nothing that was there.
* `Files.find_write`: what has been written is found under the same path.
* `Files.Stores.find_before`: a file is still found behind one with another name.
-/

namespace WalletTasks.Host

/-- The last name of a path behind a directory is that of the path. -/
theorem Path.getLast?_parts_join (directory path : String) :
    (parts (join directory path)).getLast? = (parts path).getLast? := by
  have hlast : ∀ s : List Char,
      ((names (s ++ '/' :: path.toList)).map String.ofList).getLast? = (parts path).getLast? := by
    intro s
    rw [names_append_slash, List.map_append,
      List.getLast?_append_of_ne_nil _ (by simp [names_ne_nil])]
    rfl
  unfold join
  split
  · rfl
  split
  · next hslash =>
    rw [parts, String.toList_append, ← List.dropLast_append_getLast? _ hslash]
    simpa using hlast directory.toList.dropLast
  · rw [parts, String.toList_append, String.toList_append]
    simpa using hlast directory.toList

namespace Files

variable {fs fs' made : Files} {place target there : Place} {e : Entry} {path text name : String}

/-! ## Where a path leads -/

/-- Where a name leads to from a directory. -/
def next (place : Place) (p : String) : Except FileError Place :=
  if p = "" ∨ p = "." then .ok place
  else if p = ".." then .ok place.dropLast
  else if maxName < p.utf8ByteSize then .error .nameTooLong
  else .ok (place ++ [p])

theorem walk_cons (fs : Files) (place : Place) (p : String) (ps : List String) :
    fs.walk place (p :: ps) =
      fs.enter place >>= fun _ => next place p >>= fun q => fs.walk q ps := by
  rw [walk, next]
  split_ifs <;> rfl

/-- A path is walked in two parts. -/
theorem walk_append (fs : Files) (place : Place) (ps qs : List String) :
    fs.walk place (ps ++ qs) = fs.walk place ps >>= fun q => fs.walk q qs := by
  induction ps generalizing place with
  | nil => rfl
  | cons p ps ih => simp only [List.cons_append, walk_cons, ih, bind_assoc]

/-- The directories of the one are directories of the other. -/
def DirectoriesStay (fs fs' : Files) : Prop :=
  ∀ place, fs.at? place = some .directory → fs'.at? place = some .directory

theorem enter_eq_ok (h : fs.enter place = .ok ()) : fs.at? place = some .directory := by
  unfold enter at h
  split at h
  · assumption
  · cases h
  · cases h

/-- A way along directories stays as long as they do. -/
theorem walk_stays (hdirs : fs.DirectoriesStay fs') {ps : List String}
    (h : fs.walk place ps = .ok there) : fs'.walk place ps = .ok there := by
  induction ps generalizing place with
  | nil => exact h
  | cons p ps ih =>
    rw [walk_cons] at h ⊢
    obtain ⟨⟨⟩, henter, h⟩ := exists_of_bind_eq_ok h
    obtain ⟨q, hnext, h⟩ := exists_of_bind_eq_ok h
    have henter' : fs'.enter place = .ok () := by
      unfold enter
      rw [hdirs place (enter_eq_ok henter)]
    rw [henter', hnext]
    exact ih h

/-- A place is found again for as long as the directories stay. -/
theorem locate_stays (hhere : fs'.here = fs.here) (hdirs : fs.DirectoriesStay fs')
    (h : fs.locate path = .ok place) : fs'.locate path = .ok place := by
  unfold locate start at h ⊢
  obtain ⟨⟨⟩, hcheck, h⟩ := exists_of_bind_eq_ok h
  rw [hcheck, hhere]
  exact walk_stays hdirs h

theorem find_eq_of_locate (hlocate : fs.locate path = .ok place) (hat : fs.at? place = some e) :
    fs.find path = .ok e := by
  unfold find
  rw [hlocate]
  simp only [bind, Except.bind, hat]

/-- A path that can be written leads to a name in a directory. -/
theorem locate_of_locateNew (h : fs.locateNew path = .ok (place, some name)) :
    fs.locate path = .ok (place ++ [name]) ∧ (Path.parts path).getLast? = some name := by
  unfold locateNew at h
  obtain ⟨⟨⟩, hcheck, h⟩ := exists_of_bind_eq_ok h
  obtain ⟨place', hwalk, h⟩ := exists_of_bind_eq_ok h
  obtain ⟨⟨⟩, henter, h⟩ := exists_of_bind_eq_ok h
  cases hlast : (Path.parts path).getLast? with
  | none =>
    rw [hlast] at h
    cases h
  | some p =>
    rw [hlast] at h
    simp only at h
    split at h
    · cases h
    · rename_i hp
      rw [not_or, not_or] at hp
      split at h
      · cases h
      · rename_i hlong
        cases h
        have hnext : next place name = .ok (place ++ [name]) := by
          rw [next, if_neg (by simp [hp.1, hp.2.1]), if_neg hp.2.2, if_neg hlong]
        refine ⟨?_, rfl⟩
        unfold locate
        rw [hcheck, ← List.dropLast_append_getLast? name hlast, walk_append]
        -- the walk to the last part, and from there one step to the name
        show (fs.walk (fs.start path) _ >>= fun q => _) = _
        rw [hwalk]
        show fs.walk place [name] = _
        rw [walk_cons, henter, hnext]
        rfl

/-- The root is a directory. -/
theorem ne_nil_of_free (hfree : fs.at? target ≠ some .directory) : target ≠ [] := by
  rintro rfl
  exact hfree rfl

/-! ## Making directories -/

/-- Nothing has changed but that directories stand where nothing stood. -/
structure Grows (fs fs' : Files) : Prop where
  here : fs'.here = fs.here
  at?_cases : ∀ place, fs'.at? place = fs.at? place ∨
    fs.at? place = none ∧ fs'.at? place = some .directory

theorem Grows.refl (fs : Files) : fs.Grows fs := ⟨rfl, fun _ => .inl rfl⟩

theorem Grows.at?_of_some (h : fs.Grows fs') (hat : fs.at? place = some e) :
    fs'.at? place = some e := by
  obtain hsame | ⟨hnone, -⟩ := h.at?_cases place
  · rw [hsame, hat]
  · rw [hnone] at hat
    cases hat

theorem Grows.directoriesStay (h : fs.Grows fs') : fs.DirectoriesStay fs' :=
  fun _ hat => h.at?_of_some hat

theorem Grows.trans {fs'' : Files} (h : fs.Grows fs') (h' : fs'.Grows fs'') : fs.Grows fs'' := by
  refine ⟨h'.here.trans h.here, fun place => ?_⟩
  obtain hsame | ⟨hnone, hdirectory⟩ := h.at?_cases place
  · rw [← hsame]
    exact h'.at?_cases place
  · exact .inr ⟨hnone, h'.at?_of_some hdirectory⟩

theorem grows_put (hnone : fs.at? place = none) : fs.Grows (fs.put place .directory) := by
  refine ⟨rfl, fun q => ?_⟩
  by_cases hq : q = place
  · subst hq
    have hfree : fs.at? q ≠ some .directory := by simp [hnone]
    exact .inr ⟨hnone, at?_put fs (ne_nil_of_free hfree) _⟩
  · exact .inl (at?_put_of_ne fs hq _)

/-- A directory is only made where nothing is. -/
theorem makeDirectory_grows (h : fs.makeDirectory path = .ok fs') : fs.Grows fs' := by
  unfold makeDirectory at h
  obtain ⟨⟨place, name?⟩, -, h⟩ := exists_of_bind_eq_ok h
  cases name? with
  | none => cases h
  | some name =>
    simp only at h
    split at h
    · cases h
    · next hnone =>
      cases h
      exact grows_put hnone

/-- The directories above are made first, and none is taken away. -/
theorem makeWithAncestors_grows (paths : List String) (fs : Files) :
    fs.Grows (fs.makeWithAncestors paths).1 := by
  induction paths generalizing fs with
  | nil => exact .refl fs
  | cons path above ih =>
    rw [makeWithAncestors]
    split
    · exact .refl fs
    split
    · next hmade => exact makeDirectory_grows hmade
    · -- the directories above come first
      have habove := ih fs
      split
      · next heq => rwa [heq] at habove
      · next made heq =>
        replace habove : fs.Grows made := by rwa [heq] at habove
        split
        · next hmade => exact habove.trans (makeDirectory_grows hmade)
        · exact habove
    · exact .refl fs

/-- **Making directories changes nothing that was there.** -/
theorem makeDirectories_grows (fs : Files) (path : String) :
    fs.Grows (fs.makeDirectories path).1 :=
  makeWithAncestors_grows _ fs

/-! ## Writing -/

/-- A file has been written under a path, and perhaps directories have been made where nothing
stood. -/
inductive Stores (fs : Files) (path text : String) : Files → Prop
  | intro {made : Files} {target : Place} (grows : fs.Grows made)
    (free : made.at? target ≠ some .directory) (located : made.locate path = .ok target)
    (last : target.getLast? = (Path.parts path).getLast?) :
    Stores fs path text (made.put target (.file text))

/-- Paths lead where they did, whatever is put where no directory stands. -/
theorem locate_put (hfree : fs.at? target ≠ some .directory) (e : Entry)
    (h : fs.locate path = .ok place) : (fs.put target e).locate path = .ok place := by
  have hdirs : fs.DirectoriesStay (fs.put target e) := by
    intro q hat
    have hne : q ≠ target := by
      rintro rfl
      exact hfree hat
    rw [at?_put_of_ne fs hne, hat]
  exact locate_stays (show (fs.put target e).here = fs.here from rfl) hdirs h

/-- A file that is written is there and nothing else has changed. -/
theorem write_stores (hgrows : fs.Grows made) (h : made.write path text = .ok fs') :
    fs.Stores path text fs' := by
  unfold write at h
  obtain ⟨⟨place, name?⟩, hlocate, h⟩ := exists_of_bind_eq_ok h
  cases name? with
  | none => cases h
  | some name =>
    obtain ⟨hlocate, hlast⟩ := locate_of_locateNew hlocate
    simp only at h
    split at h
    · cases h
    · next hfree =>
      cases h
      exact .intro hgrows hfree hlocate (by rw [List.getLast?_concat, hlast])

theorem Stores.here (h : fs.Stores path text fs') : fs'.here = fs.here := by
  cases h with
  | intro grows => exact grows.here

theorem Stores.find (h : fs.Stores path text fs') : fs'.find path = .ok (.file text) := by
  cases h with
  | intro _ free located _ =>
    exact find_eq_of_locate (locate_put free _ located) (at?_put _ (ne_nil_of_free free) _)

/-- **What has been written is found** under the same path. -/
theorem find_write (h : fs.write path text = .ok fs') : fs'.find path = .ok (.file text) :=
  (write_stores (.refl fs) h).find

/-- **A file is still found** when another one, with another name, has been written behind it. -/
theorem Stores.find_before {mid : Files} {path' text' : String} (h : fs.Stores path text mid)
    (h' : mid.Stores path' text' fs')
    (hne : (Path.parts path).getLast? ≠ (Path.parts path').getLast?) :
    fs'.find path = .ok (.file text) := by
  cases h with
  | @intro made target _ free located last =>
  cases h' with
  | @intro made' target' grows' free' _ last' =>
    have htarget : target ≠ target' := by
      rintro rfl
      exact hne (last.symm.trans last')
    -- the way to the first file is along directories, and these stay both times
    have hlocated :=
      locate_stays grows'.here grows'.directoriesStay (locate_put free (.file text) located)
    have hat := grows'.at?_of_some (at?_put made (ne_nil_of_free free) (.file text))
    refine find_eq_of_locate (locate_put free' _ hlocated) ?_
    rw [at?_put_of_ne made' htarget, hat]

/-- No file stands at a place. -/
def IsVacant (fs : Files) (place : Place) : Prop :=
  fs.at? place = none ∨ fs.at? place = some .directory

/-- Where no file stood there is none, but for the one that has been written. -/
theorem Stores.file_or_isVacant (h : fs.Stores path text fs') (hvacant : fs.IsVacant place) :
    fs'.at? place = some (.file text) ∧ place.getLast? = (Path.parts path).getLast? ∨
      fs'.IsVacant place := by
  cases h with
  | @intro made target grows free _ last =>
    by_cases hplace : place = target
    · subst hplace
      exact .inl ⟨at?_put made (ne_nil_of_free free) _, last⟩
    · rw [IsVacant, at?_put_of_ne made hplace]
      obtain hsame | ⟨-, hdirectory⟩ := grows.at?_cases place
      · rw [hsame]
        exact .inr hvacant
      · exact .inr (.inr hdirectory)

/-- Whether a file can be written does not depend on its text. -/
theorem write_map_unit (fs : Files) (path text text' : String) :
    (fs.write path text).map (fun _ => ()) = (fs.write path text').map fun _ => () := by
  unfold write
  rcases fs.locateNew path with e | ⟨place, _ | name⟩
  · rfl
  · rfl
  · simp only [bind, Except.bind]
    split <;> rfl

end Files

end WalletTasks.Host
