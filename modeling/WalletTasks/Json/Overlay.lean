import WalletTasks.Json.Canonical

/-!
# Laying one value over another

A value counts over another one where it differs from what is usual. Objects are laid over one
another field by field, down to the values that are no objects; a field that the lower object does
not have is added, unless it is as usual.

* `Json.same_iff`: equality of values can be decided.
* `Json.overlay_rows`: objects with the same fields are laid over one another field by field.
-/

namespace WalletTasks.Json

/-! ## Equality -/

mutual

/-- Whether two values are the same. -/
def same : Json → Json → Bool
  | null, null => true
  | bool a, bool b => a == b
  | number m, number n => m == n
  | string s, string t => s == t
  | array xs, array ys => sameItems xs ys
  | object fs, object gs => sameFields fs gs
  | _, _ => false

def sameItems : List Json → List Json → Bool
  | [], [] => true
  | x :: xs, y :: ys => same x y && sameItems xs ys
  | _, _ => false

def sameFields : List (String × Json) → List (String × Json) → Bool
  | [], [] => true
  | (k, x) :: fs, (l, y) :: gs => k == l && same x y && sameFields fs gs
  | _, _ => false

end

mutual

theorem same_iff : ∀ a b : Json, same a b = true ↔ a = b
  | null, b => by cases b <;> simp [same]
  | bool _, b => by cases b <;> simp [same]
  | number _, b => by cases b <;> simp [same]
  | string _, b => by cases b <;> simp [same]
  | array xs, b => by
    cases b with
    | array ys => simp [same, sameItems_iff xs ys]
    | _ => simp [same]
  | object fs, b => by
    cases b with
    | object gs => simp [same, sameFields_iff fs gs]
    | _ => simp [same]

theorem sameItems_iff : ∀ xs ys : List Json, sameItems xs ys = true ↔ xs = ys
  | [], ys => by cases ys <;> simp [sameItems]
  | x :: xs, ys => by
    cases ys with
    | nil => simp [sameItems]
    | cons y ys => simp [sameItems, same_iff x y, sameItems_iff xs ys]

theorem sameFields_iff : ∀ fs gs : List (String × Json), sameFields fs gs = true ↔ fs = gs
  | [], gs => by cases gs <;> simp [sameFields]
  | (k, x) :: fs, gs => by
    cases gs with
    | nil => simp [sameFields]
    | cons g gs =>
      obtain ⟨l, y⟩ := g
      simp [sameFields, same_iff x y, sameFields_iff fs gs, and_assoc]

end

instance : DecidableEq Json := fun a b => decidable_of_iff _ (same_iff a b)

/-! ## Laying over -/

/-- Gives a field another value. -/
def replaceField (k : String) (v : Json) (fields : List (String × Json)) : List (String × Json) :=
  fields.map fun f => if f.1 = k then (k, v) else f

mutual

/-- Lays `upper` over `target`: it counts where it differs from what is usual. -/
def overlay (target upper usual : Json) : Json :=
  match target, upper, usual with
  | object fields, object uppers, object usuals => object (overlayFields fields uppers usuals)
  | target, upper, usual => if upper = usual then target else upper

/-- Lays fields over fields, one after the other. -/
def overlayFields (fields : List (String × Json)) :
    List (String × Json) → List (String × Json) → List (String × Json)
  | [], _ => fields
  | (k, upper) :: uppers, usuals =>
    let usual := (usuals.lookup k).getD null
    let fields :=
      match fields.lookup k with
      | some target => replaceField k (overlay target upper usual) fields
      | none => if upper = usual then fields else insertField k upper fields
    overlayFields fields uppers usuals

end

/-- A field that three objects have: its key, and its value in each of them. -/
structure Row where
  key : String
  target : Json
  upper : Json
  usual : Json

namespace Row

/-- The field in the object that is laid under. -/
def below (r : Row) : String × Json := (r.key, r.target)

/-- The field in the object that is laid over. -/
def above (r : Row) : String × Json := (r.key, r.upper)

/-- The field as it is usual. -/
def default (r : Row) : String × Json := (r.key, r.usual)

/-- The field once the one is laid over the other. -/
def merged (r : Row) : String × Json := (r.key, overlay r.target r.upper r.usual)

end Row

theorem lookup_of_notMem {k : String} {fields : List (String × Json)}
    (h : k ∉ fields.map Prod.fst) : fields.lookup k = none := by
  rw [List.lookup_eq_none_iff]
  intro f hf
  rw [bne_iff_ne]
  rintro rfl
  exact h (List.mem_map_of_mem hf)

theorem replaceField_of_notMem {k : String} {v : Json} {fields : List (String × Json)}
    (h : k ∉ fields.map Prod.fst) : replaceField k v fields = fields := by
  have hsame : ∀ f ∈ fields, (if f.1 = k then (k, v) else f) = f := by
    intro f hf
    refine if_neg ?_
    rintro rfl
    exact h (List.mem_map_of_mem hf)
  exact (List.map_congr_left hsame).trans (List.map_id' fields)

theorem lookup_default {rows : List Row} (hnodup : (rows.map Row.key).Nodup) {r : Row}
    (hr : r ∈ rows) : (rows.map Row.default).lookup r.key = some r.usual := by
  induction rows with
  | nil => cases hr
  | cons r' rows ih =>
    obtain ⟨hfirst, hnodup⟩ := List.nodup_cons.1 hnodup
    rcases List.mem_cons.1 hr with rfl | hr
    · exact List.lookup_cons_self
    · have hne : (r.key == r'.key) = false := by
        rw [beq_eq_false_iff_ne]
        intro heq
        exact hfirst (heq ▸ List.mem_map_of_mem hr)
      rw [List.map_cons, Row.default, List.lookup_cons, hne]
      exact ih hnodup hr

/-- The fields that have been laid over stay as they are while the others are. -/
theorem overlayFields_rows {usuals : List (String × Json)} (rows : List Row) :
    ∀ done : List (String × Json), (rows.map Row.key).Nodup →
      (∀ r ∈ rows, r.key ∉ done.map Prod.fst) → (∀ r ∈ rows, usuals.lookup r.key = some r.usual) →
      overlayFields (done ++ rows.map Row.below) (rows.map Row.above) usuals =
        done ++ rows.map Row.merged := by
  induction rows with
  | nil => exact fun _ _ _ _ => rfl
  | cons r rows ih =>
    intro done hnodup hnew husual
    obtain ⟨hfirst, hnodup⟩ := List.nodup_cons.1 hnodup
    have hdone := hnew r List.mem_cons_self
    have hrest : r.key ∉ (rows.map Row.below).map Prod.fst := by
      rw [List.map_map]
      exact hfirst
    have hfound : (done ++ r.below :: rows.map Row.below).lookup r.key = some r.target := by
      rw [List.lookup_append, lookup_of_notMem hdone, Option.none_or, Row.below,
        List.lookup_cons_self]
    have hreplace : replaceField r.key r.merged.2 (done ++ r.below :: rows.map Row.below) =
        (done ++ [r.merged]) ++ rows.map Row.below := by
      have hstep : replaceField r.key r.merged.2 (done ++ r.below :: rows.map Row.below) =
          replaceField r.key r.merged.2 done ++ r.merged ::
            replaceField r.key r.merged.2 (rows.map Row.below) := by
        simp [replaceField, Row.below, Row.merged]
      rw [hstep, replaceField_of_notMem hdone, replaceField_of_notMem hrest, List.append_assoc,
        List.singleton_append]
    simp only [List.map_cons, Row.above, overlayFields, husual r List.mem_cons_self,
      Option.getD_some, hfound]
    refine (congrArg (overlayFields · _ _) hreplace).trans ?_
    rw [ih _ hnodup ?_ fun r' hr' => husual r' (List.mem_cons_of_mem r hr'), List.append_assoc,
      List.singleton_append]
    intro r' hr' hmem
    rw [List.map_append, List.mem_append] at hmem
    rcases hmem with hmem | hmem
    · exact hnew r' (List.mem_cons_of_mem r hr') hmem
    · have hkey : r'.key = r.key := List.mem_singleton.1 hmem
      exact hfirst (hkey ▸ List.mem_map_of_mem hr')

/-- **Objects with the same fields are laid over one another field by field.** -/
theorem overlay_rows (rows : List Row) (hnodup : (rows.map Row.key).Nodup) :
    overlay (object (rows.map Row.below)) (object (rows.map Row.above))
      (object (rows.map Row.default)) = object (rows.map Row.merged) := by
  rw [overlay, ← List.nil_append (rows.map Row.below),
    overlayFields_rows rows [] hnodup (by simp) fun r hr => lookup_default hnodup hr,
    List.nil_append]

end WalletTasks.Json
