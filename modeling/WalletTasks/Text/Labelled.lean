/-!
# Labelled choices

A finite choice whose members carry a text: the text is what is printed and stored, and a member
is found again by it.

* `label_of_ofLabel?`: only the label of a member finds it.
* `find?_key`: among members of different keys, each is found by its key.
-/

namespace WalletTasks

theorem find?_key {α κ : Type} [DecidableEq κ] {key : α → κ} {as : List α}
    (hdistinct : (as.map key).Nodup) {a : α} (ha : a ∈ as) :
    as.find? (fun b => key b = key a) = some a := by
  induction as with
  | nil => cases ha
  | cons b bs ih =>
    obtain ⟨hb, hbs⟩ := List.nodup_cons.1 hdistinct
    rcases List.mem_cons.1 ha with rfl | ha
    · exact List.find?_cons_of_pos (decide_eq_true rfl)
    · have hne : key b ≠ key a := fun heq => hb (heq ▸ List.mem_map_of_mem ha)
      rw [List.find?_cons_of_neg (by simpa using hne), ih hbs ha]

/-- A finite choice: its members in the order of declaration, and the label of each. -/
class Labelled (α : Type) where
  all : List α
  label : α → String

namespace Labelled

variable {α : Type} [Labelled α]

/-- The labels of all members. -/
def labels (α : Type) [Labelled α] : List String := (all : List α).map label

/-- The first member with this label. -/
def ofLabel? (s : String) : Option α := all.find? fun a => label a == s

theorem label_of_ofLabel? {s : String} {a : α} (h : ofLabel? s = some a) : label a = s := by
  have := List.find?_some h
  simpa using this

end Labelled

end WalletTasks
