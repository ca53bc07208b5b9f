import WalletTasks.Identifier

/-!
# Leases on job identifiers

A run holds a lease on the identifier of its job from its start to its end, so that no two runs work
on one job. A lease can be cancelled, which asks its run to stop; it stays in the table until the
run has ended.

* `Leases.isLive_acquire?`, `Leases.isLive_release`: the table holds what has been acquired and not
  released.
* `Leases.isCancelled_cancel`: a lease is cancelled alone.
-/

namespace WalletTasks

/-- The lease of a run on an identifier. -/
structure Lease where
  id : Identifier
  cancelled : Bool
deriving DecidableEq, Repr, Inhabited

/-- The leases of all runs that have not ended. -/
structure Leases where
  entries : List Lease
deriving DecidableEq, Repr, Inhabited

namespace Leases

/-- No run is under way. -/
def none : Leases := ⟨[]⟩

/-- Whether a run holds the identifier. -/
def isLive (l : Leases) (id : Identifier) : Bool := l.entries.any fun e => e.id = id

/-- Whether the run that holds the identifier has been asked to stop. -/
def isCancelled (l : Leases) (id : Identifier) : Bool :=
  l.entries.any fun e => e.id = id && e.cancelled

/-- A new lease, unless a run holds the identifier. -/
def acquire? (l : Leases) (id : Identifier) : Option Leases :=
  if l.isLive id then Option.none else some ⟨⟨id, false⟩ :: l.entries⟩

/-- Asks the run that holds the identifier to stop. -/
def cancel (l : Leases) (id : Identifier) : Leases :=
  ⟨l.entries.map fun e => if e.id = id then { e with cancelled := true } else e⟩

/-- Gives the lease back. -/
def release (l : Leases) (id : Identifier) : Leases :=
  ⟨l.entries.filter fun e => e.id ≠ id⟩

variable {l m : Leases} {id i : Identifier}

theorem isLive_acquire? (h : l.acquire? id = some m) :
    m.isLive i = (decide (id = i) || l.isLive i) := by
  unfold acquire? at h
  split at h
  · cases h
  · cases h
    simp [isLive]

theorem isCancelled_acquire? (h : l.acquire? id = some m) :
    m.isCancelled i = l.isCancelled i := by
  unfold acquire? at h
  split at h
  · cases h
  · cases h
    simp [isCancelled]

/-- What is acquired has been free, and is not cancelled. -/
theorem entries_of_acquire? (h : l.acquire? id = some m) :
    l.isLive id = false ∧ m.entries = ⟨id, false⟩ :: l.entries := by
  unfold acquire? at h
  split at h
  · cases h
  · rename_i hfree
    cases h
    exact ⟨Bool.eq_false_iff.2 hfree, rfl⟩

theorem acquire?_eq_none_iff : l.acquire? id = Option.none ↔ l.isLive id = true := by
  unfold acquire?
  split <;> simp_all

theorem isLive_iff : l.isLive id = true ↔ id ∈ l.entries.map Lease.id := by
  simp [isLive]

theorem map_id_cancel (l : Leases) (id : Identifier) :
    (l.cancel id).entries.map Lease.id = l.entries.map Lease.id := by
  simp only [cancel, List.map_map]
  refine List.map_congr_left fun e _ => ?_
  simp only [Function.comp]
  split <;> rfl

theorem map_id_release (l : Leases) (id : Identifier) :
    (l.release id).entries.map Lease.id = (l.entries.map Lease.id).filter (· ≠ id) := by
  rw [release, List.filter_map]
  rfl

theorem isLive_cancel : (l.cancel id).isLive i = l.isLive i := by
  simp only [isLive, cancel, List.any_map]
  congr 1
  funext e
  simp only [Function.comp]
  split <;> rfl

/-- A stop is for the run that holds the identifier, and for no other one. -/
theorem isCancelled_cancel :
    (l.cancel id).isCancelled i = (l.isCancelled i || (decide (i = id) && l.isLive id)) := by
  rw [Bool.eq_iff_iff]
  simp only [isCancelled, isLive, cancel, List.any_map, List.any_eq_true, Function.comp,
    Bool.or_eq_true, Bool.and_eq_true, decide_eq_true_eq]
  constructor
  · rintro ⟨e, he, hid, hcancelled⟩
    by_cases h : e.id = id
    · rw [if_pos h] at hid
      exact .inr ⟨hid ▸ h, e, he, h⟩
    · rw [if_neg h] at hid hcancelled
      exact .inl ⟨e, he, hid, hcancelled⟩
  · rintro (⟨e, he, hid, hcancelled⟩ | ⟨rfl, e, he, hid⟩)
    · refine ⟨e, he, ?_⟩
      split
      · exact ⟨hid, rfl⟩
      · exact ⟨hid, hcancelled⟩
    · exact ⟨e, he, by rw [if_pos hid]; exact ⟨hid, rfl⟩⟩

theorem isCancelled_release (h : i ≠ id) : (l.release id).isCancelled i = l.isCancelled i := by
  simp only [isCancelled, release, List.any_filter]
  congr 1
  funext e
  by_cases he : e.id = i
  · simp [he, h]
  · simp [he]

theorem isLive_release : (l.release id).isLive i = (decide (id ≠ i) && l.isLive i) := by
  simp only [isLive, release, List.any_filter]
  by_cases h : id = i
  · subst h
    simp
  · simp only [ne_eq, h, not_false_eq_true, decide_true, Bool.true_and]
    congr 1
    funext e
    by_cases he : e.id = i
    · simp [he, Ne.symm h]
    · simp [he]

theorem isCancelled_eq_false_of_not_isLive (h : l.isLive id = false) :
    l.isCancelled id = false := by
  simp only [isLive, isCancelled, List.any_eq_false, Bool.and_eq_true, decide_eq_true_eq] at *
  exact fun e he hc => h e he hc.1

end Leases

end WalletTasks
