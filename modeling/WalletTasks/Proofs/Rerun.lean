import WalletTasks.Proofs.Advancing

/-!
# Runs of the stored job, one after the other

A job is run again and again, each time as it is stored at that moment. Whatever the services
answer, and whenever the runs are interrupted, at most one transaction is submitted for it.

* `potential_rerun_le`: a run uses up what a job may still submit.
* `submissions_reruns_le`: at most one submission over any sequence of runs.
-/

namespace WalletTasks

variable {σ : Type}

/-- A run of the stored job: for whom, and not before when. -/
structure Turn where
  user : Account
  start : Nat

/-- Runs the stored job with an identifier. -/
def World.rerun (s : Services σ) (id : Identifier) (turn : Turn) (w : World σ) :
    World σ × Except Fault Job :=
  match w.store.get? id with
  | some job => run s .standard turn.user job (w.waitUntil turn.start)
  | none => (w, .error (.error (.store (Store.missing id))))

/-- Runs the stored job with an identifier over and over. -/
def World.reruns (s : Services σ) (id : Identifier) (turns : List Turn) (w : World σ) : World σ :=
  turns.foldl (fun w turn => (w.rerun s id turn).1) w

/-- How many transactions have been submitted, or may still be submitted by the stored job. -/
def World.potential (w : World σ) (id : Identifier) : Nat :=
  w.submissions +
    match w.store.get? id with
    | some job => if job.isSealed then 0 else 1
    | none => 0

variable {s : Services σ} {w : World σ} {id : Identifier} {job : Job}

/-- The potential counts what has been submitted. -/
theorem submissions_le_potential (w : World σ) (id : Identifier) :
    w.submissions ≤ w.potential id := by
  unfold World.potential
  omega

/-- The potential counts at most one submission more. -/
theorem potential_le_submissions (w : World σ) (id : Identifier) :
    w.potential id ≤ w.submissions + 1 := by
  unfold World.potential
  split
  · split <;> omega
  · omega

/-- A copy that has ended comes back as it is. -/
theorem run_of_isTerminal (user : Account) (h : job.status.isTerminal = true) :
    run s .standard user job w = (w, .ok job) := by
  unfold run beginRun
  rw [if_pos h]

/-- A run of a stored job that has ended or left something on chain submits nothing, and a run of
any other either submits nothing or leaves the stored job so. -/
theorem potential_run_le (hs : s.StoreSucceeds) (user : Account)
    (hj : w.store.get? id = some job) :
    (run s .standard user job w).1.potential id ≤ w.potential id := by
  obtain rfl := Store.get?_id hj
  cases hterm : job.status.isTerminal with
  | true =>
    refine Nat.le_of_eq ?_
    rw [run_of_isTerminal user hterm]
  | false =>
    have hadvance := run_advances hs user hj
    obtain ⟨j, hj', hcourse⟩ := hadvance.stored
    unfold World.potential World.submissions
    rw [hj, hj']
    simp only
    cases hspent : job.isSpent with
    | true =>
      have hsealed : j.isSealed = true := by
        rcases hcourse with rfl | hgrows
        · exact Job.isSealed_of_isSpent hspent
        · exact Job.isSealed_of_isSpent (hgrows.isSpent hspent)
      rw [hadvance.spent hspent, if_pos hsealed]
      omega
    | false =>
      -- the one submission that is left may be made now; then the job is stored as sealed
      have hopen : job.isSealed = false := by rw [Job.isSealed, hterm, hspent]; rfl
      rw [hopen]
      simp only [Bool.false_eq_true, if_false]
      have hle := hadvance.submissions_le
      rcases hadvance.onRecord with hsub | ⟨j', hj'', hsealed⟩
      · rw [hsub]
        split <;> omega
      · rw [hj'] at hj''
        cases hj''
        rw [if_pos hsealed]
        omega

/-- A run of the stored job does not raise the potential. -/
theorem potential_rerun_le (hs : s.StoreSucceeds) (turn : Turn) :
    (w.rerun s id turn).1.potential id ≤ w.potential id := by
  unfold World.rerun
  split
  · rename_i job hj
    exact potential_run_le (w := w.waitUntil turn.start) hs turn.user hj
  · exact Nat.le_refl _

/-- Nor does any sequence of runs. -/
theorem potential_reruns_le (hs : s.StoreSucceeds) (turns : List Turn) :
    (w.reruns s id turns).potential id ≤ w.potential id := by
  induction turns generalizing w with
  | nil => exact Nat.le_refl _
  | cons turn turns ih => exact Nat.le_trans ih (potential_rerun_le hs turn)

/-- **At most one submission per job.** Over any sequence of runs of the stored job, at most one
transaction is submitted for it. -/
theorem submissions_reruns_le (hs : s.StoreSucceeds) (id : Identifier) (turns : List Turn)
    (w : World σ) : (w.reruns s id turns).submissions ≤ w.submissions + 1 :=
  calc (w.reruns s id turns).submissions
    _ ≤ (w.reruns s id turns).potential id := submissions_le_potential _ id
    _ ≤ w.potential id := potential_reruns_le hs turns
    _ ≤ w.submissions + 1 := potential_le_submissions w id

/-! ## A run that is stopped, and another one -/

/-- What lies ahead of a run: after how long it is asked to stop at each of its next interruptible
requests, if at all, and how many polls find the transaction pending before it is confirmed. -/
structure Outlook where
  patience : List (Option Nat)
  pending : Nat

/-- Services that do at once what they are asked to. -/
def Services.willing : Services Outlook where
  limits := .standard
  billing := ⟨.prod⟩
  wallClock _ := .epoch
  respond
    | .profile id, x => (x, ⟨0, .value ⟨id, "owner"⟩⟩)
    | .networkSettings _ network, x => (x, ⟨0, .value ⟨network, .default, "", none, none⟩⟩)
    | .connect _ _ network, x => (x, ⟨0, .value network⟩)
    | .networkId _, x => (x, ⟨0, .value 1⟩)
    | .walletAddress _, x => (x, ⟨0, .value "0xwallet"⟩)
    | .balance .., x => (x, ⟨0, .value ⟨.zero, .one⟩⟩)
    | .submit _ request, x =>
      let txId := if request.estimateOnly then "" else "0xsent"
      (x, ⟨0, .value ⟨txId, none, ⟨21000, .zero⟩⟩⟩)
    | .poll .., x =>
      match x.pending with
      | 0 => (x, ⟨0, .value .confirmed⟩)
      | n + 1 => ({ x with pending := n }, ⟨0, .value .pending⟩)
  funds _ x := (x, .value .one)
  accept _ x := (x, .value ())
  draw least _ x := (x, least)
  patience x := ({ x with patience := x.patience.tail }, x.patience.head?.join)
  lag x := (x, 0)
  fault? _ x := (x, none)

theorem Services.storeSucceeds_willing : Services.willing.StoreSucceeds := fun _ _ => rfl

/-- A world in which one job is stored and nothing has happened. -/
def World.seeded (x : σ) (job : Job) : World σ := ⟨0, .insert .empty job, .none, x, []⟩

theorem get?_seeded (x : σ) (job : Job) : (World.seeded x job).store.get? job.id = some job := by
  unfold World.seeded
  rw [Store.get?_insert]
  exact if_pos rfl

/-- The user whose job the sample is. -/
def Account.sample : Account := ⟨"owner", "owner"⟩

/-- A job that deploys an account, which has not been run. -/
def Job.sample : Job :=
  .create default default default Account.sample.id
    ⟨.deployStarkNetAccount, .chain (.deployAccount .starkNet) none, rfl⟩ .epoch

/-- The first run is asked to stop while it rests after its first poll. -/
def Outlook.stopped : Outlook := ⟨List.replicate 8 none ++ [some 0], 1⟩

/-- The first run submits the sample job and is stopped, and the second one finds the transaction
confirmed. -/
theorem submissions_stopped_and_resumed :
    let w := World.seeded .stopped .sample
    let turn : Turn := ⟨.sample, 0⟩
    (w.rerun .willing default turn).1.submissions = 1 ∧
      (w.reruns .willing default [turn, turn]).submissions ≤ w.submissions + 1 :=
  ⟨by decide +kernel, submissions_reruns_le Services.storeSucceeds_willing _ _ _⟩

end WalletTasks
