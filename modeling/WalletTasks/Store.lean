import WalletTasks.Error
import WalletTasks.Job

/-!
# The job store

The store keeps one job per identifier, the history of their changes of status, and the
transactions written for audit. Only a job that is there can be updated.

* `Store.get?_insert`, `Store.get?_update`: a job is read as it was last written, and no other
  changes.
* `Store.update?_eq_none_iff`: an update fails exactly when the job was never inserted.
-/

namespace WalletTasks

/-- A change of status as it is kept in the history. -/
structure StatusChange where
  jobId : Identifier
  before : Status
  after : Status
  error : Option String
  time : Instant
deriving DecidableEq, Repr

/-- Jobs, their history and their transactions, each in the order of arrival, and how many updates
there have been. -/
structure Store where
  jobs : List Job
  history : List StatusChange
  transactions : List AuditEntry
  writes : Nat
deriving DecidableEq, Repr, Inhabited

namespace Store

/-- A store without any entry. -/
def empty : Store := ⟨[], [], [], 0⟩

/-- Replaces the job with the same identifier, or adds the job behind all others. -/
def place (job : Job) : List Job → List Job
  | [] => [job]
  | j :: js => if j.id = job.id then job :: js else j :: place job js

/-- The job with an identifier. -/
def get? (s : Store) (id : Identifier) : Option Job := s.jobs.find? fun j => j.id = id

/-- Why there is no job with an identifier. -/
def missing (id : Identifier) : StoreError := .notFound "process_task" id.text

/-- Adds a job, or replaces the one with the same identifier. -/
def insert (s : Store) (job : Job) : Store := { s with jobs := place job s.jobs }

/-- Replaces the job with the same identifier, if there is one. -/
def update? (s : Store) (job : Job) : Option Store :=
  if (s.get? job.id).isSome then
    some { s with jobs := place job s.jobs, writes := s.writes + 1 }
  else none

/-- Appends a change of status to the history. -/
def record (s : Store) (change : StatusChange) : Store :=
  { s with history := s.history ++ [change] }

/-- Appends a transaction to the audit list. -/
def audit (s : Store) (entry : AuditEntry) : Store :=
  { s with transactions := s.transactions ++ [entry] }

/-- The changes of status of a job. -/
def historyOf (s : Store) (id : Identifier) : List StatusChange :=
  s.history.filter fun c => c.jobId = id

/-- The transactions of a job. -/
def transactionsOf (s : Store) (id : Identifier) : List AuditEntry :=
  s.transactions.filter fun e => e.jobId = id

/-- Reads the job with an identifier. -/
def read (s : Store) (id : Identifier) : Except StoreError Job :=
  match s.get? id with
  | some job => .ok job
  | none => .error (missing id)

/-- A call that writes to the store. -/
inductive Write
  | insert (job : Job)
  | update (job : Job)
  | record (change : StatusChange)
  | audit (entry : AuditEntry)
deriving DecidableEq, Repr

/-- The identifier that a call writes under. -/
def Write.id : Write → Identifier
  | .insert job | .update job => job.id
  | .record change => change.jobId
  | .audit entry => entry.jobId

/-- Makes a call, and says how it ends: only an update can fail. -/
def apply (s : Store) : Write → Store × Except StoreError Unit
  | .insert job => (s.insert job, .ok ())
  | .update job =>
    match s.update? job with
    | some t => (t, .ok ())
    | none => (s, .error (missing job.id))
  | .record change => (s.record change, .ok ())
  | .audit entry => (s.audit entry, .ok ())

/-- A store after some calls. -/
def replay (calls : List Write) : Store := calls.foldl (fun s c => (s.apply c).1) empty

variable {s t : Store} {job : Job} {id : Identifier}

theorem find?_place (js : List Job) :
    (place job js).find? (fun j => j.id = id) =
      if job.id = id then some job else js.find? fun j => j.id = id := by
  induction js with
  | nil => by_cases h : job.id = id <;> simp [place, h]
  | cons j js ih =>
    unfold place
    split
    · next h => by_cases hid : job.id = id <;> simp [hid, h]
    · next h =>
      by_cases hj : j.id = id
      · have : job.id ≠ id := fun e => h (hj.trans e.symm)
        simp [hj, this]
      · simpa [hj] using ih

theorem get?_insert : (s.insert job).get? id = if job.id = id then some job else s.get? id :=
  find?_place s.jobs

theorem update?_eq_none_iff : s.update? job = none ↔ s.get? job.id = none := by
  unfold update?
  cases s.get? job.id <;> simp

theorem get?_update (h : s.update? job = some t) :
    t.get? id = if job.id = id then some job else s.get? id := by
  unfold update? at h
  split at h
  · cases h
    exact find?_place s.jobs
  · cases h

theorem get?_id (h : s.get? id = some job) : job.id = id := by
  simpa using List.find?_some h

end Store

end WalletTasks
