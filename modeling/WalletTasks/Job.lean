import WalletTasks.Task.Payload
import WalletTasks.Task.Status
import WalletTasks.Wire.Task

/-!
# Jobs

A job is a task on its way through the runner: the task itself, whose it is, how far it has come,
and a description that is rendered from the task whenever the job is stored.
-/

namespace WalletTasks

/-- The unit of work that is stored and run. -/
structure Job where
  id : Identifier
  processId : Identifier
  profileId : Identifier
  userId : String
  task : Task
  status : Status
  error : Option String
  description : String
  createdAt : Instant
  updatedAt : Instant
deriving DecidableEq, Repr

/-- A new job for a task: ready, and with the description of the task. -/
def Job.create (id processId profileId : Identifier) (userId : String) (task : Task)
    (now : Instant) : Job where
  id := id
  processId := processId
  profileId := profileId
  userId := userId
  task := task
  status := .ready
  error := none
  description := Wire.describe task
  createdAt := now
  updatedAt := now

/-- What a transaction was submitted for. -/
inductive TransactionRole
  | approve
  | primary
deriving DecidableEq, Repr, Inhabited

instance : Labelled TransactionRole where
  all := [.approve, .primary]
  label
    | .approve => "approve"
    | .primary => "primary"

/-- A transaction as it is kept for audit. -/
structure AuditEntry where
  jobId : Identifier
  processId : Identifier
  profileId : Identifier
  network : Network
  networkId : UInt64
  txId : String
  role : TransactionRole
  gas : Option GasPlan
  recordedAt : Instant
deriving DecidableEq, Repr

/-- The account on whose behalf a job runs. -/
structure Account where
  id : String
  login : String
deriving DecidableEq, Repr, Inhabited

/-- A charge sent to the funds service when the status of a billable job changes. -/
structure Charge where
  jobId : Identifier
  processId : Identifier
  profileId : Identifier
  userId : String
  login : String
  kind : Kind
  status : Status
deriving DecidableEq, Repr

/-- The charge for a job as it stands. -/
def Charge.ofJob (job : Job) (login : String) : Charge where
  jobId := job.id
  processId := job.processId
  profileId := job.profileId
  userId := job.userId
  login := login
  kind := job.task.kind
  status := job.status

end WalletTasks
