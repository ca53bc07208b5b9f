import WalletTasks.Rehearsal.Concurrent
import WalletTasks.Rehearsal.Instruction

/-!
# Rehearsals

A rehearsal takes a runner with scripted services through a list of steps. Beside the stored jobs it
keeps a copy of each job, as somebody would who has created it: a run of the copy replaces the copy
when it succeeds.
-/

namespace WalletTasks.Rehearsal

/-- The state of a rehearsal. The copies are in the order of their creation. -/
structure Stage where
  services : Services Script
  registry : Registry
  user : Account
  world : World Script
  copies : List Job

/-- What an actor of a step with several is told to do. -/
inductive Cue
  | run (id : Identifier)
  | stop (id : Identifier)
  | isRunning (id : Identifier)
  | queuePolls (network : Network) (polls : List (Except String TransactionState))

/-- What a copy is changed to: a new status and an error, if there are any. -/
structure Edit where
  id : Identifier
  status : Option Status
  error : Option String
deriving DecidableEq, Repr

/-- A step of a rehearsal. -/
inductive Step
  | seed (job : Job) (stored : Bool)
  | run (id : Identifier)
  | runStored (id : Identifier)
  | concurrent (cues : List (Nat × Cue))
  | stop (id : Identifier)
  | isRunning (id : Identifier)
  | queuePolls (network : Network) (polls : List (Except String TransactionState))
  | setFunds (funds : Decimal)
  | setUnavailable (reason : String)
  | kinds
  | edit (edit : Edit) (stored : Bool)
  | reconcile (edit : Edit)

/-- What comes of a step. -/
inductive Result
  | job (job : Job)
  | failed (fault : Fault)
  | completed
  | flag (b : Bool)
  | kinds (kinds : List Kind)
  | actors (results : List (Nat × DeedResult))
  | unknownTask
  | noSuchChain

namespace Stage

/-- The copy of a job. -/
def copy? (st : Stage) (id : Identifier) : Option Job := st.copies.find? fun j => j.id = id

/-- Keeps a copy of a job. -/
def keep (st : Stage) (job : Job) : Stage := { st with copies := Store.place job st.copies }

/-- Puts a job into the store. -/
def insert (st : Stage) (job : Job) : Stage :=
  { st with world := { st.world with store := st.world.store.insert job } }

/-- Runs a job. -/
def runJob (st : Stage) (job : Job) : Stage × Result :=
  match WalletTasks.run st.services st.registry st.user job st.world with
  | (world, .ok job) => ({ st with world }.keep job, .job job)
  | (world, .error f) => ({ st with world }, .failed f)

/-- A copy with its status changed if there is a new one, and with an error. -/
def edited (st : Stage) (e : Edit) (error : Job → Option String) : Option Job :=
  (st.copy? e.id).map fun job =>
    { job with status := e.status.getD job.status, error := error job }

/-- The deed that a cue asks for, or the reason why there is none. -/
def deed (st : Stage) : Cue → Except Result Deed
  | .run id =>
    match st.copy? id with
    | some job => .ok (.run job)
    | none => .error .unknownTask
  | .stop id => .ok (.stop id)
  | .isRunning id => .ok (.isRunning id)
  | .queuePolls network polls =>
    if (st.world.outside.client? network).isSome then .ok (.queuePolls network polls)
    else .error .noSuchChain

/-- Keeps the jobs of all runs that have succeeded. -/
def keepResults (st : Stage) (actors : List Actor) : Stage :=
  actors.foldl (fun st a =>
    match a with
    | .finished _ (.ran (.ok job)) => st.keep job
    | _ => st) st

/-- What has come of actors that started at a moment, with the time that each of them took. -/
def results (start : Nat) (actors : List Actor) : List (Nat × DeedResult) :=
  actors.filterMap fun
    | .finished time result => some (time - start, result)
    | _ => none

/-- More turns than any step with several actors takes. -/
def turns : Nat := 1000000000

/-- Lets several actors act side by side. -/
def concurrent (st : Stage) (cues : List (Nat × Cue)) : Stage × Result :=
  match cues.mapM fun c => (st.deed c.2).map fun d => (c.1, d) with
  | .error result => (st, result)
  | .ok deeds =>
    let start := st.world.now
    let actors := deeds.map fun d => Actor.starting (start + d.1) d.2
    let (world, actors) := play st.services st.registry st.user turns st.world actors
    ({ st with world }.keepResults actors, .actors (results start actors))

/-- Changes the script of the services. -/
def script (st : Stage) (f : Script → Script) : Stage :=
  { st with world := { st.world with outside := f st.world.outside } }

/-- Performs a step. -/
def perform (st : Stage) : Step → Stage × Result
  | .seed job stored =>
    let st := st.keep job
    (if stored then st.insert job else st, .job job)
  | .run id =>
    match st.copy? id with
    | some job => st.runJob job
    | none => (st, .unknownTask)
  | .runStored id =>
    match st.world.store.get? id with
    | some job => st.runJob job
    | none => (st, .failed (.error (.store (Store.missing id))))
  | .concurrent cues => st.concurrent cues
  | .stop id =>
    ({ st with world := st.world.stop id }, .flag (st.world.leases.isLive id))
  | .isRunning id => (st, .flag (st.world.leases.isLive id))
  | .queuePolls network polls =>
    if (st.world.outside.client? network).isSome then
      (st.script fun s => s.modifyClient network fun c => { c with polls := c.polls ++ polls },
        .completed)
    else (st, .noSuchChain)
  | .setFunds funds => (st.script fun s => { s with funds }, .completed)
  | .setUnavailable reason => (st.script fun s => { s with outage := some reason }, .completed)
  | .kinds => (st, .kinds st.registry.kinds)
  | .edit e stored =>
    match st.edited e fun job => e.error.or job.error with
    | some job =>
      let st := st.keep job
      (if stored then st.insert job else st, .job job)
    | none => (st, .unknownTask)
  | .reconcile e =>
    match st.edited e fun _ => e.error with
    | some job =>
      let (world, job, reply) := st.world.reconcile st.services st.user.login job
      let st := { st with world }.keep job
      match reply with
      | .value () => (st, .job job)
      | .error c => (st, .failed (.error c))
      | .crash message => (st, .failed (.crash message))
    | none => (st, .unknownTask)

end Stage

end WalletTasks.Rehearsal
