import WalletTasks.Rehearsal.Script
import WalletTasks.Runner

/-!
# Runs side by side

Actors that start at given moments and share one world: they run jobs, ask runs to stop, look
whether a job is being run, or add to a script. At each moment all actors go on in their order as
far as they can, again and again until none can go on; then time jumps to the next moment at which
something is due.
-/

namespace WalletTasks.Rehearsal

/-- What an actor does. -/
inductive Deed
  | run (job : Job)
  | stop (id : Identifier)
  | isRunning (id : Identifier)
  | queuePolls (network : Network) (polls : List (Except String TransactionState))

/-- What comes of a deed. -/
inductive DeedResult
  | ran (result : Except Fault Job)
  | flag (b : Bool)
  | queued

/-- A request that a program waits for: when it is over, with which verdict, and how the program
goes on. -/
structure Waiting where
  held : Job
  request : Request
  due : Nat
  verdict : Verdict request.Answer
  next : Job → request.Answer → Program Unit

/-- Where a program stands when it cannot go on at once. -/
inductive Progress
  | ended (held : Job) (outcome : Outcome Unit)
  | waiting (w : Waiting)
  | stalled (held : Job)

/-- Drives a program as far as it gets without time passing. -/
def advance (s : Services Script) (r : Session) :
    Program Unit → World Script → World Script × Progress
  | .finish held result, w => (w, .ended held (.returned result))
  | .crash held message, w => (w, .ended held (.crashed message))
  | .stall held, w => (w, .stalled held)
  | .ask held q next, w =>
    match w.start s r held q with
    | (w, held, .over (.answer a)) => advance s r (next held a) (w.hear q a)
    | (w, held, .over (.crash message)) => (w, .ended held (.crashed message))
    | (w, held, .waiting due v) => (w, .waiting ⟨held, q, due, v, next⟩)

/-- Goes on with a program that waited. -/
def Waiting.resume (p : Waiting) (s : Services Script) (r : Session) (w : World Script) :
    World Script × Progress :=
  match (w.interruption? r).bind p.request.interrupted? with
  | some a => advance s r (p.next p.held a) (w.hear p.request a)
  | none =>
    if p.due ≤ w.now then
      match p.verdict with
      | .answer a => advance s r (p.next p.held a) (w.hear p.request a)
      | .crash message => (w, .ended p.held (.crashed message))
    else (w, .waiting p)

/-- Drops a program that is still waiting at the backstop. -/
def Progress.limit (r : Session) (now : Nat) : Progress → Progress
  | ended held outcome => ended held outcome
  | waiting p => if r.backstop ≤ now then ended p.held .dropped else waiting p
  | stalled held => if r.backstop ≤ now then ended held .dropped else stalled held

/-- The state of an actor. -/
inductive Actor
  | starting (time : Nat) (deed : Deed)
  | running (session : Session) (progress : Progress)
  | finished (time : Nat) (result : DeedResult)

namespace Actor

/-- An actor whose program has been driven as far as it gets. -/
def settle (s : Services Script) (r : Session) (p : World Script × Progress) :
    World Script × Actor :=
  match p.2.limit r p.1.now with
  | .ended held outcome =>
    let (w, result) := endRun s r ⟨p.1, held, outcome⟩
    (w, .finished w.now (.ran result))
  | progress => (p.1, .running r progress)

/-- Does a deed. -/
def perform (s : Services Script) (registry : Registry) (user : Account) (w : World Script) :
    Deed → World Script × Actor
  | .run job =>
    match beginRun s registry user job w with
    | (w, .over result) => (w, .finished w.now (.ran result))
    | (w, .underway r program) => settle s r (advance s r program w)
  | .stop id => (w.stop id, .finished w.now (.flag (w.leases.isLive id)))
  | .isRunning id => (w, .finished w.now (.flag (w.leases.isLive id)))
  | .queuePolls network polls =>
    ({ w with outside :=
        w.outside.modifyClient network fun c => { c with polls := c.polls ++ polls } },
      .finished w.now .queued)

/-- Whether an actor can go on at once. -/
def isReady (w : World Script) : Actor → Bool
  | starting time _ => time ≤ w.now
  | running r (.waiting p) =>
    ((w.interruption? r).bind p.request.interrupted?).isSome || p.due ≤ w.now ||
      r.backstop ≤ w.now
  | running r (.stalled _) => r.backstop ≤ w.now
  | running _ (.ended ..) => true
  | finished .. => false

/-- Lets an actor go on as far as it can. -/
def proceed (s : Services Script) (registry : Registry) (user : Account) (w : World Script)
    (a : Actor) : World Script × Actor :=
  if a.isReady w then
    match a with
    | starting _ deed => perform s registry user w deed
    | running r (.waiting p) => settle s r (p.resume s r w)
    | running r p => settle s r (w, p)
    | finished time result => (w, finished time result)
  else (w, a)

/-- The moments at which something is due for an actor. -/
def moments : Actor → List Nat
  | starting time _ => [time]
  | running r (.waiting p) => [p.due, r.deadline, r.backstop]
  | running r _ => [r.backstop]
  | finished .. => []

end Actor

/-- Lets all actors go on in their order. -/
def pass (s : Services Script) (registry : Registry) (user : Account) :
    List Actor → World Script → World Script × List Actor
  | [], w => (w, [])
  | a :: as, w =>
    let (w, a) := a.proceed s registry user w
    let (w, as) := pass s registry user as w
    (w, a :: as)

/-- The earliest moment behind now. -/
def nextMoment (now : Nat) (actors : List Actor) : Option Nat :=
  ((actors.flatMap Actor.moments).filter (now < ·)).min?

/-- Passes over the actors until all of them have finished; so many passes and jumps at most. -/
def play (s : Services Script) (registry : Registry) (user : Account) :
    Nat → World Script → List Actor → World Script × List Actor
  | 0, w, actors => (w, actors)
  | steps + 1, w, actors =>
    if actors.any (Actor.isReady w) then
      let (w, actors) := pass s registry user actors w
      play s registry user steps w actors
    else
      -- Nobody can go on now, so time jumps to the next moment at which somebody can.
      match nextMoment w.now actors with
      | some time => play s registry user steps (w.waitUntil time) actors
      | none => (w, actors)

end WalletTasks.Rehearsal
