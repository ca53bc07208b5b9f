import WalletTasks.Run.World

/-!
# Scripted services

Services that answer from a script: tables of profiles and settings, a client for each network with
its balances, its fees and a queue of poll answers, an account with funds, and a store whose
operations fail on demand. A call takes its answer from the script when it starts.
-/

namespace WalletTasks.Rehearsal

/-- What a scripted client does. Latencies are in nanoseconds. A submission crashes, or is answered
after its latency with a failure if one is written down for its number. Polls are answered from a
queue, and behind its end with `pending`. -/
structure ClientScript where
  network : Network
  balances : List (Token × Wei)
  failingBalances : List (Token × String)
  cost : Cost
  txId : String
  approveTxId : Option String
  submitLatency : Nat
  submitCrash : Option String
  submitFailures : List (Nat × String)
  polls : List (Except String TransactionState)
  networkIdLatency : Nat
  walletLatency : Nat
  balanceLatency : Nat
  pollLatency : Nat
  networkIdFailure : Option String
  walletFailure : Option String
  submits : Nat
deriving Inhabited

/-- Which calls of a number fail. -/
inductive Failing
  | all
  | those (numbers : List Nat)

/-- Whether the call of a number fails. -/
def Failing.includes : Failing → Nat → Bool
  | all, _ => true
  | those ns, n => ns.contains n

/-- The operations of the store that fail. -/
structure StoreFaults where
  get : Failing
  update : Failing
  history : Bool
  audit : Bool

/-- The state of all scripted services. -/
structure Script where
  clients : List ClientScript
  profiles : List Profile
  settings : List (String × NetworkSettings)
  connectLatency : Nat
  funds : Decimal
  outage : Option String
  chargeFailure : Option String
  faults : StoreFaults
  gets : Nat
  updates : Nat

namespace Script

/-- The identifier that every scripted client reports for its network. -/
def networkId : UInt64 := 324

/-- The address of every scripted wallet. -/
def address : String := "0xwallet"

/-- The script of the client of a network. -/
def client? (s : Script) (network : Network) : Option ClientScript :=
  s.clients.reverse.find? fun c => c.network = network

/-- Changes the script of the client of a network. -/
def modifyClient (s : Script) (network : Network) (f : ClientScript → ClientScript) : Script :=
  { s with clients := s.clients.map fun c => if c.network = network then f c else c }

/-- A whole amount in tokens, at eighteen places; the largest decimal if it has no room for it. -/
def human (w : Wei) : Decimal := (Decimal.ofParts? w.toNat 18).getD .largest

/-- What a client answers about a balance. -/
def balanceReply (c : ClientScript) (token : Token) : Reply ChainError Balance :=
  match c.failingBalances.find? fun b => b.1 = token with
  | some (_, reason) => .error (.rpc c.network reason)
  | none =>
    match c.balances.find? fun b => b.1 = token with
    | some (_, wei) => .value ⟨wei, human wei⟩
    | none => .value ⟨.zero, .zero⟩

/-- What a client answers to a submission. -/
def submitReply (c : ClientScript) (request : SubmitRequest) : Reply ChainError Submission :=
  match c.submitFailures.find? fun f => f.1 = c.submits with
  | some (_, reason) => .error (.rpc c.network reason)
  | none =>
    if request.estimateOnly then .value ⟨"", none, c.cost⟩
    else .value ⟨c.txId, c.approveTxId, c.cost⟩

/-- A failure that may be written down, in front of a value. -/
def orFailure {α : Type} (c : ClientScript) (failure : Option String) (a : α) :
    Reply ChainError α :=
  match failure with
  | some reason => .error (.rpc c.network reason)
  | none => .value a

/-- What the client of a network makes of a call; there is no answer without a client. -/
def withClient {c : Call} (s : Script) (network : Network) (absent : Response c)
    (f : ClientScript → Response c × ClientScript) : Script × Response c :=
  match s.client? network with
  | none => (s, absent)
  | some client =>
    let (response, client) := f client
    (s.modifyClient network fun _ => client, response)

/-- What the services make of a call. -/
def respond : (c : Call) → Script → Script × Response c
  | .profile id, s =>
    (s, ⟨0, match s.profiles.reverse.find? fun p => p.id = id with
      | some profile => .value profile
      | none => .error (.notFound id)⟩)
  | .networkSettings userId network, s =>
    (s, ⟨0, match s.settings.reverse.find? fun e => e.1 = userId ∧ e.2.network = network with
      | some (_, settings) => .value settings
      | none => .error (.settingsMissing userId network)⟩)
  | .connect _ _ network, s =>
    (s, ⟨s.connectLatency,
      if (s.client? network).isSome then .value network
      else .error (.unsupported network "connect")⟩)
  | .networkId network, s =>
    s.withClient network ⟨0, .error (.unsupported network "network_id")⟩ fun c =>
      (⟨c.networkIdLatency, orFailure c c.networkIdFailure networkId⟩, c)
  | .walletAddress network, s =>
    s.withClient network ⟨0, .error (.unsupported network "wallet_address")⟩ fun c =>
      (⟨c.walletLatency, orFailure c c.walletFailure address⟩, c)
  | .balance network _ token, s =>
    s.withClient network ⟨0, .error (.unsupported network "balance")⟩ fun c =>
      (⟨c.balanceLatency, balanceReply c token⟩, c)
  | .submit network request, s =>
    s.withClient network ⟨0, .error (.unsupported network "submit")⟩ fun c =>
      (match c.submitCrash with
        | some message => ⟨0, .crash message⟩
        | none => ⟨c.submitLatency, submitReply c request⟩,
        { c with submits := c.submits + 1 })
  | .poll network _, s =>
    s.withClient network ⟨0, .error (.unsupported network "poll")⟩ fun c =>
      (⟨c.pollLatency, match c.polls.head? with
        | some (.ok state) => .value state
        | some (.error reason) => .error (.rpc c.network reason)
        | none => .value .pending⟩,
        { c with polls := c.polls.tail })

/-- The failure of an operation of the store, with the name of the operation and the number of the
call. -/
def fault (operation : String) (number : Nat) : StoreError :=
  .notFound ("fault_" ++ operation) (Text.decimal number)

/-- Whether an operation of the store fails. -/
def fault? : StoreCall → Script → Script × Option StoreError
  | .get, s =>
    ({ s with gets := s.gets + 1 },
      if s.faults.get.includes s.gets then some (fault "get" s.gets) else none)
  | .update, s =>
    ({ s with updates := s.updates + 1 },
      if s.faults.update.includes s.updates then some (fault "update" s.updates) else none)
  | .history, s => (s, if s.faults.history then some (fault "history" 0) else none)
  | .audit, s => (s, if s.faults.audit then some (fault "audit" 0) else none)

/-- What the funds service answers about an account. -/
def fundsReply (s : Script) : Reply FundsError Decimal :=
  match s.outage with
  | some reason => .error (.unavailable reason)
  | none => .value s.funds

/-- What the funds service answers to a charge. -/
def chargeReply (s : Script) : Reply FundsError Unit :=
  match s.chargeFailure with
  | some reason => .error (.unavailable reason)
  | none => .value ()

/-- The scripted services under some limits, with the clock standing still at an instant. -/
def services (limits : Limits) (instant : Instant) : Services Script where
  limits := limits
  billing := ⟨limits.environment⟩
  wallClock _ := instant
  respond := respond
  funds _ s := (s, s.fundsReply)
  accept _ s := (s, s.chargeReply)
  draw least _ s := (s, least)
  patience s := (s, none)
  lag s := (s, 0)
  fault? := fault?

end Script

end WalletTasks.Rehearsal
