import WalletTasks.Chain.Fee
import WalletTasks.Chain.Network
import WalletTasks.Decimal.Basic
import WalletTasks.Error
import WalletTasks.Task.Kind
import WalletTasks.Time.Instant

/-!
# Payloads and tasks

A payload holds the parameters of a task. Seven of the ten shapes describe an action on a chain,
and carry beside it the footprint that the action leaves once it has been submitted. A task pairs
a kind with a payload of the shape that the kind carries; the pairing is part of the type.

* `Task.shape_payload`: kind and payload agree.
* `Task.replace_eq_ok_iff`: a payload can be replaced exactly by one of the kind's shape.
-/

namespace WalletTasks

/-- How much of a token to spend: an amount, or a share of the wallet's balance. -/
inductive Spend
  | absolute (amount : Wei)
  | percent (share : Decimal)
deriving DecidableEq, Repr

/-- What a task has left on chain since it submitted. -/
structure Footprint where
  txId : String
  approveTxId : Option String
  gas : Option GasPlan
  completed : Bool
  submittedAt : Instant
deriving DecidableEq, Repr

/-- An action on a chain. -/
inductive Action
  | swap (network : Network) (fromToken toToken : Token) (amount : Spend)
  | bridge (fromNetwork toNetwork : Network) (fromToken toToken : Token) (amount : Spend)
  | deposit (network : Network) (token : Token) (amount : Spend) (address : String)
  | withdraw (network : Network) (exchange : String) (token : Token) (amount : Wei)
  | liquidity (network : Network) (tokenA tokenB : Token) (add : Bool) (amount : Spend)
  | nftBridge (fromNetwork toNetwork : Network)
  | deployAccount (network : Network)
deriving DecidableEq, Repr

/-- What a submission does on chain. -/
inductive Operation
  | swap (kind : Kind) (toToken : Token)
  | bridge (kind : Kind) (toNetwork : Network) (toToken : Token)
  | transfer (toAddress : String)
  | liquidity (kind : Kind) (pairToken : Token) (add : Bool)
  | mintAndBridgeNft (kind : Kind) (toNetwork : Network)
  | deployAccount
  | exchangeWithdraw (exchange : String) (token : Token) (amount : Wei)
  | vote (space proposal : String) (choice : UInt32)
deriving DecidableEq, Repr

namespace Action

def shape : Action → Shape
  | swap .. => .swap
  | bridge .. => .bridge
  | deposit .. => .deposit
  | withdraw .. => .withdraw
  | liquidity .. => .liquidity
  | nftBridge .. => .nftBridge
  | deployAccount _ => .deployAccount

/-- The network on which the action is submitted. -/
def source : Action → Network
  | swap network .. | deposit network .. | withdraw network .. | liquidity network ..
  | deployAccount network => network
  | bridge fromNetwork .. | nftBridge fromNetwork _ => fromNetwork

/-- The network on which the action takes effect. -/
def destination : Action → Network
  | swap network .. | deposit network .. | withdraw network .. | liquidity network ..
  | deployAccount network => network
  | bridge _ toNetwork .. | nftBridge _ toNetwork => toNetwork

/-- The token that the action spends, or the one that pays its fees. -/
def fromToken : Action → Token
  | swap _ fromToken .. | bridge _ _ fromToken .. => fromToken
  | deposit _ token .. | withdraw _ _ token _ => token
  | liquidity _ tokenA .. => tokenA
  | nftBridge fromNetwork _ => fromNetwork.nativeToken
  | deployAccount network => network.nativeToken

/-- How much of the token to spend; none where the action costs nothing but fees. -/
def spend? : Action → Option Spend
  | swap _ _ _ amount | bridge _ _ _ _ amount | deposit _ _ amount _
  | liquidity _ _ _ _ amount => some amount
  | withdraw .. | nftBridge .. | deployAccount _ => none

/-- What the action submits for a kind. -/
def operation (kind : Kind) : Action → Operation
  | swap _ _ toToken _ => .swap kind toToken
  | bridge _ toNetwork _ toToken _ => .bridge kind toNetwork toToken
  | deposit _ _ _ address => .transfer address
  | withdraw _ exchange token amount => .exchangeWithdraw exchange token amount
  | liquidity _ _ tokenB add _ => .liquidity kind tokenB add
  | nftBridge _ toNetwork => .mintAndBridgeNft kind toNetwork
  | deployAccount _ => .deployAccount

end Action

/-- Bounds in seconds between which a wait is drawn. -/
structure DelayRange where
  least : UInt64
  most : UInt64
deriving DecidableEq, Repr

/-- A wait of fixed length, or of one drawn from a range; the instant at which it ends is set once
and for all by the first run. -/
structure Delay where
  seconds : UInt64
  range : Option DelayRange
  waitUntil : Option Instant
deriving DecidableEq, Repr

/-- A governance vote; the receipt is what the cast vote leaves. -/
structure Vote where
  network : Network
  space : String
  proposal : String
  choice : UInt32
  receipt : Option String
deriving DecidableEq, Repr

/-- The parameters of a task. -/
inductive Payload
  | delay (d : Delay)
  | mock
  | vote (v : Vote)
  | chain (action : Action) (footprint : Option Footprint)
deriving DecidableEq, Repr

def Payload.shape : Payload → Shape
  | .delay _ => .delay
  | .mock => .mock
  | .vote _ => .vote
  | .chain action _ => action.shape

/-- What a payload has left on chain. -/
def Payload.footprint? : Payload → Option Footprint
  | .chain _ footprint => footprint
  | _ => none

/-- A kind with a payload of its shape. -/
structure Task where
  kind : Kind
  payload : Payload
  shape_eq : payload.shape = kind.shape
deriving DecidableEq, Repr

namespace Task

/-- The cause of a payload whose shape is not the expected one. -/
def mismatch (kind : Kind) (expected found : Shape) : TaskError :=
  .payloadMismatch kind expected found

/-- Pairs a kind with a payload. -/
def pair (kind : Kind) (payload : Payload) : Except TaskError Task :=
  if h : payload.shape = kind.shape then .ok ⟨kind, payload, h⟩
  else .error (mismatch kind kind.shape payload.shape)

/-- The payload, for who expects a shape. -/
def payloadAs (t : Task) (expected : Shape) : Except TaskError Payload :=
  if t.payload.shape = expected then .ok t.payload
  else .error (mismatch t.kind expected t.payload.shape)

/-- The task with another payload, for who expects the shape of that payload. -/
def replace (t : Task) (payload : Payload) : Except TaskError Task :=
  if h : t.payload.shape = payload.shape then .ok ⟨t.kind, payload, h ▸ t.shape_eq⟩
  else .error (mismatch t.kind payload.shape t.payload.shape)

theorem shape_payload (t : Task) : t.payload.shape = t.kind.shape := t.shape_eq

/-- A payload has the shape that the kind expects. -/
theorem payloadAs_shape (t : Task) : t.payloadAs t.kind.shape = .ok t.payload :=
  if_pos t.shape_payload

theorem pair_eq_ok_iff {kind : Kind} {payload : Payload} {t : Task} :
    pair kind payload = .ok t ↔ t.kind = kind ∧ t.payload = payload := by
  unfold pair
  split
  · next h =>
    constructor
    · intro e
      cases e
      exact ⟨rfl, rfl⟩
    · rintro ⟨rfl, rfl⟩
      rfl
  · next h =>
    constructor
    · intro e
      cases e
    · rintro ⟨rfl, rfl⟩
      exact absurd t.shape_eq h

theorem replace_eq_ok_iff {t u : Task} {payload : Payload} :
    t.replace payload = .ok u ↔ u.kind = t.kind ∧ u.payload = payload := by
  unfold replace
  split
  · constructor
    · intro e
      cases e
      exact ⟨rfl, rfl⟩
    · rintro ⟨hk, rfl⟩
      cases u
      cases hk
      rfl
  · next h =>
    constructor
    · intro e
      cases e
    · rintro ⟨hk, rfl⟩
      exact absurd (by rw [t.shape_eq, u.shape_eq, hk]) h

end Task

end WalletTasks
