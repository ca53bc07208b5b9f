import WalletTasks.Wire.Scalar
import WalletTasks.Task.Payload

/-!
# Stored form of tasks

A payload is an object with a single field, named for the shape; a task is an object of kind and
payload, and is refused when the two disagree. The description of a task is the pretty form of its
parameters alone.
-/

namespace WalletTasks.Wire

open Json

/-! ## Fees and footprints -/

def cost (c : Cost) : Json :=
  .object [("gas_limit", uint64 c.gasLimit), ("gas_price", wei c.gasPrice)]

def costDecoder : Decoder Cost :=
  (Cost.mk <$> Fields.required "gas_limit" Decoder.uint64
    <*> Fields.required "gas_price" weiDecoder).decoder

def gasPlan (p : GasPlan) : Json :=
  .object [("gas_limit", uint64 p.gasLimit), ("gas_price", wei p.gasPrice)]

def gasPlanDecoder : Decoder GasPlan :=
  (GasPlan.mk <$> Fields.required "gas_limit" Decoder.uint64
    <*> Fields.required "gas_price" weiDecoder).decoder

def footprint (f : Footprint) : Json :=
  .object [("tx_id", .string f.txId), ("approve_tx_id", .option .string f.approveTxId),
    ("gas", .option gasPlan f.gas), ("completed", .bool f.completed),
    ("submitted_at", instant f.submittedAt)]

def footprintDecoder : Decoder Footprint :=
  (Footprint.mk <$> Fields.required "tx_id" Decoder.string
    <*> Fields.withDefault "approve_tx_id" (Decoder.option Decoder.string) none
    <*> Fields.withDefault "gas" (Decoder.option gasPlanDecoder) none
    <*> Fields.withDefault "completed" Decoder.bool false
    <*> Fields.required "submitted_at" instantDecoder).decoder

/-! ## Parameters -/

def spend : Spend → Json
  | .absolute w => .object [("absolute", wei w)]
  | .percent d => .object [("percent", decimal d)]

def spendDecoder : Decoder Spend :=
  variants ["absolute", "percent"]
    (fun k => if k = "absolute" ∨ k = "percent" then some (.error .wrongType) else none)
    (fun k =>
      if k = "absolute" then some (weiDecoder.map .absolute)
      else if k = "percent" then some (decimalDecoder.map .percent)
      else none)

def delayRange (r : DelayRange) : Json :=
  .object [("min_secs", uint64 r.least), ("max_secs", uint64 r.most)]

def delayRangeDecoder : Decoder DelayRange :=
  (DelayRange.mk <$> Fields.required "min_secs" Decoder.uint64
    <*> Fields.required "max_secs" Decoder.uint64).decoder

def delay (d : Delay) : Json :=
  .object [("duration_secs", uint64 d.seconds), ("random", .option delayRange d.range),
    ("wait_until", .option instant d.waitUntil)]

def delayDecoder : Decoder Delay :=
  (Delay.mk <$> Fields.required "duration_secs" Decoder.uint64
    <*> Fields.withDefault "random" (Decoder.option delayRangeDecoder) none
    <*> Fields.withDefault "wait_until" (Decoder.option instantDecoder) none).decoder

def vote (v : Vote) : Json :=
  .object [("network", labelled v.network), ("space", .string v.space),
    ("proposal", .string v.proposal), ("choice", .nat v.choice.toNat),
    ("receipt", .option .string v.receipt)]

def voteDecoder : Decoder Vote :=
  (Vote.mk <$> Fields.required "network" (choice Network)
    <*> Fields.required "space" Decoder.string
    <*> Fields.required "proposal" Decoder.string
    <*> Fields.required "choice" Decoder.uint32
    <*> Fields.withDefault "receipt" (Decoder.option Decoder.string) none).decoder

/-- The fields of an action, without its footprint. -/
def actionFields : Action → List (String × Json)
  | .swap network fromToken toToken amount =>
    [("network", labelled network), ("from_token", labelled fromToken),
      ("to_token", labelled toToken), ("amount", spend amount)]
  | .bridge fromNetwork toNetwork fromToken toToken amount =>
    [("from_network", labelled fromNetwork), ("to_network", labelled toNetwork),
      ("from_token", labelled fromToken), ("to_token", labelled toToken),
      ("amount", spend amount)]
  | .deposit network token amount address =>
    [("network", labelled network), ("token", labelled token), ("amount", spend amount),
      ("address", .string address)]
  | .withdraw network exchange token amount =>
    [("network", labelled network), ("exchange", .string exchange), ("token", labelled token),
      ("amount", wei amount)]
  | .liquidity network tokenA tokenB add amount =>
    [("network", labelled network), ("token_a", labelled tokenA), ("token_b", labelled tokenB),
      ("add", .bool add), ("amount", spend amount)]
  | .nftBridge fromNetwork toNetwork =>
    [("from_network", labelled fromNetwork), ("to_network", labelled toNetwork)]
  | .deployAccount network => [("network", labelled network)]

/-- The fields of an action of some shape. -/
def actionFieldsOf : Shape → Option (Fields Action)
  | .swap => some <|
    Action.swap <$> Fields.required "network" (choice Network)
      <*> Fields.required "from_token" (choice Token)
      <*> Fields.required "to_token" (choice Token)
      <*> Fields.required "amount" spendDecoder
  | .bridge => some <|
    Action.bridge <$> Fields.required "from_network" (choice Network)
      <*> Fields.required "to_network" (choice Network)
      <*> Fields.required "from_token" (choice Token)
      <*> Fields.required "to_token" (choice Token)
      <*> Fields.required "amount" spendDecoder
  | .deposit => some <|
    Action.deposit <$> Fields.required "network" (choice Network)
      <*> Fields.required "token" (choice Token)
      <*> Fields.required "amount" spendDecoder
      <*> Fields.required "address" Decoder.string
  | .withdraw => some <|
    Action.withdraw <$> Fields.required "network" (choice Network)
      <*> Fields.required "exchange" Decoder.string
      <*> Fields.required "token" (choice Token)
      <*> Fields.required "amount" weiDecoder
  | .liquidity => some <|
    Action.liquidity <$> Fields.required "network" (choice Network)
      <*> Fields.required "token_a" (choice Token)
      <*> Fields.required "token_b" (choice Token)
      <*> Fields.required "add" Decoder.bool
      <*> Fields.required "amount" spendDecoder
  | .nftBridge => some <|
    Action.nftBridge <$> Fields.required "from_network" (choice Network)
      <*> Fields.required "to_network" (choice Network)
  | .deployAccount => some <|
    Action.deployAccount <$> Fields.required "network" (choice Network)
  | .delay | .mock | .vote => none

/-! ## Payloads and tasks -/

/-- The parameters of a payload. -/
def params : Payload → Json
  | .delay d => delay d
  | .mock => .object []
  | .vote v => vote v
  | .chain action trace => .object (actionFields action ++ [("tx", .option footprint trace)])

/-- The parameters of a payload of some shape. -/
def paramsDecoder (s : Shape) : Decoder Payload :=
  match s, actionFieldsOf s with
  | .delay, _ => delayDecoder.map .delay
  | .vote, _ => voteDecoder.map .vote
  | _, some fields =>
    (Payload.chain <$> fields
      <*> Fields.withDefault "tx" (Decoder.option footprintDecoder) none).decoder
  | _, none => (Fields.pure Payload.mock).decoder

def payload (p : Payload) : Json := .object [(p.shape.label, params p)]

def payloadDecoder : Decoder Payload :=
  variants (Labelled.labels Shape)
    (fun k => (Labelled.ofLabel? (α := Shape) k).map fun _ => .error .wrongType)
    (fun k => (Labelled.ofLabel? k).map paramsDecoder)

def task (t : Task) : Json :=
  .object [("kind", labelled t.kind), ("payload", payload t.payload)]

def taskDecoder : Decoder Task :=
  Decoder.refine
    ((Prod.mk <$> Fields.required "kind" (choice Kind)
      <*> Fields.required "payload" payloadDecoder).decoder)
    fun p => (Task.pair p.1 p.2).mapError fun e => .rejected e.message

/-- The description of a task: the pretty form of its parameters. -/
def describe (t : Task) : String := (params t.payload).pretty

end WalletTasks.Wire
