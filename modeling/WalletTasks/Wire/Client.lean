import WalletTasks.Chain.Client
import WalletTasks.Gas
import WalletTasks.Wire.Task

/-!
# Written form of requests

Requests to a chain client as a report shows them. The name of an operation is the key of its
details; an operation without details is its name.
-/

namespace WalletTasks.Wire

open Json

def operation : Operation → Json
  | .swap k t => .object [("swap", .object [("kind", labelled k), ("to_token", labelled t)])]
  | .bridge k n t =>
    .object [("bridge", .object [("kind", labelled k), ("to_network", labelled n),
      ("to_token", labelled t)])]
  | .transfer a => .object [("transfer", .object [("to_address", .string a)])]
  | .liquidity k t add =>
    .object [("liquidity", .object [("kind", labelled k), ("pair_token", labelled t),
      ("add", .bool add)])]
  | .mintAndBridgeNft k n =>
    .object [("mint_and_bridge_nft", .object [("kind", labelled k), ("to_network", labelled n)])]
  | .deployAccount => .string "deploy_account"
  | .exchangeWithdraw e t a =>
    .object [("exchange_withdraw", .object [("exchange", .string e), ("token", labelled t),
      ("amount", wei a)])]
  | .vote space proposal choice =>
    .object [("vote", .object [("space", .string space), ("proposal", .string proposal),
      ("choice", .nat choice.toNat)])]

def submitRequest (r : SubmitRequest) : Json :=
  .object [("operation", operation r.operation), ("from_token", labelled r.fromToken),
    ("amount", wei r.amount), ("estimate_only", .bool r.estimateOnly),
    ("gas", .option gasPlan r.gas), ("slippage", .option decimal r.slippage)]

/-- The estimate of a fee. -/
def estimate (e : Estimate) : Json :=
  .object [("gas_limit", uint64 e.gasLimit), ("gas_price", wei e.gasPrice),
    ("total_fee", wei e.totalFee)]

end WalletTasks.Wire
