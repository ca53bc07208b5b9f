import WalletTasks.Text.Blank
import WalletTasks.Text.Labelled

/-!
# Task kinds

The 32 kinds of wallet task, the payload shape each of them carries, and the traits that the rest
of the library asks for: whether a kind consumes funds, runs on StarkNet, or carries a slippage
tolerance.

* `ofName?_label`: a kind is found by its label.
* `eq_of_eqIgnoreCase`: no two labels differ only in the case of their letters.
-/

namespace WalletTasks

/-- Names the operation that a task performs. -/
inductive Kind
  | delay
  | mock
  | okexBinance
  | okexDeposit
  | withdrawExchange
  | snapshotVote
  | syncSwap
  | muteioSwap
  | maverickSwap
  | spaceFiSwap
  | velocoreSwap
  | izumiSwap
  | veSyncSwap
  | ezkaliburSwap
  | zkSwap
  | pancakeSwap
  | traderJoeSwap
  | weth
  | sithSwap
  | jediSwap
  | mySwap
  | protossSwap
  | swap10k
  | syncSwapLp
  | stargateBridge
  | orbiterBridge
  | testNetBridgeSwap
  | zkSyncOfficialBridgeToEthereum
  | zkSyncOfficialBridgeFromEthereum
  | starkNetBridge
  | merklyMintAndBridgeNft
  | deployStarkNetAccount
deriving DecidableEq, Repr, Inhabited

/-- The shape of a payload: which parameters it holds. -/
inductive Shape
  | delay
  | mock
  | swap
  | bridge
  | deposit
  | withdraw
  | vote
  | liquidity
  | nftBridge
  | deployAccount
deriving DecidableEq, Repr, Inhabited

instance : Labelled Kind where
  all := [.delay, .mock, .okexBinance, .okexDeposit, .withdrawExchange, .snapshotVote, .syncSwap,
    .muteioSwap, .maverickSwap, .spaceFiSwap, .velocoreSwap, .izumiSwap, .veSyncSwap,
    .ezkaliburSwap, .zkSwap, .pancakeSwap, .traderJoeSwap, .weth, .sithSwap, .jediSwap, .mySwap,
    .protossSwap, .swap10k, .syncSwapLp, .stargateBridge, .orbiterBridge, .testNetBridgeSwap,
    .zkSyncOfficialBridgeToEthereum, .zkSyncOfficialBridgeFromEthereum, .starkNetBridge,
    .merklyMintAndBridgeNft, .deployStarkNetAccount]
  label
    | .delay => "Delay"
    | .mock => "Mock"
    | .okexBinance => "OkexBinance"
    | .okexDeposit => "OkexDeposit"
    | .withdrawExchange => "WithdrawExchange"
    | .snapshotVote => "SnapshotVote"
    | .syncSwap => "SyncSwap"
    | .muteioSwap => "MuteioSwap"
    | .maverickSwap => "MaverickSwap"
    | .spaceFiSwap => "SpaceFiSwap"
    | .velocoreSwap => "VelocoreSwap"
    | .izumiSwap => "IzumiSwap"
    | .veSyncSwap => "VeSyncSwap"
    | .ezkaliburSwap => "EzkaliburSwap"
    | .zkSwap => "ZkSwap"
    | .pancakeSwap => "PancakeSwap"
    | .traderJoeSwap => "TraderJoeSwap"
    | .weth => "Weth"
    | .sithSwap => "SithSwap"
    | .jediSwap => "JediSwap"
    | .mySwap => "MySwap"
    | .protossSwap => "ProtossSwap"
    | .swap10k => "Swap10k"
    | .syncSwapLp => "SyncSwapLP"
    | .stargateBridge => "StargateBridge"
    | .orbiterBridge => "OrbiterBridge"
    | .testNetBridgeSwap => "TestNetBridgeSwap"
    | .zkSyncOfficialBridgeToEthereum => "ZkSyncOfficialBridgeToEthereum"
    | .zkSyncOfficialBridgeFromEthereum => "ZkSyncOfficialBridgeFromEthereum"
    | .starkNetBridge => "StarkNetBridge"
    | .merklyMintAndBridgeNft => "MerklyMintAndBridgeNFT"
    | .deployStarkNetAccount => "DeployStarkNetAccount"

instance : Labelled Shape where
  all := [.delay, .mock, .swap, .bridge, .deposit, .withdraw, .vote, .liquidity, .nftBridge,
    .deployAccount]
  label
    | .delay => "delay"
    | .mock => "mock"
    | .swap => "swap"
    | .bridge => "bridge"
    | .deposit => "deposit"
    | .withdraw => "withdraw"
    | .vote => "vote"
    | .liquidity => "liquidity"
    | .nftBridge => "nft_bridge"
    | .deployAccount => "deploy_account"

def Shape.label (s : Shape) : String := Labelled.label s

theorem Shape.ofLabel?_label (s : Shape) : Labelled.ofLabel? s.label = some s := by
  cases s <;> rfl

namespace Kind

/-- All kinds in the order of declaration. -/
def all : List Kind := Labelled.all

def label (k : Kind) : String := Labelled.label k

/-- Where a kind stands in the order of declaration. -/
def rank (k : Kind) : Nat := k.ctorIdx

/-- The shape of the payload that a kind carries. -/
def shape : Kind → Shape
  | .delay => .delay
  | .mock | .okexBinance => .mock
  | .okexDeposit => .deposit
  | .withdrawExchange => .withdraw
  | .snapshotVote => .vote
  | .syncSwapLp => .liquidity
  | .merklyMintAndBridgeNft => .nftBridge
  | .deployStarkNetAccount => .deployAccount
  | .syncSwap | .muteioSwap | .maverickSwap | .spaceFiSwap | .velocoreSwap | .izumiSwap
  | .veSyncSwap | .ezkaliburSwap | .zkSwap | .pancakeSwap | .traderJoeSwap | .weth | .sithSwap
  | .jediSwap | .mySwap | .protossSwap | .swap10k => .swap
  | .stargateBridge | .orbiterBridge | .testNetBridgeSwap | .zkSyncOfficialBridgeToEthereum
  | .zkSyncOfficialBridgeFromEthereum | .starkNetBridge => .bridge

/-- Whether a kind consumes the user's funds in every environment. -/
def isBillable : Kind → Bool
  | .delay | .mock | .okexBinance | .okexDeposit | .withdrawExchange => false
  | _ => true

/-- Whether a kind is executed on StarkNet, which confirms far slower than the other networks. -/
def isStarkNet : Kind → Bool
  | .sithSwap | .jediSwap | .mySwap | .protossSwap | .swap10k | .starkNetBridge
  | .deployStarkNetAccount => true
  | _ => false

/-- Whether the submission of a kind carries a slippage tolerance. -/
def usesSlippage (k : Kind) : Bool :=
  match k.shape with
  | .swap | .liquidity => true
  | .bridge => k = .stargateBridge || k = .testNetBridgeSwap
  | _ => false

/-- The kind that a name stands for: blanks around it and the case of its letters do not matter. -/
def ofName? (name : String) : Option Kind :=
  all.find? fun k => Text.eqIgnoreCase k.label (Text.trimString name)

theorem mem_all (k : Kind) : k ∈ all := by
  cases k <;> decide

theorem rank_injective {k l : Kind} (h : k.rank = l.rank) : k = l := by
  have : ∀ k ∈ all, ∀ l ∈ all, k.rank = l.rank → k = l := by decide +kernel
  exact this k (mem_all k) l (mem_all l) h

theorem ofLabel?_label (k : Kind) : Labelled.ofLabel? k.label = some k := by
  cases k <;> rfl

/-- No two kinds have the same label up to the case of its letters. -/
theorem eq_of_eqIgnoreCase {k l : Kind} (h : Text.eqIgnoreCase k.label l.label = true) :
    k = l := by
  have : ∀ k ∈ all, ∀ l ∈ all, Text.eqIgnoreCase k.label l.label = true → k = l := by
    decide +kernel
  exact this k (mem_all k) l (mem_all l) h

theorem trimString_label (k : Kind) : Text.trimString k.label = k.label := by
  have : ∀ k ∈ all, Text.trimString k.label = k.label := by decide +kernel
  exact this k (mem_all k)

theorem ofName?_label (k : Kind) : ofName? k.label = some k := by
  unfold ofName?
  rw [trimString_label]
  cases h : all.find? fun l => Text.eqIgnoreCase l.label k.label with
  | none =>
    have := List.find?_eq_none.1 h k (mem_all k)
    simp [Text.eqIgnoreCase] at this
  | some l =>
    have hl : Text.eqIgnoreCase l.label k.label = true := by simpa using List.find?_some h
    rw [eq_of_eqIgnoreCase hl]

end Kind

end WalletTasks
