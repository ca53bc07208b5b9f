import WalletTasks.Text.Labelled

/-!
# Networks and tokens

The networks that tasks run on, the tokens they spend, and which token pays the fees of which
network.
-/

namespace WalletTasks

/-- A network that tasks run on. -/
inductive Network
  | ethereum
  | arbitrum
  | optimism
  | polygon
  | avalanche
  | binanceBnb
  | zksyncEra
  | starkNet
  | goerli
deriving DecidableEq, Repr, Inhabited

/-- A token that a wallet may hold. -/
inductive Token
  | eth
  | weth
  | usdt
  | usdc
  | stg
  | bnb
  | matic
  | avax
  | mav
  | lsd
  | lusd
  | mute
  | space
  | vc
  | izi
deriving DecidableEq, Repr, Inhabited

instance : Labelled Network where
  all := [.ethereum, .arbitrum, .optimism, .polygon, .avalanche, .binanceBnb, .zksyncEra,
    .starkNet, .goerli]
  label
    | .ethereum => "ETHEREUM"
    | .arbitrum => "ARBITRUM"
    | .optimism => "OPTIMISM"
    | .polygon => "POLYGON"
    | .avalanche => "AVALANCHE"
    | .binanceBnb => "BINANCE_BNB"
    | .zksyncEra => "ZKSYNC_ERA"
    | .starkNet => "STARK_NET"
    | .goerli => "GOERLI"

instance : Labelled Token where
  all := [.eth, .weth, .usdt, .usdc, .stg, .bnb, .matic, .avax, .mav, .lsd, .lusd, .mute, .space,
    .vc, .izi]
  label
    | .eth => "ETH"
    | .weth => "WETH"
    | .usdt => "USDT"
    | .usdc => "USDC"
    | .stg => "STG"
    | .bnb => "BNB"
    | .matic => "MATIC"
    | .avax => "AVAX"
    | .mav => "MAV"
    | .lsd => "LSD"
    | .lusd => "LUSD"
    | .mute => "MUTE"
    | .space => "SPACE"
    | .vc => "VC"
    | .izi => "IZI"

namespace Network

def label (n : Network) : String := Labelled.label n

/-- The token that pays fees on a network. -/
def nativeToken : Network → Token
  | .ethereum | .arbitrum | .optimism | .zksyncEra | .starkNet | .goerli => .eth
  | .polygon => .matic
  | .avalanche => .avax
  | .binanceBnb => .bnb

theorem mem_all (n : Network) : n ∈ (Labelled.all : List Network) := by
  cases n <;> decide

theorem ofLabel?_label (n : Network) : Labelled.ofLabel? n.label = some n := by
  cases n <;> rfl

end Network

namespace Token

def label (t : Token) : String := Labelled.label t

theorem mem_all (t : Token) : t ∈ (Labelled.all : List Token) := by
  cases t <;> decide

theorem ofLabel?_label (t : Token) : Labelled.ofLabel? t.label = some t := by
  cases t <;> rfl

end Token

end WalletTasks
