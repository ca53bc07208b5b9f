import WalletTasks.Chain.Network
import WalletTasks.Chain.Wei
import WalletTasks.Decimal.Basic
import WalletTasks.Identifier

/-!
# Profiles and network settings

A profile is a wallet that a user owns; the key material stays with the service that keeps it. The
settings of a user for a network are either the defaults of the service or the user's own.
-/

namespace WalletTasks

/-- The family of networks that a wallet belongs to. -/
inductive WalletFamily
  | evm
  | starkNet
deriving DecidableEq, Repr, Inhabited

instance : Labelled WalletFamily where
  all := [.evm, .starkNet]
  label
    | .evm => "evm"
    | .starkNet => "stark_net"

/-- A wallet that a user owns. -/
structure Profile where
  id : Identifier
  userId : String
deriving DecidableEq, Repr, Inhabited

/-- Where the settings of a user for a network come from. -/
inductive SettingsSource
  | default
  | user
deriving DecidableEq, Repr, Inhabited

instance : Labelled SettingsSource where
  all := [.default, .user]
  label
    | .default => "default"
    | .user => "user"

def SettingsSource.label (s : SettingsSource) : String := Labelled.label s

/-- The settings of a user for a network. The multiplier counts only under the user's own settings;
submissions whose worst-case fee exceeds `maxFee` are refused. -/
structure NetworkSettings where
  network : Network
  source : SettingsSource
  rpcEndpoint : String
  gasMultiplier : Option Decimal
  maxFee : Option Wei
deriving DecidableEq, Repr, Inhabited

end WalletTasks
