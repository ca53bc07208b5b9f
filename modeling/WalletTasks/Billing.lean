import WalletTasks.Job

/-!
# Billing policy

Which kinds consume the user's funds, and which changes of status are charged.
-/

namespace WalletTasks

/-- The environment that the program runs in. A local one bills every kind. -/
inductive Environment
  | local
  | dev
  | prod
deriving DecidableEq, Repr, Inhabited

instance : Labelled Environment where
  all := [.local, .dev, .prod]
  label
    | .local => "local"
    | .dev => "dev"
    | .prod => "prod"

def Environment.label (e : Environment) : String := Labelled.label e

/-- The policy of an environment. -/
structure BillingPolicy where
  environment : Environment
deriving DecidableEq, Repr

namespace BillingPolicy

instance : Inhabited BillingPolicy := ⟨⟨.prod⟩⟩

def isBillable (p : BillingPolicy) (kind : Kind) : Bool :=
  p.environment = .local || kind.isBillable

/-- A charge is owed when the status has changed to anything but done. -/
def chargeOwed (p : BillingPolicy) (before after : Status) (kind : Kind) : Bool :=
  before ≠ after && after ≠ .done && p.isBillable kind

theorem chargeOwed_self (p : BillingPolicy) (s : Status) (kind : Kind) :
    p.chargeOwed s s kind = false := by
  simp [chargeOwed]

theorem chargeOwed_done (p : BillingPolicy) (s : Status) (kind : Kind) :
    p.chargeOwed s .done kind = false := by
  simp [chargeOwed]

end BillingPolicy

end WalletTasks
