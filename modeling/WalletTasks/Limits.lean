import WalletTasks.Billing
import WalletTasks.Time.Span

/-!
# Execution limits

The limits that every run of a task keeps to: its environment, how long a run may take, and how
long a run rests between two looks at a pending transaction.
-/

namespace WalletTasks

/-- The limits shared by all runs. The rest between two polls is never empty, so that waiting for a
transaction makes time pass. -/
structure Limits where
  environment : Environment
  taskTimeout : Span
  starkNetTimeout : Span
  pollInterval : Span
  pollInterval_pos : 0 < pollInterval.nanos
deriving DecidableEq, Repr

namespace Limits

/-- Two minutes for a run, ten on StarkNet, and three seconds between polls. -/
def standard : Limits :=
  ⟨.prod, .ofSeconds 120, .ofSeconds 600, .ofMillis 3000, by decide⟩

instance : Inhabited Limits := ⟨standard⟩

/-- How long a run of a task of this kind may take. -/
def timeoutFor (l : Limits) (kind : Kind) : Span :=
  if kind.isStarkNet then l.starkNetTimeout else l.taskTimeout

end Limits

end WalletTasks
