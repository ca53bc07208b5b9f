import WalletTasks.Executor.Delay
import WalletTasks.Executor.Lifecycle
import WalletTasks.Executor.Mock
import WalletTasks.Executor.Vote

/-!
# The registry of executors

A registry holds at most one executor for each kind. It is built by calls that register executors,
or holds the standard executor of every kind.

* `Registry.Builder.register`: keeps the first kind that was registered again.
* `Registry.ofCalls`: the registry that calls build, which is refused if there was such a kind.
-/

namespace WalletTasks

/-- The executor of a kind by the shape of its payload. -/
def Executor.standard (kind : Kind) : Executor :=
  match kind.shape with
  | .delay => .delay
  | .mock => .mock kind
  | .vote => .vote
  | .swap | .bridge | .deposit | .withdraw | .liquidity | .nftBridge | .deployAccount =>
    .lifecycle kind

/-- Executors by kind. -/
structure Registry where
  executors : List Executor

namespace Registry

/-- A registry that is being built: the executors that it holds so far, one for each kind, and the
kind that was the first to be registered again. -/
structure Builder where
  executors : List Executor
  duplicate : Option Kind

namespace Builder

/-- A builder before its first call. -/
def empty : Builder := ⟨[], none⟩

/-- Replaces the executor of the same kind, or adds the executor behind all others. -/
def place (e : Executor) : List Executor → List Executor
  | [] => [e]
  | d :: ds => if d.kind = e.kind then e :: ds else d :: place e ds

/-- Registers an executor. One of the same kind gives way to it, and the first kind of which that is
true is kept. -/
def register (b : Builder) (e : Executor) : Builder where
  executors := place e b.executors
  duplicate :=
    if b.executors.any (fun d => d.kind = e.kind) && b.duplicate.isNone then some e.kind
    else b.duplicate

/-- Registers the standard executor of a kind. -/
def withStandard (b : Builder) (kind : Kind) : Builder := b.register (.standard kind)

/-- The registry that was built, unless a kind was registered again. -/
def build (b : Builder) : Except TaskError Registry :=
  match b.duplicate with
  | some kind => .error (.duplicateExecutor kind)
  | none => .ok ⟨b.executors⟩

end Builder

/-- A call that registers an executor: one's own, or the standard one of a kind. -/
inductive Registration
  | own (e : Executor)
  | standard (kind : Kind)

/-- Makes a call of a builder. -/
def Builder.perform (b : Builder) : Registration → Builder
  | .own e => b.register e
  | .standard kind => b.withStandard kind

/-- The registry that some calls build. -/
def ofCalls (calls : List Registration) : Except TaskError Registry :=
  (calls.foldl Builder.perform .empty).build

/-- The registry of a list of executors. -/
def build (executors : List Executor) : Except TaskError Registry :=
  ofCalls (executors.map .own)

/-- The standard executor of every kind. -/
def standard : Registry := ⟨Kind.all.map Executor.standard⟩

/-- The executor of a kind. -/
def executor (r : Registry) (kind : Kind) : Except TaskError Executor :=
  match r.executors.find? fun e => e.kind = kind with
  | some e => .ok e
  | none => .error (.unknownKind kind.label)

/-- The executor of the kind that a name stands for. -/
def lookup (r : Registry) (name : String) : Except TaskError Executor :=
  match Kind.ofName? name with
  | some kind => r.executor kind
  | none => .error (.unknownKind (Text.trimString name))

/-- The registered kinds in the order of declaration. -/
def kinds (r : Registry) : List Kind :=
  (r.executors.map Executor.kind).mergeSort fun a b => a.rank ≤ b.rank

theorem kind_standard (kind : Kind) : (Executor.standard kind).kind = kind := by
  cases kind <;> rfl

end Registry

end WalletTasks
