import WalletTasks.Text.Labelled

/-!
# Task statuses

A task starts `ready`, is `running` while it is worked on, and ends `done` or `error`. A task set to
`retry` is taken up again like a ready one.
-/

namespace WalletTasks

/-- How far a task has come. -/
inductive Status
  | ready
  | running
  | retry
  | done
  | error
deriving DecidableEq, Repr, Inhabited

instance : Labelled Status where
  all := [.ready, .running, .retry, .done, .error]
  label
    | .ready => "ready"
    | .running => "running"
    | .retry => "retry"
    | .done => "done"
    | .error => "error"

namespace Status

def label (s : Status) : String := Labelled.label s

/-- Whether a task of this status is never taken up again. -/
def isTerminal : Status → Bool
  | .done | .error => true
  | .ready | .running | .retry => false

theorem ofLabel?_label (s : Status) : Labelled.ofLabel? s.label = some s := by
  cases s <;> rfl

end Status

end WalletTasks
