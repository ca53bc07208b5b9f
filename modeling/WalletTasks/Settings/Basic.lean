import WalletTasks.Text.Numeral

/-!
# Settings

The values that a user keeps on disk, and what they are for a user who has set nothing.
-/

namespace WalletTasks

/-- How tasks are run. -/
structure RunSettings where
  env : String
  taskTimeoutSecs : UInt64
  starkNetTimeoutSecs : UInt64
  pollIntervalMs : UInt64
deriving DecidableEq, Repr

/-- What is logged, and how it looks. -/
structure LogSettings where
  filter : String
  format : String
deriving DecidableEq, Repr

/-- The settings of a user. -/
structure Settings where
  run : RunSettings
  log : LogSettings
deriving DecidableEq, Repr

namespace Settings

/-- The settings of a user who has set nothing. -/
def standard : Settings :=
  ⟨⟨"prod", 120, 600, 3000⟩, ⟨"chainflow=info", "pretty"⟩⟩

instance : Inhabited Settings := ⟨standard⟩

end Settings

end WalletTasks
