import WalletTasks.Json.Overlay
import WalletTasks.Wire.Settings

/-!
# Settings over settings

Several sources of settings are laid over one another: what the upper one sets to something else
than the default counts. This is done on the stored forms, which are trees, and the outcome is read
back.
-/

namespace WalletTasks.Settings

/-- Lays `upper` over `lower`. Nothing is changed if the outcome cannot be read. -/
def overlay (lower upper : Settings) : Settings :=
  let tree := Json.overlay (Wire.settings lower) (Wire.settings upper) (Wire.settings standard)
  match Json.decodeValue Wire.settingsDecoder tree with
  | .ok merged => merged
  | .error _ => lower

end WalletTasks.Settings
