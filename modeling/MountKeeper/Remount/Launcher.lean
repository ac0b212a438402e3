import MountKeeper.Launcher.Client
import MountKeeper.Remount.Record

/-! # Remounting through the launcher

A mount comes back after a restart because it carries a mark, from which the boot service starts
it. A mount that is not served yet is started at once. -/

namespace MountKeeper.LauncherRemount

variable {σ : Type}

/-- Whether a listed instance is ours and has the key. -/
def serves (pairs : List (String × String)) (key : SessionKey) : Bool :=
  pairs.any fun p => p.1 == Launcher.ownClass && p.2 == key.text

/-- The remount installer over a launcher and marks. Taking away a mark that is not there is no
failure. -/
def installer (launcher : MountLauncher σ) (flags : RemountFlags σ) : RemountInstaller σ where
  install record := do
    let instanceName := record.key.text
    flags.mark record
    if !serves (← launcher.list) record.key then
      launcher.start instanceName instanceName record.configPath
    return instanceName
  uninstall key := do
    let _ ← flags.clear key

end MountKeeper.LauncherRemount
