import MountKeeper.Act
import MountKeeper.SessionKey

/-! # Mounts that come back

A `RemountRecord` says what to mount after a restart, and as whom. A `RemountInstaller` makes it
happen; `RemountFlags` are the marks that the boot service starts from. -/

namespace MountKeeper

/-- What to mount after a restart, and as whom. -/
structure RemountRecord where
  /-- The path to mount. -/
  key : SessionKey
  /-- The configuration file of the mount. -/
  configPath : String
  /-- The account it runs as. -/
  runAs : String
  deriving DecidableEq, Repr

namespace RemountRecord

/-- The account that is used when none is named. -/
def defaultAccount : String := "cloudfuse"

/-- A record for a mount path; an account without a name stands for the default one. -/
def make (mountPath configPath : String) (account : Option String) : RemountRecord where
  key := .ofPath mountPath
  configPath := configPath
  runAs := match account with
    | some name => if name = "" then defaultAccount else name
    | none => defaultAccount

end RemountRecord

/-- Makes mounts come back after a restart. -/
structure RemountInstaller (σ : Type) where
  /-- Makes a mount come back, and answers with the name of what does it. -/
  install : RemountRecord → Act σ String
  /-- Undoes it for a mount path. -/
  uninstall : SessionKey → Act σ Unit

/-- The marks that the boot service starts from. -/
structure RemountFlags (σ : Type) where
  /-- Sets the mark of a record. -/
  mark : RemountRecord → Act σ Unit
  /-- Takes a mark away and says whether there was one. -/
  clear : SessionKey → Act σ Bool

end MountKeeper
