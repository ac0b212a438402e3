import MountKeeper.MountOptions
import MountKeeper.Act

/-! # Data paths

A data path serves the files of a mount. What it serves is no matter of the lifecycle, which only
starts it, watches it and stops it. -/

namespace MountKeeper

/-- Serves the files of a mount. -/
structure DataPath (σ : Type) where
  start : Act σ Unit
  /-- Whether it is serving. -/
  isRunning : Act σ Bool
  stop : Act σ Unit

/-- Builds data paths. -/
structure DataPathFactory (σ : Type) where
  build : MountOptions → Act σ (DataPath σ)

end MountKeeper
