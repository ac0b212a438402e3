import MountKeeper.DataPath
import MountKeeper.Session

/-! # Supervisors

A supervisor starts and stops sessions. -/

namespace MountKeeper

/-- How a session was started. -/
inductive Started where
  /-- A process in the background serves it. -/
  | background (pid : UInt32)
  /-- The launcher serves it. -/
  | delegated
  /-- It was served by this process, and has ended. -/
  | completed
  deriving DecidableEq, Repr

/-- Starts and stops sessions. -/
structure Supervisor (σ : Type) where
  /-- Starts a session. The supervisor chooses its owner. -/
  start : Session → MountOptions → Act σ Started
  /-- Ends a session and removes its record. -/
  stop : Session → Act σ Unit

end MountKeeper
