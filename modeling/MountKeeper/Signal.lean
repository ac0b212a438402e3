import MountKeeper.Act

/-! # Signals

The signals that a serving process understands, and the watch that it keeps for them. -/

namespace MountKeeper

/-- A signal that a serving process understands, by ascending number. -/
inductive Signal where
  /-- Asks to end. -/
  | interrupt
  /-- Asks to read the configuration again. -/
  | reload
  /-- Asks to end. -/
  | terminate
  deriving DecidableEq, Repr

/-- All signals, by ascending number. -/
def Signal.all : List Signal := [interrupt, reload, terminate]

/-- Notices the signals that arrive. -/
structure SignalWatch (σ : Type) where
  /-- Starts to watch; what arrived before is not noticed. -/
  begin : Act σ Unit
  /-- The signals that arrived since they were last asked for, each once, by ascending number. -/
  arrived : Act σ (List Signal)

end MountKeeper
