import MountKeeper.Failure

/-! # Log levels

The levels of the log, from nothing to everything, and their names in the configuration. -/

namespace MountKeeper

/-- How much is logged. -/
inductive LogLevel where
  | off | error | warn | info | debug | trace
  deriving DecidableEq, Repr, Inhabited

namespace LogLevel

/-- The place of a level in the order from nothing to everything. -/
def rank : LogLevel → Nat
  | off => 0
  | error => 1
  | warn => 2
  | info => 3
  | debug => 4
  | trace => 5

/-- The one of two levels that logs more. -/
def most (a b : LogLevel) : LogLevel :=
  if a.rank < b.rank then b else a

/-- The level of a name in capital letters. -/
def ofName? (name : String) : Option LogLevel :=
  if name = "LOG_OFF" ∨ name = "OFF" then some off
  else if name = "LOG_CRIT" ∨ name = "LOG_ERR" ∨ name = "ERROR" then some error
  else if name = "LOG_WARNING" ∨ name = "WARN" ∨ name = "WARNING" then some warn
  else if name = "LOG_INFO" ∨ name = "INFO" then some info
  else if name = "LOG_DEBUG" ∨ name = "DEBUG" then some debug
  else if name = "LOG_TRACE" ∨ name = "TRACE" then some trace
  else none

/-- Reads the name of a level, in any case and with blanks around it. -/
def parse (name : String) : Except SessionError LogLevel :=
  match ofName? (String.ofList ((Text.trim name.toList).map Char.toUpper)) with
  | some level => .ok level
  | none => .error (.config s!"invalid log level [{name}]")

end LogLevel

end MountKeeper
