import MountKeeper.HealthMonitor.Arguments
import MountKeeper.Process
import MountKeeper.Text.WordCharacter

/-! # Finding the health monitor of a process

* `MonitorLocator.listing` reads the listing of processes that a program prints: the monitor's line
  names the monitor and has the argument with the watched process as a word of its own.
* `MonitorLocator.children` looks among the children of the watched process. -/

namespace MountKeeper

/-- Finds the process id of the monitor of a process. -/
structure MonitorLocator (σ : Type) where
  find : UInt32 → Act σ UInt32

namespace MonitorLocator

variable {σ : Type}

/-- The failure to find the monitor of a process. -/
def notFound (owner : UInt32) : Failure :=
  .ofText ("no health monitor found for pid " ++ Numeral.decimal owner.toNat)

/-! ## Listings -/

/-- Whether a line is that of the monitor of a process. -/
def isMonitorLine (owner : UInt32) (line : List Char) : Bool :=
  Text.occursIn MonitorCommand.program.toList line
    && (Text.words line).contains (MonitorCommand.ownerArgument owner).toList

/-- The first whole number in a text that is not part of a longer word. `start` says whether a word
may start here. -/
def firstNumber? (start : Bool) : List Char → Option (List Char)
  | [] => none
  | c :: cs =>
    if start && Text.isDecimalDigit c then
      let digits := (c :: cs).takeWhile Text.isDecimalDigit
      let rest := (c :: cs).dropWhile Text.isDecimalDigit
      if rest.head?.any Text.isWordCharacter then firstNumber? false cs
      else some digits
    else firstNumber? (!Text.isWordCharacter c) cs

/-- A line behind its first column, the user. -/
def afterUser (line : List Char) : List Char :=
  (line.dropWhile fun c => !Text.isBlank c).drop 1

/-- Reads digits as a process id, on from the value before them. -/
def readPid (value : Nat) : List Char → Except Failure UInt32
  | [] => .ok (UInt32.ofNat value)
  | c :: cs =>
    if c.isDigit then
      let next := 10 * value + (c.toNat - '0'.toNat)
      if next < UInt32.size then readPid next cs
      else .error (.ofText "number too large to fit in target type")
    else .error (.ofText "invalid digit found in string")

/-- The process id in the line of a listing. Only the digits of ASCII make up a process id. -/
def pidOf (line : List Char) : Except Failure UInt32 :=
  match firstNumber? true (afterUser line) with
  | none => .error (.ofText s!"failed to read a pid from [{String.ofList line}]")
  | some digits => readPid 0 digits

/-- The process id of the monitor of a process, read off a listing. -/
def inListing (owner : UInt32) (text : String) : Except Failure UInt32 :=
  match (Text.lines text.toList).find? (isMonitorLine owner) with
  | none => .error (notFound owner)
  | some line => pidOf line

/-- Looks in the listing that a program prints. -/
def listing (runner : CommandRunner σ) : MonitorLocator σ where
  find owner := do
    let output ← runner.run "ps" ["aux"]
    Act.ofExcept (inListing owner output.stdout)

/-! ## Children -/

/-- Looks among the children of the process. -/
def children (processes : ProcessTable σ) : MonitorLocator σ where
  find owner := do
    match (← processes.childrenOf owner).find? (·.2 == MonitorCommand.program) with
    | some (pid, _) => pure pid
    | none => Act.fail (notFound owner)

end MonitorLocator

end MountKeeper
