import MountKeeper.Act

/-! # Processes and programs

What the lifecycle needs of the system it runs on, apart from files and mounts.

* A `ProcessTable` looks processes up and signals them; `ProcessTable.guarded` refuses process ids
  that cannot exist.
* A `CommandRunner` runs a program to its end.
* A `Console` is where lines for the user go. -/

namespace MountKeeper

/-- The processes of the system. -/
structure ProcessTable (σ : Type) where
  /-- Whether a process exists. -/
  isAlive : UInt32 → Act σ Bool
  /-- The direct children of a process, with their names. -/
  childrenOf : UInt32 → Act σ (List (UInt32 × String))
  /-- Every process with a name. -/
  pidsNamed : String → Act σ (List UInt32)
  /-- Asks a process to end. -/
  terminate : UInt32 → Act σ Unit
  /-- Ends a process. -/
  kill : UInt32 → Act σ Unit

namespace ProcessTable

variable {σ : Type}

/-- Whether the system could give out a process id. -/
def isPossible (pid : UInt32) : Bool :=
  0 < pid && pid < 0x80000000

/-- Does something to a process, unless its id is one that the system could not give out. -/
def ifPossible (pid : UInt32) (act : Act σ Unit) : Act σ Unit :=
  if isPossible pid then act
  else Act.failText ("invalid pid " ++ Numeral.decimal pid.toNat)

/-- The processes of the system, asked for possible process ids only. -/
def guarded (t : ProcessTable σ) : ProcessTable σ :=
  { t with
    isAlive := fun pid => if isPossible pid then t.isAlive pid else pure false
    terminate := fun pid => ifPossible pid (t.terminate pid)
    kill := fun pid => ifPossible pid (t.kill pid) }

end ProcessTable

/-- What a program wrote. -/
structure CommandOutput where
  stdout : String := ""
  stderr : String := ""
  deriving DecidableEq, Repr

/-- Runs a program with arguments. It fails when the program cannot be found or started, when it
does not end in time, and when it says that it failed. -/
structure CommandRunner (σ : Type) where
  run : String → List String → Act σ CommandOutput

/-- Where lines for the user go. -/
structure Console (σ : Type) where
  /-- Shows a line. -/
  print : String → Act σ Unit

/-- Shows lines, one after the other. -/
def Console.printAll {σ : Type} (c : Console σ) : List String → Act σ Unit
  | [] => pure ()
  | line :: rest => do
    c.print line
    c.printAll rest

end MountKeeper
