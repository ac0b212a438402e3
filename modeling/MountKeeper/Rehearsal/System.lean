import MountKeeper.ProgramRun
import MountKeeper.Rehearsal.Host

/-! # Programs and processes of a rehearsal

* `Host.runner` plays programs by the rules of the host; `Host.stubRunner` plays installed ones.
* `Host.processTable` looks up and ends the processes of the host. In `Host.signalTable` they end by
  signals, and are there until they have been waited for. -/

namespace MountKeeper.Rehearsal

/-- A program that writes the same each time. -/
structure Stub where
  stdout : String := ""
  stderr : String := ""
  /-- The code that it ends with. -/
  code : Nat := 0
  deriving DecidableEq, Repr

/-- The run of a program that writes the same each time. -/
def Stub.run (s : Stub) : ProgramRun :=
  .ended (.exited (s.code % 256)) s.stdout.toUTF8.toList s.stderr.toUTF8.toList

namespace Host

/-! ## Programs -/

/-- The text of a call in the journal, where the own process id has a name. -/
def callText (h : Host) (program : String) (args : List String) : String :=
  let own := "--pid=" ++ Numeral.decimal h.self.toNat
  " ".intercalate (program :: args.map fun a => if a = own then "--pid=SELF" else a)

/-- The result of an outcome. -/
def resultOf (program : String) : Outcome → Except Failure CommandOutput
  | .succeeds stdout => .ok ⟨stdout, ""⟩
  | .fails status stderr => .error (.ofSession (.externalTool program status stderr))
  | .timesOut limit => .error (.ofSession (.timeout program limit))
  | .breaks reason => .error (.ofText reason)

/-- How a call turns out: a program that is not installed cannot be found, and a call that no rule
fits succeeds. -/
def outcomeOf (programs : Programs) (program call : String) : Except Failure CommandOutput :=
  if programs.missing.contains program then .error (.ofSession (.toolNotFound program))
  else match programs.rules.find? fun r => Text.startsWith r.1 call with
    | some (_, outcome) => resultOf program outcome
    | none => .ok {}

/-- Plays programs by rules. -/
def runner : CommandRunner Host where
  run program args := do
    let h ← Act.look
    let call := h.callText program args
    note ("run " ++ call)
    Act.ofExcept (outcomeOf h.programs program call)

/-- The path of this program. -/
def ownPath : String := "<EXE>"

/-- How this program, called to mount a path, is played: it shows how it was called, or refuses a
path that looks bad. -/
def child (args : List String) : Stub :=
  let path := args.getD 1 ""
  if Text.contains "bad" path then { stderr := s!"refused: {path}\n", code := 3 }
  else { stdout := "child: " ++ " ".intercalate args ++ "\n" }

/-- Plays installed programs and this one. There are no others. -/
def stubRunner (installed : List (String × Stub)) : CommandRunner Host where
  run program args :=
    if program = ownPath then Act.ofExcept ((child args).run.result program)
    else match installed.lookup program with
      | none => Act.ofExcept (ProgramRun.missing.result program)
      | some stub => do
        note (" ".intercalate (program :: args))
        Act.ofExcept (stub.run.result program)

/-! ## Processes -/

/-- Ends a process, unless it is one of those that cannot be ended. -/
def endProcess (verb : String) (kept : Processes → List UInt32) (pid : UInt32) : Act Host Unit := do
  note (verb ++ " " ++ Numeral.decimal pid.toNat)
  let h ← Act.look
  if (kept h.processes).contains pid then Act.failText "operation not permitted"
  else Act.change fun h =>
    { h with processes := { h.processes with alive := h.processes.alive.filter (· != pid) } }

/-- The processes of the host. -/
def processTable : ProcessTable Host where
  isAlive pid := do return (← Act.look).processes.alive.contains pid
  childrenOf pid := do return ((← Act.look).processes.children.lookup pid).getD []
  pidsNamed name := do return ((← Act.look).processes.named.lookup name).getD []
  terminate := endProcess "terminate" (·.unterminable)
  kill := endProcess "kill" (·.unkillable)

/-- Says that a process exists, or that it does not. -/
def setAlive (pid : UInt32) (alive : Bool) : Act Host Unit :=
  Act.change fun h =>
    let others := h.processes.alive.filter (· != pid)
    { h with processes := { h.processes with alive := if alive then others ++ [pid] else others } }

/-! ## Signals -/

/-- Sends a signal that ends a process. -/
def signal (number : Nat) (pid : UInt32) : Act Host Unit := do
  let h ← Act.look
  if h.processes.alive.contains pid then
    if (h.processes.ended.lookup pid).isNone then
      Act.change fun h => { h with processes := { h.processes with
        ended := (pid, .signaled number) :: h.processes.ended } }
  else Act.failText "ESRCH: No such process"

/-- The processes of the host, which end by signals. -/
def signalTable : ProcessTable Host :=
  { processTable with terminate := signal 15, kill := signal 9 }.guarded

/-- Starts a child of this process. -/
def spawn (pid : UInt32) (name : String) : Act Host Unit := do
  setAlive pid true
  Act.change fun h => { h with processes := { h.processes with
    children := [(h.self, [(pid, name)])] } }

/-- Waits for a child of this process; one that no signal ends comes to its end by itself. -/
def wait (pid : UInt32) : Act Host ExitStatus := do
  let h ← Act.look
  setAlive pid false
  Act.change fun h => { h with processes := { h.processes with
    children := [], ended := h.processes.ended.filter fun e => e.1 != pid } }
  return (h.processes.ended.lookup pid).getD (.exited 0)

end Host

end MountKeeper.Rehearsal
