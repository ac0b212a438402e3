import MountKeeper.Text.Numeral

/-! # How processes end

* `ExitStatus.describe` is the text in the failure of a program, `ExitStatus.waited` the one that
  waiting for a process gives. -/

namespace MountKeeper

/-- How a process ended. -/
inductive ExitStatus where
  /-- By itself, with a code. -/
  | exited (code : Nat)
  /-- By a signal. -/
  | signaled (number : Nat)
  deriving DecidableEq, Repr

namespace ExitStatus

/-- The names of the signals from number 1 on. -/
def signalNames : List String := [
  "SIGHUP", "SIGINT", "SIGQUIT", "SIGILL", "SIGTRAP", "SIGABRT", "SIGBUS", "SIGFPE", "SIGKILL",
  "SIGUSR1", "SIGSEGV", "SIGUSR2", "SIGPIPE", "SIGALRM", "SIGTERM", "SIGSTKFLT", "SIGCHLD",
  "SIGCONT", "SIGSTOP", "SIGTSTP", "SIGTTIN", "SIGTTOU", "SIGURG", "SIGXCPU", "SIGXFSZ",
  "SIGVTALRM", "SIGPROF", "SIGWINCH", "SIGIO", "SIGPWR", "SIGSYS"]

/-- The name of a signal. -/
def signalName? (number : Nat) : Option String :=
  if number = 0 then none else signalNames[number - 1]?

/-- Whether the process says that it succeeded. -/
def isSuccess : ExitStatus → Bool
  | exited code => code == 0
  | signaled _ => false

/-- The status in the failure of a program. -/
def describe : ExitStatus → String
  | exited code => "exit status: " ++ Numeral.decimal code
  | signaled number =>
    "signal: " ++ Numeral.decimal number ++ (match signalName? number with
      | some name => s!" ({name})"
      | none => "")

/-- The status that waiting for a process gives. -/
def waited (pid : String) : ExitStatus → String
  | exited code => "Exited(Pid(" ++ pid ++ "), " ++ Numeral.decimal code ++ ")"
  | signaled number =>
    "Signaled(Pid(" ++ pid ++ "), " ++ (signalName? number).getD "" ++ ", false)"

end ExitStatus

end MountKeeper
