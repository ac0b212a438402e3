import MountKeeper.ExitStatus
import MountKeeper.Process
import MountKeeper.Text.Utf8

/-! # Runs of programs

* `ProgramRun` is how the run of a program came to its end.
* `ProgramRun.result` is what a run means to the one who asked for it: a program that cannot be
  found, one that cannot be started, one that takes too long and one that says that it failed are
  failures of four kinds. -/

namespace MountKeeper

/-- How the run of a program came to its end. -/
inductive ProgramRun where
  /-- There is no such program. -/
  | missing
  /-- The program could not be started. -/
  | refused (error : OsError)
  /-- The program was ended because it took too long. -/
  | late (limit : Duration)
  /-- The program ended. -/
  | ended (status : ExitStatus) (stdout stderr : List UInt8)
  deriving Repr

namespace ProgramRun

/-- The text of what a program wrote. -/
def text (written : List UInt8) : String :=
  String.ofList (Utf8.decode written)

/-- What a run means to the one who asked for it. -/
def result (program : String) : ProgramRun → Except Failure CommandOutput
  | missing => .error (.ofSession (.toolNotFound program))
  | refused error => .error ((Failure.ofOs error).within s!"failed to start {program}")
  | late limit => .error (.ofSession (.timeout program limit))
  | ended status stdout stderr =>
    if status.isSuccess then .ok ⟨text stdout, text stderr⟩
    else .error (.ofSession (.externalTool program status.describe (Text.trimmed (text stderr))))

end ProgramRun

end MountKeeper
