import MountKeeper.BootService
import MountKeeper.Rehearsal.Mounts

/-! # Service manager and launcher pipe of a rehearsal

* `Host.sink` receives the reports of the boot service.
* `Host.pipe` is a launcher's pipe that gives prepared answers. -/

namespace MountKeeper.Rehearsal

/-- The name of a reported state in the journal. -/
def reportName : ServiceState → String
  | .startPending => "StartPending"
  | .running => "Running"
  | .stopPending => "StopPending"
  | .stopped => "Stopped"

/-- A byte as two hexadecimal digits. -/
def hexByte (b : UInt8) : String :=
  Numeral.hex 2 b.toNat

/-- Bytes as hexadecimal digits. -/
def hexText (bytes : List UInt8) : String :=
  String.join (bytes.map hexByte)

namespace Host

/-- Receives reports, and refuses the one that the host is told to refuse. -/
def sink : StatusSink Host where
  report state acceptStop := do
    note s!"report {reportName state} accept_stop={acceptStop}"
    let h ← Act.look
    Act.change fun h => { h with reports := h.reports + 1 }
    if h.refusedReport = some h.reports then Act.failText "status rejected"

/-- Gives the prepared answers, one for each message. -/
def pipe (message : List UInt8) : Act Host (List UInt8) := do
  note ("sent " ++ hexText message)
  let h ← Act.look
  Act.change fun h => { h with replies := h.replies.tail }
  match h.replies.head? with
  | some (some answer) => return answer
  | _ => Act.failText "pipe closed"

end Host

end MountKeeper.Rehearsal
