import MountKeeper.Pattern.Reader
import MountKeeper.Rehearsal.Mounts
import MountKeeper.Rehearsal.Stores
import MountKeeper.Rehearsal.System
import MountKeeper.Unmounting

/-! # Unmounting in a rehearsal

* `Host.books` are the records, mounts and processes of the host.
* `Host.stopper` is a supervisor that only stops sessions. -/

namespace MountKeeper.Rehearsal.Host

/-- The records, mounts and processes of the host. -/
def books : Bookkeeping Host := ⟨registry, mountTable, unmounter, processTable⟩

/-- Stops a session by dropping its record, unless the host is told that it cannot be stopped. -/
def stopSession (s : Session) : Act Host Unit := do
  note s!"stop {s.key.text}"
  let h ← Act.look
  if h.stopFails.contains s.key then Act.failText "cannot stop session"
  else registry.unregister s.key

/-- A supervisor that only stops sessions. -/
def stopper : Supervisor Host where
  start _ _ := Act.failText "no session can be started"
  stop := stopSession

/-- What it takes to unmount on the host. -/
def teardown : Teardown Host := ⟨books, stopper, console, Pattern.reader⟩

end MountKeeper.Rehearsal.Host
