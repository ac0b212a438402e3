import MountKeeper.HealthMonitor.Supervisor
import MountKeeper.LauncherSupervisor
import MountKeeper.LocalSupervisor
import MountKeeper.Rehearsal.Mounts
import MountKeeper.Rehearsal.Stores
import MountKeeper.Rehearsal.System

/-! # Serving in a rehearsal

* `Host.factory` builds data paths that follow the script of the host; those of
  `Host.unservedFactory` cannot be started.
* `Host.monitor` and `Host.localSupervisor` serve sessions with them; `Host.launcherSupervisor` has
  the launcher of the host serve them. -/

namespace MountKeeper.Rehearsal.Host

/-! ## The script -/

/-- Fails if the script says so. -/
def failIf (reason : Option String) : Act Host Unit :=
  match reason with
  | some text => Act.failText text
  | none => pure ()

/-- Starts a data path: the configuration file changes and signals arrive as the script says. -/
def startPath (options : MountOptions) : Act Host Unit := do
  note "pipeline start"
  let h ← Act.look
  failIf h.path.startError
  match options.configPath, h.path.reload with
  | some path, some text => (Disk.update (·.writeText path text)).on diskPart
  | _, _ => pure ()
  Act.change fun h => { h with pending := h.pending ++ h.path.signals }

/-- Polls a data path: the next answer of the script. -/
def pollPath : Act Host Bool := do
  let h ← Act.look
  if h.path.notesPolls then note "pipeline is_running"
  let (polls, first) := h.polls
  Act.change fun h => { h with
    pending := if first then h.pending ++ h.path.runningSignals else h.pending
    polls := (polls.tail, false)
    resting := if polls.headD false then h.resting.or (some h.disk) else h.resting }
  return polls.headD false

/-- Stops a data path. -/
def stopPath : Act Host Unit := do
  note "pipeline stop"
  failIf (← Act.look).path.stopError

/-- Builds data paths, each of which follows the script from its start. -/
def factory : DataPathFactory Host where
  build options := do
    let h ← Act.look
    failIf h.path.buildError
    Act.change fun h => { h with polls := (h.path.running, true) }
    return ⟨startPath options, pollPath, stopPath⟩

/-- Fails to serve a path: it has to be there, and nothing on the host can serve it. -/
def refusePath (path : String) (d : Disk) : Except OsError Unit :=
  match d.find path with
  | .ok _ => .error .notFound
  | .error e => .error e

/-- Builds data paths on a host that cannot serve files. -/
def unservedFactory : DataPathFactory Host where
  build options := return {
    start := Act.inContext s!"failed to mount {options.mountPath}" do
      Act.ofOs (refusePath options.mountPath (← Act.look).disk)
    isRunning := return false
    stop := pure () }

/-- Enough polls for the script to come to its end. -/
def pollLimit (h : Host) : Nat := h.path.running.length + 1

/-! ## Supervisors -/

/-- The watch for the signals of the script. -/
def signalWatch : SignalWatch Host where
  begin := Act.change fun h => { h with pending := [] }
  arrived := do
    let h ← Act.look
    Act.change fun h => { h with pending := [] }
    return Signal.all.filter fun s => h.pending.contains s

/-- Runs the monitors of the host. -/
def monitor (surroundings : Surroundings) (program : String)
    (locator : MonitorLocator Host) : HealthMonitor Host where
  surroundings := surroundings
  runner := runner
  processes := processTable
  locator := locator
  console := console
  program := program
  enabled := monitoringPart

/-- Makes the log of the host follow a configuration file. -/
def reloadLog (path : String) : Act Host LogLevel := do
  let h ← Act.look
  match h.log with
  | none => Act.failText "nothing is logged"
  | some log =>
    let (r, log) := (Log.reload h.disk path).runOn log
    Act.change fun h => { h with log := some log }
    Act.ofExcept r

/-- Serves the sessions of a registry on the host. -/
def localSupervisor (surroundings : Surroundings) (r : SessionRegistry Host) :
    LocalSupervisor Host where
  registry := r
  processes := processTable
  monitor := monitor surroundings MonitorCommand.program (.children processTable)
  factory := factory
  signals := signalWatch
  reloadLog := reloadLog
  self := (·.self)
  pollLimit := pollLimit

/-- Describes this program to the launcher of the host. -/
def describe : Act Host Unit := do
  note "ensure_registered"
  failIf (← Act.look).descriptorError

/-- Has the launcher of the host serve the sessions of a registry. -/
def launcherSupervisor (r : SessionRegistry Host) : LauncherSupervisor Host where
  registry := r
  launcher := mountLauncher
  describe := describe
  factory := factory
  pollLimit := pollLimit

/-- Serves a session in this process, or takes none. -/
def foregroundOnly (s : LocalSupervisor Host) : Supervisor Host where
  start session options :=
    if options.foreground then s.serveHere session options (pure ())
    else Act.failText "no session can be started in the background"
  stop := s.stop

end MountKeeper.Rehearsal.Host
