import MountKeeper.HealthMonitor.Supervisor
import MountKeeper.LogLevel
import MountKeeper.Signal
import MountKeeper.Supervisor

/-! # Sessions that processes of this host serve

A session is served by a process of its own, in the foreground or in the background. The process
records the session once its data path has started, and removes the record when it shuts down.

* `LocalSupervisor.serve` is the life of a serving process between the two; it ends with the data
  path or when a signal asks for it.
* `LocalSupervisor.runSession` is the whole life, `LocalSupervisor.shutdown` its end.
* `LocalSupervisor.stop` ends the process of a session from outside. -/

namespace MountKeeper

/-- What it takes to serve sessions on this host. -/
structure LocalSupervisor (σ : Type) where
  registry : SessionRegistry σ
  processes : ProcessTable σ
  monitor : HealthMonitor σ
  factory : DataPathFactory σ
  signals : SignalWatch σ
  /-- Makes the log follow a configuration file. -/
  reloadLog : String → Act σ LogLevel
  /-- The process that serves. -/
  self : σ → UInt32
  /-- A bound for the polls of a data path, computed from the host. -/
  pollLimit : σ → Nat

namespace LocalSupervisor

variable {σ : Type}

/-! ## Serving -/

/-- Answers signals up to one that asks to end, and says whether there was one. A configuration
that cannot be read again is passed over. -/
def answerSignals (s : LocalSupervisor σ) (options : MountOptions) : List Signal → Act σ Bool
  | [] => return false
  | .reload :: rest => do
    match options.configPath with
    | some path =>
      let _ ← Act.attempt (s.reloadLog path)
    | none => pure ()
    s.answerSignals options rest
  | _ :: _ => return true

/-- Serves until a signal asks to end or the data path has ended, or up to a number of polls. -/
def serve (s : LocalSupervisor σ) (path : DataPath σ) (options : MountOptions) : Nat → Act σ Unit
  | 0 => pure ()
  | n + 1 => do
    if ← s.answerSignals options (← s.signals.arrived) then
      pure ()
    else if ← path.isRunning then
      s.serve path options n

/-- Runs the health monitor of this process, if one is wanted. That it cannot be run does not
matter to the session. -/
def watchHealth (s : LocalSupervisor σ) (options : MountOptions) (pid : UInt32) : Act σ Unit := do
  if options.config.monitor.enabled then
    let _ ← Act.attempt (s.monitor.run pid options.config.monitor options.config.cache)

/-- Ends a session: the monitor is stopped, then the data path, and the record is removed even if
the data path does not stop. -/
def shutdown (s : LocalSupervisor σ) (path : DataPath σ) (session : Session)
    (options : MountOptions) (pid : UInt32) : Act σ Unit := do
  if options.config.monitor.enabled then
    if ← s.monitor.isEnabled then
      let _ ← Act.attempt (s.monitor.stop pid)
  let stopped ← Act.attempt path.stop
  s.registry.unregister session.key
  Act.ofExcept stopped

/-- Starts the data path of a session and records the session. A session that cannot be recorded is
not served. -/
def attach (s : LocalSupervisor σ) (path : DataPath σ) (session : Session) : Act σ Unit := do
  Act.inContext "unable to start pipeline" path.start
  match ← Act.attempt (s.registry.register session) with
  | .ok () => pure ()
  | .error f =>
    let _ ← Act.attempt path.stop
    Act.fail f

/-- The life of a serving process. `ready` is what it does once the session is recorded. -/
def runSession (s : LocalSupervisor σ) (path : DataPath σ) (session : Session)
    (options : MountOptions) (ready : Act σ Unit) : Act σ Unit := do
  s.signals.begin
  let session := { session with state := .running }
  s.attach path session
  ready
  let h ← Act.look
  s.watchHealth options (s.self h)
  s.serve path options (s.pollLimit h)
  s.shutdown path { session with state := .stopping } options (s.self h)

/-- Serves a session in this process. -/
def serveHere (s : LocalSupervisor σ) (session : Session) (options : MountOptions)
    (ready : Act σ Unit) : Act σ Started := do
  let session := { session with owner := .process (s.self (← Act.look)) }
  let path ← s.factory.build options
  s.runSession path session options ready
  return .completed

/-! ## Stopping -/

/-- How often it is looked whether a process has ended: for ten seconds, five times a second. -/
def patience : Nat := 50

/-- Waits for a process to end, looking up to a number of times. -/
def awaitExit (s : LocalSupervisor σ) (pid : UInt32) : Nat → Act σ Unit
  | 0 => pure ()
  | n + 1 => do
    if ← s.processes.isAlive pid then s.awaitExit pid n

/-- Ends the process of a session and removes its record. -/
def stop (s : LocalSupervisor σ) (session : Session) : Act σ Unit := do
  match session.owner with
  | .service _ =>
    Act.refuse (.staleState session.key.text s!"{session.owner.display} is not a local process")
  | .process pid =>
    if ← s.processes.isAlive pid then
      s.processes.terminate pid
      s.awaitExit pid patience
    s.registry.unregister session.key

end LocalSupervisor

end MountKeeper
