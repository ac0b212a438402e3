import MountKeeper.Launcher.Client
import MountKeeper.Supervisor

/-! # Sessions that the launcher serves

A session is recorded before the launcher is asked to start it, and the record is taken back when
that fails; so a record is there as long as the launcher serves the session. A session in the
foreground is served here.

* `LauncherSupervisor.delegate` and `LauncherSupervisor.serveHere` are the two ways to start.
* `LauncherSupervisor.supervisor` is the supervisor over them. -/

namespace MountKeeper

/-- What it takes to have sessions served by the launcher. -/
structure LauncherSupervisor (σ : Type) where
  registry : SessionRegistry σ
  launcher : MountLauncher σ
  /-- Makes sure that the launcher knows this program. -/
  describe : Act σ Unit
  factory : DataPathFactory σ
  /-- A bound for the polls of a data path, computed from the host. -/
  pollLimit : σ → Nat

namespace LauncherSupervisor

variable {σ : Type}

/-- Polls a data path until it has ended, or up to a number of polls. -/
def awaitEnd (path : DataPath σ) : Nat → Act σ Unit
  | 0 => pure ()
  | n + 1 => do
    if ← path.isRunning then awaitEnd path n

/-- Serves a session in this process until its data path ends. -/
def serveHere (s : LauncherSupervisor σ) (options : MountOptions) : Act σ Started := do
  let path ← s.factory.build options
  Act.inContext "unable to start pipeline" path.start
  awaitEnd path (s.pollLimit (← Act.look))
  path.stop
  return .completed

/-- Hands a session over to the launcher. -/
def delegate (s : LauncherSupervisor σ) (session : Session) : Act σ Started := do
  Act.inContext "failed to register the launcher service" s.describe
  let name := session.key.text
  let session := { session with owner := .service name }
  s.registry.register session
  match ← Act.attempt (s.launcher.start name name session.configText) with
  | .ok () => return .delegated
  | .error f =>
    let _ ← Act.attempt (s.registry.unregister session.key)
    Act.fail f

/-- Starts a session. -/
def start (s : LauncherSupervisor σ) (session : Session) (options : MountOptions) :
    Act σ Started :=
  if options.foreground then s.serveHere options else s.delegate session

/-- Stops a session and then removes its record. -/
def stop (s : LauncherSupervisor σ) (session : Session) : Act σ Unit := do
  s.launcher.stop session.key.text session.key.text
  s.registry.unregister session.key

/-- The supervisor. -/
def supervisor (s : LauncherSupervisor σ) : Supervisor σ := ⟨s.start, s.stop⟩

end LauncherSupervisor

end MountKeeper
