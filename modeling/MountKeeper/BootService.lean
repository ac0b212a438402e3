import MountKeeper.Instances
import MountKeeper.Launcher.Client

/-! # The boot service

The service starts the marked instances when the system boots, answers the service manager, and
stops the instances when it is told to.

* `BootService.run` is the whole life of the service over a finite list of controls, after which
  the control channel closes.
* `BootService.startAll` and `BootService.stopAll` are its two phases on instances. -/

namespace MountKeeper

/-- What is reported to the service manager. -/
inductive ServiceState where
  | startPending | running | stopPending | stopped
  deriving DecidableEq, Repr

/-- What the service manager asks for. -/
inductive ServiceControl where
  | stop | shutdown | interrogate
  deriving DecidableEq, Repr

/-- Receives reports: a state, and whether stopping is accepted in it. -/
structure StatusSink (σ : Type) where
  report : ServiceState → Bool → Act σ Unit

namespace BootService

variable {σ : Type}

/-! ## Instances -/

/-- Brings one instance up: a marked one is started, another is forgotten. That it fails does not
matter to the others. -/
def startOne (launcher : MountLauncher σ) (boot : BootInstances σ) (i : BootInstance) :
    Act σ Unit := do
  let key := i.session.key
  if i.remount then
    let _ ← Act.attempt (launcher.start key.text key.text i.session.configText)
  else
    let _ ← Act.attempt (boot.forget key)

/-- Brings every instance up. -/
def startAll (launcher : MountLauncher σ) (boot : BootInstances σ) : Act σ Unit := do
  for i in ← boot.list do
    startOne launcher boot i

/-- Stops every instance; one that cannot be stopped does not keep the others. -/
def stopAll (launcher : MountLauncher σ) (boot : BootInstances σ) : Act σ Unit := do
  for i in ← boot.list do
    let _ ← Act.attempt (launcher.stop i.session.key.text i.session.key.text)

/-! ## Controls -/

/-- Answers the controls up to the first that ends the service, or to the last. -/
def serve (sink : StatusSink σ) : List ServiceControl → Act σ Unit
  | .interrogate :: rest => do
    sink.report .running true
    serve sink rest
  | _ => pure ()

/-- The life of the service. When the instances cannot be listed at the start, it stops with that
failure; a failure to stop them at the end is passed over. -/
def run (launcher : MountLauncher σ) (boot : BootInstances σ) (sink : StatusSink σ)
    (controls : List ServiceControl) : Act σ Unit := do
  sink.report .startPending false
  match ← Act.attempt (startAll launcher boot) with
  | .error f =>
    sink.report .stopPending false
    sink.report .stopped false
    Act.fail f
  | .ok () =>
    sink.report .running true
    serve sink controls
    sink.report .stopPending false
    let _ ← Act.attempt (stopAll launcher boot)
    sink.report .stopped false

end BootService

end MountKeeper
