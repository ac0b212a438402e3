import MountKeeper.HealthMonitor.Locator

/-! # Running the health monitor

Monitoring is given up in a program once a monitor could not be run.

* `HealthMonitor.run` runs the monitor of a process to its end, `HealthMonitor.stop` stops it, and
  `HealthMonitor.stopAll` stops every monitor there is. -/

namespace MountKeeper

/-- What it takes to run monitors. -/
structure HealthMonitor (σ : Type) where
  surroundings : Surroundings
  runner : CommandRunner σ
  processes : ProcessTable σ
  locator : MonitorLocator σ
  console : Console σ
  /-- The monitor program. -/
  program : String := MonitorCommand.program
  /-- Whether monitoring has not been given up. -/
  enabled : Part σ Bool

namespace HealthMonitor

variable {σ : Type}

/-- Whether monitoring has not been given up. -/
def isEnabled (m : HealthMonitor σ) : Act σ Bool := do
  return m.enabled.get (← Act.look)

/-- Runs the monitor of a process to its end and answers with how it was called. -/
def run (m : HealthMonitor σ) (owner : UInt32) (options : MonitorOptions) (cache : CacheOptions) :
    Act σ MonitorCommand := do
  let command := MonitorCommand.make m.surroundings owner options cache
  match ← Act.attempt (m.runner.run m.program command.arguments) with
  | .ok _ => return command
  | .error f =>
    Act.change (m.enabled.put false)
    Act.fail (f.within "failed to start health monitor")

/-- Stops the monitor of a process. -/
def stop (m : HealthMonitor σ) (owner : UInt32) : Act σ Unit := do
  let pid ← Act.inContext "failed to get health monitor pid" (m.locator.find owner)
  Act.inContext "failed to stop health monitor" (m.processes.kill pid)
  m.console.print "Successfully stopped health monitor binary."

/-- Ends processes, one after the other. -/
def killAll (m : HealthMonitor σ) : List UInt32 → Act σ Unit
  | [] => pure ()
  | pid :: rest => do
    Act.inContext ("failed to stop health monitor " ++ Numeral.decimal pid.toNat)
      (m.processes.kill pid)
    m.killAll rest

/-- Stops every monitor there is. -/
def stopAll (m : HealthMonitor σ) : Act σ Unit := do
  m.killAll (← m.processes.pidsNamed MonitorCommand.program)
  m.console.print "Successfully stopped all health monitor binaries."

end HealthMonitor

end MountKeeper
