import MountKeeper.CommandLine.Reading
import MountKeeper.MountOptions

/-! # Commands

* `Command` are the commands of the program, with what was given to them.
* `Command.ofWords` is the command that a command line names, and whether the user asked for
  detail. -/

namespace MountKeeper.CommandLine

/-- An unmount as it was asked for. -/
structure UnmountRequest where
  /-- The mount path or pattern as typed. -/
  target : Option String := none
  /-- Whether a busy mount is only detached. -/
  lazily : Bool := false
  /-- Whether the mount is kept from coming back as a service of the system. -/
  disableSystem : Bool := false
  /-- Whether the mount is kept from coming back for the current user. -/
  disableUser : Bool := false
  /-- The working directory as typed. -/
  workDir : Option String := none
  deriving DecidableEq, Repr

/-- A health monitor as it was asked for. -/
structure MonitorRequest where
  /-- The watched process as typed. -/
  pid : String := ""
  /-- The configuration file of its mount as typed. -/
  configFile : String := ""
  statsPollInterval : Option UInt32 := none
  processInterval : Option UInt32 := none
  outputPath : Option String := none
  deriving DecidableEq, Repr

/-- A remount service as it was asked for. -/
structure ServiceRequest where
  /-- The mount path as typed. -/
  mountPath : Option String := none
  /-- The configuration file as typed. -/
  configFile : Option String := none
  /-- The account that the service runs as. -/
  user : Option String := none
  deriving DecidableEq, Repr

/-- A command. -/
inductive Command where
  | mount (request : MountRequest)
  | mountAll (request : MountRequest)
  | mountList
  | unmount (request : UnmountRequest)
  | unmountAll (lazily : Bool)
  | monitor (request : MonitorRequest)
  | monitorStop (pid : String)
  | monitorStopAll
  | serviceInstall (request : ServiceRequest)
  | serviceUninstall (mountPath : Option String)
  deriving DecidableEq, Repr

namespace Command

/-- The mount that was asked for. -/
def mountRequest (g : Given) : MountRequest where
  mountPath := g.place.getD ""
  configFile := g.text? .configFile
  foreground := g.has .foreground
  fuseOptions := g.texts .fuseOptions
  waitForMount := g.duration? .waitForMount
  workDir := g.text? .workDir
  remount := ⟨g.has .remountSystem, g.has .remountUser, g.text? .remountSystemUser⟩

/-- The unmount that was asked for. -/
def unmountRequest (g : Given) : UnmountRequest where
  target := g.place
  lazily := g.has .lazily
  disableSystem := g.has .disableRemountSystem
  disableUser := g.has .disableRemountUser
  workDir := g.text? .workDir

/-- The health monitor that was asked for. -/
def monitorRequest (g : Given) : MonitorRequest where
  pid := (g.text? .pid).getD ""
  configFile := (g.text? .configFile).getD ""
  statsPollInterval := g.word? .statsPollInterval
  processInterval := g.word? .processInterval
  outputPath := g.text? .outputPath

/-- The command that was read. A group of commands is none. -/
def ofReading (r : Reading) : Except UsageError Command :=
  let g := r.given
  match r.level with
  | .top | .service => .error .noCommand
  | .mount => .ok (.mount (mountRequest g))
  | .mountAll => .ok (.mountAll (mountRequest g))
  | .mountList => .ok .mountList
  | .unmount => .ok (.unmount (unmountRequest g))
  | .unmountAll => .ok (.unmountAll (g.has .lazily))
  | .monitor => .ok (.monitor (monitorRequest g))
  | .monitorStop => .ok (.monitorStop ((g.text? .pid).getD ""))
  | .monitorStopAll => .ok .monitorStopAll
  | .serviceInstall =>
    .ok (.serviceInstall ⟨g.text? .mountPath, g.text? .configFile, g.text? .user⟩)
  | .serviceUninstall => .ok (.serviceUninstall (g.text? .mountPath))

/-- The command that a command line names, and whether the user asked for detail. -/
def ofWords (words : List String) : Except UsageError (Command × Bool) := do
  let r ← Reading.ofWords words
  return (← ofReading r, r.verbose)

end Command

end MountKeeper.CommandLine
