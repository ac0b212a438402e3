import MountKeeper.CommandLine.Command
import MountKeeper.HealthMonitor.Supervisor
import MountKeeper.Log
import MountKeeper.MountAll
import MountKeeper.PidFiles
import MountKeeper.Remount.Systemd
import MountKeeper.SessionManager

/-! # Running commands

A `Machine` is what commands need of the machine that they run on. Every command begins to log
before it does anything that can be seen, but what is wrong with a mount or a health monitor as it
was asked for is found out earlier.

* `Machine.run` runs a command.
* `Machine.mount`, `Machine.mountAll`, `Machine.monitorRun` and the others are the commands. -/

namespace MountKeeper.CommandLine

/-- What commands need of the machine that they run on. -/
structure Machine (σ : Type) where
  surroundings : Surroundings
  disk : Part σ Disk
  log : Part σ (Option Log)
  runner : CommandRunner σ
  console : Console σ
  monitor : HealthMonitor σ
  systemd : Systemd σ
  /-- The session manager over a working directory. -/
  manager : String → SessionManager σ
  /-- Finds the path of this program. -/
  program : Act σ String

namespace Machine

variable {σ : Type}

/-- Begins to log. -/
def startLog (m : Machine σ) (options : LogOptions) (verbose : Bool) : Act σ Unit := do
  let log ← (Log.start m.surroundings options verbose).on m.disk
  Act.change (m.log.put (some log))

/-- Begins to log, and makes sure that the working directory is there. -/
def openManager (m : Machine σ) (workDir : String) (options : LogOptions) (verbose : Bool) :
    Act σ (SessionManager σ) := do
  m.startLog options verbose
  (PidFiles.prepare workDir).on m.disk
  return m.manager workDir

/-- A working directory as typed, or the default one. -/
def workDir (m : Machine σ) (typed : Option String) : String :=
  Path.expand m.surroundings (typed.getD MountOptions.defaultWorkDir)

/-! ## Mounting -/

/-- Merges a mount that was asked for with the configuration. -/
def resolve (m : Machine σ) (request : MountRequest) : Act σ MountOptions := do
  Act.ofExcept (MountOptions.resolve m.surroundings (m.disk.get (← Act.look)) request)

/-- Mounts. -/
def mount (m : Machine σ) (request : MountRequest) (verbose : Bool) : Act σ Unit := do
  let options ← m.resolve request
  let manager ← m.openManager options.workDir options.config.logging verbose
  let _ ← manager.mount options

/-- Mounts every container that the configuration names. -/
def mountAll (m : Machine σ) (request : MountRequest) (verbose : Bool) : Act σ Unit := do
  let options ← m.resolve request
  m.startLog options.config.logging verbose
  let program ← Act.inContext "cannot determine executable path" m.program
  let mounter : MountAll σ := {
    disk := m.disk, runner := m.runner, console := m.console, binary := program
    containers := pure options.config.containers.allow }
  mounter.run options

/-- Lists the mounts. -/
def mountList (m : Machine σ) (verbose : Bool) : Act σ Unit := do
  let manager ← m.openManager (m.workDir none) {} verbose
  let _ ← manager.listMounts

/-! ## Unmounting -/

/-- Unmounts. Only a service of the system can be taken away here. -/
def unmount (m : Machine σ) (request : UnmountRequest) (verbose : Bool) : Act σ Unit := do
  let manager ← m.openManager (m.workDir request.workDir) {} verbose
  manager.unmount (request.target.getD "") request.lazily request.disableSystem

/-- Unmounts everything. -/
def unmountAll (m : Machine σ) (lazily verbose : Bool) : Act σ Unit := do
  let manager ← m.openManager (m.workDir none) {} verbose
  manager.unmountAll lazily

/-! ## Health monitors -/

/-- The settings of a monitor: what was asked for wins over the configuration. -/
def monitorOptions (request : MonitorRequest) (configured : MonitorOptions) : MonitorOptions :=
  { configured with
    statsPollInterval := request.statsPollInterval.getD configured.statsPollInterval
    processInterval := request.processInterval.getD configured.processInterval
    outputPath := request.outputPath.getD configured.outputPath }

/-- Runs a health monitor to its end. -/
def monitorRun (m : Machine σ) (request : MonitorRequest) (verbose : Bool) : Act σ Unit := do
  let pid ← Act.ofExcept
    ((MonitorCommand.readRequest request.pid request.configFile).mapError Failure.ofSession)
  let path := Path.expand m.surroundings request.configFile
  let config ← Act.ofExcept (Configuration.load (m.disk.get (← Act.look)) path)
  m.startLog config.logging verbose
  let _ ← m.monitor.run pid (monitorOptions request config.monitor) config.cache

/-- Stops the health monitor of a process. -/
def monitorStop (m : Machine σ) (typed : String) (verbose : Bool) : Act σ Unit := do
  m.startLog {} verbose
  let pid ← Act.ofExcept ((MonitorCommand.readOwner typed).mapError Failure.ofSession)
  m.monitor.stop pid

/-- Stops every health monitor. -/
def monitorStopAll (m : Machine σ) (verbose : Bool) : Act σ Unit := do
  m.startLog {} verbose
  m.monitor.stopAll

/-! ## Remount services -/

/-- The absolute path that was typed, which has to be given. -/
def requirePath (m : Machine σ) (typed : Option String) (what : String) :
    Except SessionError String :=
  match typed.filter fun t => !Text.isBlankText t with
  | some t => .ok (Path.expand m.surroundings t)
  | none => .error (.validation s!"{what} not provided")

/-- Refuses a service for a path that is no empty directory, or for a configuration that is no
file. -/
def checkService (disk : Disk) (mountPath configFile : String) : Except Failure Unit := do
  if !disk.isDir mountPath then
    throw (.ofSession (.validation "the mount path provided does not exist"))
  let names ← (disk.list mountPath).mapError Failure.ofOs
  if !names.isEmpty then
    throw (.ofSession (.validation "the mount path provided is not empty"))
  if !disk.isFile configFile then
    throw (.ofSession (.validation "the config file provided does not exist"))

/-- Installs a remount service. -/
def serviceInstall (m : Machine σ) (request : ServiceRequest) (verbose : Bool) : Act σ Unit := do
  m.startLog {} verbose
  let mountPath ← Act.ofExcept
    ((m.requirePath request.mountPath "mount path").mapError Failure.ofSession)
  let configFile ← Act.ofExcept
    ((m.requirePath request.configFile "config file").mapError Failure.ofSession)
  Act.ofExcept (checkService (m.disk.get (← Act.look)) mountPath configFile)
  let unit ← Act.inContext "error when attempting to install the service"
    (m.systemd.install (.make mountPath configFile request.user))
  m.console.print s!"Installed {unit}"

/-- Removes a remount service. -/
def serviceUninstall (m : Machine σ) (typed : Option String) (verbose : Bool) : Act σ Unit := do
  m.startLog {} verbose
  let mountPath ← Act.ofExcept ((m.requirePath typed "mount path").mapError Failure.ofSession)
  m.systemd.uninstall (.ofPath mountPath)
  m.console.print s!"Removed the remount service for {mountPath}"

/-! ## All commands -/

/-- Runs a command. -/
def run (m : Machine σ) (command : Command) (verbose : Bool) : Act σ Unit :=
  match command with
  | .mount request => m.mount request verbose
  | .mountAll request => m.mountAll request verbose
  | .mountList => m.mountList verbose
  | .unmount request => m.unmount request verbose
  | .unmountAll lazily => m.unmountAll lazily verbose
  | .monitor request => m.monitorRun request verbose
  | .monitorStop pid => m.monitorStop pid verbose
  | .monitorStopAll => m.monitorStopAll verbose
  | .serviceInstall request => m.serviceInstall request verbose
  | .serviceUninstall mountPath => m.serviceUninstall mountPath verbose

end Machine

end MountKeeper.CommandLine
