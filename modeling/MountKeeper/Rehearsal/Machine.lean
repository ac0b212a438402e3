import MountKeeper.CommandLine.Machine
import MountKeeper.Rehearsal.Worlds

/-! # The machine of a rehearsal

* `Host.machine` runs commands on a host where some programs are installed and nothing can serve
  files. -/

namespace MountKeeper.Rehearsal

/-- Where a system keeps its files, with a working directory and a directory of scratch files. -/
def Layout.ofSystem (work scratch : String) : Layout where
  work := work
  table := "/etc/mtab"
  units := "/etc/systemd/system"
  passwd := "/etc/passwd"
  scratch := scratch

namespace Host

/-- The units of a system. -/
def systemUnits (installed : List (String × Stub)) : Systemd Host where
  disk := diskPart
  runner := stubRunner installed
  binary := ownPath

/-- The health monitors of a system. -/
def systemMonitor (surroundings : Surroundings) (installed : List (String × Stub)) :
    HealthMonitor Host where
  surroundings := surroundings
  runner := stubRunner installed
  processes := signalTable
  locator := .listing (stubRunner installed)
  console := console
  enabled := monitoringPart

/-- The supervisor of a system. -/
def systemSupervisor (surroundings : Surroundings) (installed : List (String × Stub))
    (l : Layout) : LocalSupervisor Host :=
  { localSupervisor surroundings (pidFiles l) with
    processes := signalTable
    monitor := systemMonitor surroundings installed
    factory := unservedFactory }

/-- The session manager of a system. -/
def systemManager (surroundings : Surroundings) (installed : List (String × Stub))
    (l : Layout) : SessionManager Host where
  surroundings := surroundings
  books := {
    registry := pidFiles l
    mounts := (MountTable.ofFile l.table).on diskPart
    unmounter := UnmountTools.unmounter (stubRunner installed)
    processes := signalTable }
  supervisor := localStarts l true (systemSupervisor surroundings installed l)
  remount := (systemUnits installed).installer
  console := console
  disk := diskPart
  patterns := Pattern.reader
  self := (·.self)

/-- The machine that commands run on. -/
def machine (surroundings : Surroundings) (installed : List (String × Stub)) (scratch : String) :
    CommandLine.Machine Host where
  surroundings := surroundings
  disk := diskPart
  log := logPart
  runner := stubRunner installed
  console := console
  monitor := systemMonitor surroundings installed
  systemd := systemUnits installed
  manager work := systemManager surroundings installed (.ofSystem work scratch)
  program := return ownPath

/-- Makes the files of a system. -/
def prepareSystem : Act Disk Unit := do
  Disk.makeDirs "/etc/systemd/system"
  Disk.update (·.writeText "/etc/mtab" "")
  Disk.update (·.writeText "/etc/passwd" "root:x:0:0:root:/root:/bin/sh\n")

end Host

end MountKeeper.Rehearsal
