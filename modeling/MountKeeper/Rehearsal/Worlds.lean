import MountKeeper.Pattern.Reader
import MountKeeper.PidFiles
import MountKeeper.Readiness
import MountKeeper.Rehearsal.DataPath
import MountKeeper.Rehearsal.Service
import MountKeeper.Remount.Launcher
import MountKeeper.Remount.Systemd
import MountKeeper.SessionManager
import MountKeeper.UnmountTools

/-! # Whole platforms in a rehearsal

* `Host.localManager` manages sessions that processes of the host serve: records in PID files, a
  mount table file, unmount tools and units.
* `Host.launcherManager` manages sessions that the launcher of the host serves: records and marks in
  stores.
* `Host.startDaemon` starts a session in a daemon, which runs on the same disk. -/

namespace MountKeeper.Rehearsal

/-- Where a local platform keeps its files. -/
structure Layout where
  /-- The directory of PID files. -/
  work : String
  /-- The mount table. -/
  table : String
  /-- The directory of units. -/
  units : String
  /-- The account file. -/
  passwd : String
  /-- The directory of scratch files. -/
  scratch : String

/-- A layout below a directory. -/
def Layout.under (dir : String) : Layout where
  work := Path.join dir "work"
  table := Path.join dir "mtab"
  units := Path.join dir "units"
  passwd := Path.join dir "passwd"
  scratch := Path.join dir "tmp"

namespace Host

/-! ## The mount table file -/

/-- Whether a line of a mount table is that of a path, as it is written there. -/
def isLineOf (path : String) (line : String) : Bool :=
  (Text.wordsOf line)[1]? == some path

/-- Takes the lines of a path out of a mount table file. -/
def dropLines (table path : String) : Act Disk Unit := do
  let text ← Disk.query (·.readText table)
  let kept := (Text.linesOf text).filter fun line => !isLineOf path line
  Disk.update (·.writeText table (String.join (kept.map (· ++ "\n"))))

/-- The programs of the host, of which the unmount tools change the mount table file. -/
def tableRunner (table : String) : CommandRunner Host where
  run program args := do
    let output ← runner.run program args
    if Text.startsWith "fusermount" program then
      (dropLines table (args.getLastD "")).on diskPart
    return output

/-- The entry of a session in the mount table file. -/
def tableLine (key : SessionKey) : String :=
  "cloudfuse " ++ String.ofList (MountTable.escape (· == ' ') key.text.toList) ++ " fuse rw 0 0\n"

/-- Adds the entry of a session to a mount table file, which has to be there. -/
def addLine (table : String) (key : SessionKey) : Act Disk Unit := do
  let text ← Disk.query (·.readText table)
  Disk.update (·.writeText table (text ++ tableLine key))

/-! ## Background sessions -/

/-- Starts a session in the background by recording it and mounting its path. -/
def startInBackground (l : Layout) (r : SessionRegistry Host) (s : Session) : Act Host Started := do
  let h ← Act.look
  if h.startFails.contains s.key then
    Act.failText "daemon refused"
  let pid := h.nextPid
  Act.change fun h => { h with nextPid := pid + 1 }
  r.register { s with owner := .process pid }
  setAlive pid true
  (addLine l.table s.key).on diskPart
  return .background pid

/-- What a daemon says when it ends with a failure. -/
def lastWords (f : Failure) : String :=
  (f.within "failed to mount").lastLine ++ "\n"

/-- The life of a daemon, on a host of its own but for the disk: its last words, if it fails, and
the host behind it. Nothing that it says reaches anyone before it has entered the working
directory. -/
def daemonLife (s : LocalSupervisor Host) (session : Session) (options : MountOptions) (h : Host) :
    Option String × Host :=
  let place := (h.disk.resolve options.workDir).toOption.filter fun _ =>
    h.disk.isDir options.workDir
  match place with
  | none => (some "", h.cleared)
  | some place =>
    let alone := { h.cleared with
      self := h.daemon, resting := none, disk := { h.disk with current := place } }
    let (r, after) := (s.serveHere session options (note "ready")).runOn alone
    (match r with
      | .ok _ => none
      | .error f => some (lastWords f), after)

/-- Starts a session in a daemon, waits for it to be ready and then lets it live to its end. The
host rests where it first did after the daemon was ready. -/
def startDaemon (l : Layout) (s : LocalSupervisor Host) (session : Session)
    (options : MountOptions) : Act Host Started := do
  s.registry.unregister session.key
  let h ← Act.look
  let (words, after) := daemonLife s session options h
  let scratch := Path.join l.scratch "cloudfuse.daemon"
  let disk := { after.disk with current := h.disk.current }
  let hurried : Bool := options.waitForMount.nanoseconds == 0
  Act.change fun h => { h with
    disk := disk
    resting := some (if hurried then h.disk else after.resting.getD disk) }
  match words with
  | some text => (Disk.update (·.writeText scratch text)).on diskPart
  | none => pure ()
  let status := ExitStatus.exited (if words.isSome then 1 else 0)
  (Readiness.waitFor "CHILD" scratch [{
    ready := after.events.contains "ready"
    ended := .ok (if hurried then none else some status)
    late := true }]).on diskPart
  return .background h.daemon

/-! ## Managers -/

/-- A supervisor that notes what it is asked for. -/
def noted (s : Supervisor Host) : Supervisor Host where
  start session options := do
    note s!"start {session.key.text}"
    s.start session options
  stop session := do
    note s!"stop {session.key.text}"
    s.stop session

/-- Serves sessions in the foreground, in daemons, or in the background by recording them only. -/
def localStarts (l : Layout) (daemons : Bool) (s : LocalSupervisor Host) : Supervisor Host where
  start session options :=
    if options.foreground then s.serveHere session options (pure ())
    else if daemons then startDaemon l s session options
    else startInBackground l s.registry session
  stop := s.stop

/-- The registry of a local platform. -/
def pidFiles (l : Layout) : SessionRegistry Host :=
  (PidFiles.registry l.work).on diskPart

/-- Manages sessions that processes of the host serve. -/
def localManager (surroundings : Surroundings) (l : Layout) (daemons : Bool) :
    SessionManager Host where
  surroundings := surroundings
  books := {
    registry := pidFiles l
    mounts := (MountTable.ofFile l.table).on diskPart
    unmounter := UnmountTools.unmounter (tableRunner l.table)
    processes := processTable }
  supervisor := noted (localStarts l daemons (localSupervisor surroundings (pidFiles l)))
  remount := Systemd.installer {
    disk := diskPart, runner := tableRunner l.table, unitDir := l.units, passwd := l.passwd }
  console := console
  disk := diskPart
  patterns := Pattern.reader
  self := (·.self)

/-- Manages sessions that the launcher of the host serves. -/
def launcherManager (surroundings : Surroundings) : SessionManager Host where
  surroundings := surroundings
  books := {
    registry := stores.registry
    mounts := mountLauncher.table
    unmounter := mountLauncher.unmounter
    processes := processTable }
  supervisor := (launcherSupervisor stores.registry).supervisor
  remount := LauncherRemount.installer mountLauncher stores.flags
  console := console
  disk := diskPart
  patterns := Pattern.reader
  self := (·.self)

/-- Makes the files of a local platform. -/
def prepareLocal (l : Layout) (table passwd : String) : Act Disk Unit := do
  PidFiles.prepare l.work
  Disk.makeDirs l.units
  Disk.update (·.writeText l.table table)
  Disk.update (·.writeText l.passwd passwd)

end Host

end MountKeeper.Rehearsal
