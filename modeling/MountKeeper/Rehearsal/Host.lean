import MountKeeper.DataPath
import MountKeeper.ExitStatus
import MountKeeper.KeyStore
import MountKeeper.Log
import MountKeeper.Process
import MountKeeper.Session
import MountKeeper.Signal

/-! # Hosts for rehearsals

A rehearsal runs the lifecycle on a host that exists only as a value. The host has a disk, records,
mounts, processes and a launcher; it plays the programs that are run by rules, and it keeps a
journal of what was done to it.

* `Host` is such a host; the structures before it are its parts.
* `Host.note` writes into the journal, `Host.console` shows lines. -/

namespace MountKeeper

namespace Rehearsal

/-! ## Parts -/

/-- How a program that is run turns out. -/
inductive Outcome where
  /-- It succeeds and writes a text. -/
  | succeeds (stdout : String)
  /-- It says that it failed. -/
  | fails (status stderr : String)
  /-- It does not end in time. -/
  | timesOut (limit : Duration)
  /-- It cannot be run. -/
  | breaks (reason : String)
  deriving DecidableEq, Repr

/-- The programs of a host. -/
structure Programs where
  /-- The programs that are not installed. -/
  missing : List String := []
  /-- The outcome of calls that start with a text; the first rule that fits counts. -/
  rules : List (String × Outcome) := []

/-- The processes of a host. -/
structure Processes where
  alive : List UInt32 := []
  named : List (String × List UInt32) := []
  children : List (UInt32 × List (UInt32 × String)) := []
  /-- The processes that cannot be ended. -/
  unkillable : List UInt32 := []
  /-- The processes that cannot be asked to end. -/
  unterminable : List UInt32 := []
  /-- The processes that have ended and were not waited for. -/
  ended : List (UInt32 × ExitStatus) := []

/-- The records of sessions, by key. -/
structure Records where
  sessions : List Session := []
  registerFails : List SessionKey := []
  unregisterFails : List SessionKey := []
  lookupFails : List SessionKey := []

/-- The mounts of a host. -/
structure Mounts where
  paths : List String := []
  /-- The mounts whose process is gone. -/
  disconnected : List SessionKey := []
  /-- Whether the mounts cannot be listed. -/
  broken : Bool := false
  /-- The mounts that cannot be taken away. -/
  failing : List SessionKey := []

/-- A store of named values, by key. -/
structure Shelf where
  entries : List (String × Values) := []
  /-- The keys that cannot be read. -/
  unreadable : List String := []
  /-- Whether the keys cannot be listed. -/
  hidden : Bool := false
  /-- Whether nothing can be written. -/
  locked : Bool := false

/-- The launcher of a host. -/
structure LauncherState where
  running : List (String × String) := []
  /-- The instances that cannot be started. -/
  failStart : List String := []
  /-- The instances that cannot be stopped. -/
  failStop : List String := []
  /-- Whether the launcher cannot be reached. -/
  down : Bool := false

/-- How the data path of a session turns out. -/
structure PathScript where
  buildError : Option String := none
  startError : Option String := none
  stopError : Option String := none
  /-- The answers to polls; after them, the data path has ended. -/
  running : List Bool := []
  /-- A text that is written over the configuration file at the start. -/
  reload : Option String := none
  /-- The signals that arrive at the start. -/
  signals : List Signal := []
  /-- The signals that arrive at the first poll. -/
  runningSignals : List Signal := []
  /-- Whether polls are noted in the journal. -/
  notesPolls : Bool := true

/-! ## The host -/

/-- A host that exists only as a value. -/
structure Host where
  surroundings : Surroundings
  disk : Disk := {}
  /-- The process that the rehearsal runs in. -/
  self : UInt32 := 3999999999
  /-- What was shown to the user. -/
  printed : String := ""
  /-- The journal, in order. -/
  events : List String := []
  programs : Programs := {}
  processes : Processes := {}
  records : Records := {}
  mounts : Mounts := {}
  instances : Shelf := {}
  remounts : Shelf := {}
  launcher : LauncherState := {}
  /-- The failure to describe this program to the launcher. -/
  descriptorError : Option String := none
  path : PathScript := {}
  /-- The answers to the polls of the present data path that are still to come, and whether there
  was none yet. -/
  polls : List Bool × Bool := ([], true)
  /-- The signals that have arrived and were not seen yet. -/
  pending : List Signal := []
  log : Option Log := none
  /-- Whether monitoring has not been given up. -/
  monitoring : Bool := true
  /-- The report, counted from zero, that the service manager refuses. -/
  refusedReport : Option Nat := none
  /-- How many reports were made. -/
  reports : Nat := 0
  /-- The answers of the launcher's pipe that are still to come. -/
  replies : List (Option (List UInt8)) := []
  /-- The mount paths that a background start fails for. -/
  startFails : List SessionKey := []
  /-- The sessions that cannot be stopped. -/
  stopFails : List SessionKey := []
  /-- The process id of the next background session. -/
  nextPid : UInt32 := 4242
  /-- The process id of a daemon. -/
  daemon : UInt32 := 3999999998
  /-- The disk when the data path was first found to be serving. -/
  resting : Option Disk := none

namespace Host

/-- The disk as a part. -/
def diskPart : Part Host Disk := ⟨(·.disk), fun d h => { h with disk := d }⟩

/-- The instance store as a part. -/
def instancesPart : Part Host Shelf := ⟨(·.instances), fun s h => { h with instances := s }⟩

/-- The store of marks as a part. -/
def remountsPart : Part Host Shelf := ⟨(·.remounts), fun s h => { h with remounts := s }⟩

/-- The log as a part. -/
def logPart : Part Host (Option Log) := ⟨(·.log), fun l h => { h with log := l }⟩

/-- Whether monitoring goes on, as a part. -/
def monitoringPart : Part Host Bool := ⟨(·.monitoring), fun b h => { h with monitoring := b }⟩

/-- Writes into the journal. -/
def note (event : String) : Act Host Unit :=
  Act.change fun h => { h with events := h.events ++ [event] }

/-- Shows lines to the user. -/
def console : Console Host where
  print line := Act.change fun h => { h with printed := h.printed ++ line ++ "\n" }

/-- The host with an empty journal, and nothing shown to the user. -/
def cleared (h : Host) : Host :=
  { h with printed := "", events := [] }

end Host

end Rehearsal

end MountKeeper
