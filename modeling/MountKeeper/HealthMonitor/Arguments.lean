import MountKeeper.Binary64.Shortest
import MountKeeper.Configuration

/-! # What the health monitor is told

The health monitor is a program of its own that watches one process.

* `MonitorCheck` are its checks, with the names by which the configuration switches them off.
* `MonitorCommand.make` are the arguments of a monitor and the checks that they switch off.
* `MonitorCommand.readOwner` reads the process id that a user typed. -/

namespace MountKeeper

/-- A check of the health monitor. -/
inductive MonitorCheck where
  | cloudfuseStats | cpuProfiler | memoryProfiler | networkProfiler | fileCacheMonitor
  deriving DecidableEq, Repr

namespace MonitorCheck

/-- All checks, in order. -/
def all : List MonitorCheck :=
  [cloudfuseStats, cpuProfiler, memoryProfiler, networkProfiler, fileCacheMonitor]

/-- The name of a check in the configuration. -/
def configName : MonitorCheck → String
  | cloudfuseStats => "cloudfuse_stats"
  | cpuProfiler => "cpu_profiler"
  | memoryProfiler => "memory_profiler"
  | networkProfiler => "network_profiler"
  | fileCacheMonitor => "file_cache_monitor"

/-- The check of a name. -/
def ofConfigName? (name : String) : Option MonitorCheck :=
  all.find? fun c => c.configName == name

/-- The argument that switches a check off. -/
def disableFlag : MonitorCheck → String
  | cloudfuseStats => "--no-cloudfuse-stats"
  | cpuProfiler => "--no-cpu-profiler"
  | memoryProfiler => "--no-memory-profiler"
  | networkProfiler => "--no-network-profiler"
  | fileCacheMonitor => "--no-file-cache-monitor"

end MonitorCheck

/-- How a monitor is called. -/
structure MonitorCommand where
  /-- The process that is watched. -/
  owner : UInt32
  arguments : List String
  /-- The checks that are switched off, in the order of all checks. -/
  disabled : List MonitorCheck
  deriving DecidableEq, Repr

namespace MonitorCommand

/-- The program. -/
def program : String := "cfusemon"

/-- The argument that names the watched process. -/
def ownerArgument (owner : UInt32) : String :=
  "--pid=" ++ Numeral.decimal owner.toNat

/-- The elements of a list without those that stood in it before, or in `seen`. -/
def firstOccurrences (seen : List MonitorCheck) : List MonitorCheck → List MonitorCheck
  | [] => []
  | c :: rest =>
    if seen.contains c then firstOccurrences seen rest
    else c :: firstOccurrences (c :: seen) rest

/-- The checks that a list of names switches off, in the order of their first names. Unknown names
mean nothing. -/
def switchedOff (names : List String) : List MonitorCheck :=
  firstOccurrences [] (names.filterMap MonitorCheck.ofConfigName?)

/-- An argument with a number of seconds; zero leaves it out. -/
def secondsArgument (name : String) (n : UInt32) : List String :=
  if n = 0 then [] else [name ++ Numeral.decimal n.toNat]

/-- The arguments before those that switch checks off. -/
def leading (env : Surroundings) (owner : UInt32) (m : MonitorOptions) (c : CacheOptions) :
    List String :=
  [ownerArgument owner]
    ++ secondsArgument "--stats-poll-interval-sec=" m.statsPollInterval
    ++ secondsArgument "--process-monitor-interval-sec=" m.processInterval
    ++ (if m.outputPath = "" then [] else ["--output-path=" ++ m.outputPath])
    ++ ["--cache-path=" ++ Path.expand env c.path, "--max-size-mb=" ++ c.maxSizeMb.write .plain]

/-- How the monitor of a process is called. -/
def make (env : Surroundings) (owner : UInt32) (m : MonitorOptions) (c : CacheOptions) :
    MonitorCommand where
  owner := owner
  arguments := leading env owner m c ++ (switchedOff m.disableList).map (·.disableFlag)
  disabled := MonitorCheck.all.filter fun check => (switchedOff m.disableList).contains check

/-! ## What a user typed -/

/-- The complaint about a missing process id. -/
def noOwner : String := "pid of cloudfuse process not given."

/-- The complaint about a missing configuration file. -/
def noConfig : String := "config file not given."

/-- Reads a process id. -/
def readOwner (typed : String) : Except SessionError UInt32 :=
  let text := Text.trimmed typed
  if text = "" then .error (.validation noOwner)
  else match Numeral.readWord? 10 text with
    | some pid => .ok pid
    | none => .error (.validation s!"invalid pid [{text}]")

/-- Checks what a user typed to start a monitor, and reads the process id. -/
def readRequest (typed configFile : String) : Except SessionError UInt32 :=
  let problems := (if Text.isBlankText typed then [noOwner] else [])
    ++ (if Text.isBlankText configFile then [noConfig] else [])
  if problems.isEmpty then readOwner typed
  else .error (.validation (" ".intercalate problems))

end MonitorCommand

end MountKeeper
