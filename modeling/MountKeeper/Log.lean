import MountKeeper.Configuration
import MountKeeper.LogLevel

/-! # The log

A `Log` is the state of logging in a running program: the options in force and the level up to
which is logged. It follows the configuration file when it is told to.

* `Log.effective` is the level that options, a named level and the wish for detail lead to.
* `Log.start` begins to log, `Log.reloaded` follows a text, `Log.reload` a file. A text that cannot
  be followed changes nothing. -/

namespace MountKeeper

/-- The state of logging. -/
structure Log where
  /-- The options in force. -/
  options : LogOptions
  /-- Whether the user asked for detail. -/
  verbose : Bool
  /-- The level up to which is logged. -/
  level : LogLevel
  deriving DecidableEq, Repr

namespace Log

/-- Whether options say that nothing is logged. -/
def isSilent (options : LogOptions) : Bool :=
  options.kind == "silent"

/-- The level to log at: nothing when silent, and with a wish for detail at least debugging. -/
def effective (options : LogOptions) (level : LogLevel) (verbose : Bool) : LogLevel :=
  if isSilent options then .off
  else if verbose then level.most .debug
  else level

/-- The level that options name; an unknown name stands for warnings. -/
def namedLevel (options : LogOptions) : LogLevel :=
  match LogLevel.parse options.level with
  | .ok level => level
  | .error _ => .warn

/-- The log at the start. -/
def ofOptions (options : LogOptions) (verbose : Bool) : Log where
  options := options
  verbose := verbose
  level := effective options (namedLevel options) verbose

/-- Makes sure that the log file of options is there, if they name one. -/
def prepareFile (env : Surroundings) (options : LogOptions) : Act Disk Unit := do
  if options.kind = "base" then
    let path := Path.expand env options.filePath
    match Path.parent? path with
    | some dir => Disk.makeDirs dir
    | none => pure ()
    Disk.update (·.touch path)

/-- Begins to log. -/
def start (env : Surroundings) (options : LogOptions) (verbose : Bool) : Act Disk Log := do
  prepareFile env options
  return ofOptions options verbose

/-- The log that follows a configuration. -/
def follow (log : Log) (c : Configuration) : Except SessionError Log :=
  match LogLevel.parse c.logging.level with
  | .error e => .error e
  | .ok level => .ok { log with
      options := c.logging
      level := effective c.logging level log.verbose }

/-- The log that follows a configuration file. -/
def reloaded (log : Log) (disk : Disk) (path : String) : Except Failure Log :=
  match Configuration.load disk path with
  | .error f => .error f
  | .ok c => (log.follow c).mapError Failure.ofSession

/-- Follows a configuration file and answers with the new level. -/
def reload (disk : Disk) (path : String) : Act Log LogLevel := fun log =>
  match log.reloaded disk path with
  | .error f => (.error f, log)
  | .ok log' => (.ok log'.level, log')

end Log

end MountKeeper
