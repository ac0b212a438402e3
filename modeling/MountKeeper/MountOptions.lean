import MountKeeper.Configuration
import MountKeeper.FuseOption

/-! # What a mount needs

A `MountRequest` is what was asked for; `MountOptions.resolve` merges it with the configuration
file into `MountOptions`. What was asked for wins over what the file says. -/

namespace MountKeeper

/-- How a mount is to come back after a restart. -/
structure RemountRequest where
  /-- As a service of the system. -/
  system : Bool := false
  /-- For the current user. -/
  user : Bool := false
  /-- The account that the service runs as. -/
  systemUser : Option String := none
  deriving DecidableEq, Repr

/-- A mount as it was asked for. -/
structure MountRequest where
  /-- The mount path as typed. -/
  mountPath : String := ""
  /-- The configuration file as typed. -/
  configFile : Option String := none
  /-- Whether the mount stays in the foreground. -/
  foreground : Bool := false
  /-- The option values as typed. -/
  fuseOptions : List String := []
  /-- How long to wait for a background mount. -/
  waitForMount : Option Duration := none
  /-- The working directory as typed. -/
  workDir : Option String := none
  /-- How the mount is to come back. -/
  remount : RemountRequest := {}
  deriving DecidableEq, Repr

/-- Everything a mount needs. -/
structure MountOptions where
  /-- The absolute mount path. -/
  mountPath : String
  /-- The absolute path of the configuration file, when there is one. -/
  configPath : Option String
  /-- Whether the mount is served by this process. -/
  foreground : Bool
  /-- Whether the mount directory may hold files. -/
  nonempty : Bool
  /-- The options for the data path. -/
  fuseOptions : List FuseOption
  /-- The directory of records and generated configurations. -/
  workDir : String
  /-- How long to wait for a background mount. -/
  waitForMount : Duration
  /-- How the mount is to come back. -/
  remount : RemountRequest
  /-- What the configuration file says, with its cache directory made absolute. -/
  config : Configuration
  deriving Repr

namespace MountOptions

/-- The configuration file that is looked for in the current directory. -/
def defaultConfigFile : String := "config.yaml"

/-- The directory of records when none is given. -/
def defaultWorkDir : String := "~/.cloudfuse"

/-- The cache directory when none is given. -/
def defaultCacheDir : String := "~/.cloudfuse/file_cache"

/-- How long to wait for a background mount when nothing is said. -/
def defaultWait : Duration := .ofSeconds 5

/-- The configuration file: the one that was asked for, which has to exist, or the one in the
current directory, if it exists. -/
def findConfig (env : Surroundings) (disk : Disk) (request : MountRequest) :
    Except Failure (Option String) :=
  match request.configFile with
  | some typed =>
    let path := Path.expand env typed
    if disk.isFile path then .ok (some path)
    else .error (.ofSession (.validation s!"config file {path} does not exist"))
  | none =>
    let path := Path.expand env defaultConfigFile
    .ok (if disk.isFile path then some path else none)

/-- The configuration with its cache directory made absolute. -/
def withCacheDir (env : Surroundings) (c : Configuration) : Configuration :=
  let path := if c.cache.path = "" then defaultCacheDir else c.cache.path
  { c with cache := { c.cache with path := Path.expand env path } }

/-- The working directory: the one that was asked for, else the configured one, else the default. -/
def chosenWorkDir (env : Surroundings) (request : MountRequest) (c : Configuration) : String :=
  Path.expand env ((request.workDir.or c.workDir).getD defaultWorkDir)

/-- Merges what was asked for with the configuration file. -/
def resolve (env : Surroundings) (disk : Disk) (request : MountRequest) :
    Except Failure MountOptions := do
  if Text.isBlankText request.mountPath then
    throw (.ofSession (.validation "mount path not provided"))
  let path ← findConfig env disk request
  let config ← match path with
    | some p => Configuration.load disk p
    | none => pure {}
  let options ← (FuseOption.readAll request.fuseOptions).mapError Failure.ofSession
  let wait ← match request.waitForMount with
    | some d => pure d
    | none => do pure ((← config.waitForMount).getD defaultWait)
  pure {
    mountPath := Path.expand env request.mountPath
    configPath := path
    foreground := request.foreground || config.foreground
    nonempty := config.nonempty || options.contains .nonEmpty
    fuseOptions := options
    workDir := chosenWorkDir env request config
    waitForMount := wait
    remount := request.remount
    config := withCacheDir env config }

end MountOptions

end MountKeeper
