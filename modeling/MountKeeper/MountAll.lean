import MountKeeper.Container
import MountKeeper.MountOptions
import MountKeeper.Process
import MountKeeper.Yaml.Printer

/-! # Mounting every container of an account

Each container is mounted in a directory of its own by this program itself, with a configuration
file that is written for it. A container that cannot be mounted does not keep the others.

* `MountAll.mountOne` mounts one container, `MountAll.mountEach` a list of them.
* `MountAll.run` mounts those that the configuration lets through. -/

namespace MountKeeper

/-- What it takes to mount every container. -/
structure MountAll (σ : Type) where
  disk : Part σ Disk
  runner : CommandRunner σ
  console : Console σ
  /-- This program. -/
  binary : String
  /-- Lists the containers of the account. -/
  containers : Act σ (List String)

namespace MountAll

variable {σ : Type}

/-- The path of the configuration file of a container. -/
def configPath (options : MountOptions) (container : String) : String :=
  Path.join options.workDir s!"config_{container}.yaml"

/-- The text of the configuration file of a container. -/
def configText (options : MountOptions) (container : String) : String :=
  (Container.document options.config.document container options.config.cache.path).toText

/-- The arguments with which a container is mounted. -/
def arguments (options : MountOptions) (container mountPath : String) : List String :=
  ["mount", mountPath, "--config-file=" ++ configPath options container]
    ++ (if options.fuseOptions.isEmpty then []
        else ["-o", ",".intercalate (options.fuseOptions.map (·.display))])

/-- Mounts one container. -/
def mountOne (m : MountAll σ) (options : MountOptions) (container mountPath : String) :
    Act σ Unit := do
  Act.inContext s!"failed to create directory {mountPath}" ((Disk.makeDirs mountPath).on m.disk)
  let file := configPath options container
  Act.inContext s!"failed to write {file}" <|
    (Disk.update (·.writeText file (configText options container))).on m.disk
  let output ← m.runner.run m.binary (arguments options container mountPath)
  if !Text.isBlankText output.stdout then
    m.console.print (Text.trimmedEnd output.stdout)

/-- Mounts containers, and lists those where that failed. -/
def mountEach (m : MountAll σ) (options : MountOptions) : List String → Act σ (List String)
  | [] => return []
  | container :: rest => do
    let mountPath := Path.join options.mountPath container
    m.console.print s!"Mounting container : {container} to path {mountPath}"
    match ← Act.attempt (m.mountOne options container mountPath) with
    | .ok () => m.mountEach options rest
    | .error f =>
      m.console.print s!"Failed to mount container {container} : {f.message}"
      return s!"{container} - [{f.message}]" :: (← m.mountEach options rest)

/-- Mounts the containers that the configuration lets through. -/
def run (m : MountAll σ) (options : MountOptions) : Act σ Unit := do
  let listed ← Act.inContext "failed to get container list from storage" m.containers
  let chosen := Container.chosen options.config.containers listed
  if chosen.isEmpty then
    m.console.print "No containers to mount from this account"
  else
    Act.inContext s!"failed to create {options.workDir}" ((Disk.makeDirs options.workDir).on m.disk)
    let failures ← m.mountEach options chosen
    m.console.print (Numeral.decimal (chosen.length - failures.length) ++ " of "
      ++ Numeral.decimal chosen.length ++ " containers were successfully mounted")
    if !failures.isEmpty then
      Act.refuse (.partialBatch (chosen.length - failures.length) chosen.length failures)

end MountAll

end MountKeeper
