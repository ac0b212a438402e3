import MountKeeper.Rehearsal.Machine

/-! # The program

The program runs a command on an image of the files that the command can look at, shows what the
command shows, and then makes the files what the command has made of them. It neither starts other
programs nor serves files: for a command they are not installed.

* `Image.take` reads files, `Image.restore` writes what has changed.
* `main` runs the command line. -/

open MountKeeper
open MountKeeper.Rehearsal

namespace MountKeeper.Image

/-- Does something with a file, and answers with nothing when that fails. -/
def attempt {α : Type} (act : IO α) : IO (Option α) :=
  try
    return some (← act)
  catch _ => return none

/-- Adds a file to an image. -/
def addFile (d : Disk) (path : String) : IO Disk := do
  match ← attempt (IO.FS.readBinFile path) with
  | none => return d
  | some content =>
    let act : Act Disk Unit := do
      Disk.makeDirs ((Path.parent? path).getD "/")
      Disk.update (·.writeFile path content)
    return (act.runOn d).2

/-- Adds a path to an image: a file, or a directory with its files. -/
def add (d : Disk) (path : String) : IO Disk := do
  match ← attempt (do (← IO.FS.realPath path).readDir) with
  | none => addFile d path
  | some entries =>
    let d := ((Disk.makeDirs path).runOn d).2
    entries.foldlM (fun d e => addFile d (Path.join path e.fileName)) d

/-- The files of the system that commands look at. -/
def systemPaths : List String := ["/etc/mtab", "/etc/passwd", "/etc/systemd/system"]

/-- The paths that words can mean: their own texts, and those behind `=`. -/
def typedPaths (env : Surroundings) (words : List String) : List String :=
  words.flatMap fun w =>
    let value := match Text.cutAt? '=' w.toList with
      | some (_, v) => [String.ofList v]
      | none => []
    (w :: value).map (Path.expand env)

/-- The working directory that a configuration names. -/
def configuredPaths (env : Surroundings) (d : Disk) (path : String) : List String :=
  match Configuration.load d path with
  | .ok c => c.workDir.toList.map (Path.expand env)
  | .error _ => []

/-- The image of the files that a command line can look at. -/
def take (env : Surroundings) (words : List String) : IO Disk := do
  let start := ((Disk.makeDirs env.currentDir).runOn {}).2
  let defaults := [MountOptions.defaultConfigFile, MountOptions.defaultWorkDir]
  let typed := defaults.map (Path.expand env) ++ typedPaths env words
  let d ← (systemPaths ++ typed).foldlM add start
  let d ← (typed.flatMap (configuredPaths env d)).foldlM add d
  return { d with current := Path.parts env.currentDir }

/-- Makes a place what it is in an image. -/
def restorePlace (place : Place) : Node → IO Unit
  | .directory => IO.FS.createDirAll (Path.ofParts place)
  | .file content => IO.FS.writeBinFile (Path.ofParts place) content

/-- Whether a place is in an image as it is. -/
def isSame : Option Node → Node → Bool
  | some .directory, .directory => true
  | some (.file a), .file b => a.data == b.data
  | _, _ => false

/-- Writes what differs between two images of the same files. -/
def restore (before after : Disk) : IO Unit := do
  for (place, node) in after.nodes.reverse do
    if !isSame (before.nodeAt place) node then restorePlace place node
  for (place, _) in before.nodes do
    if (after.nodeAt place).isNone then IO.FS.removeFile (Path.ofParts place)

end MountKeeper.Image

/-- The host on which a command runs. -/
def hostOver (env : Surroundings) (d : Disk) : Host where
  surroundings := env
  disk := d

/-- Runs a command line and answers with the status of the program. -/
def main (words : List String) : IO UInt32 := do
  let env : Surroundings := {
    home := (← IO.getEnv "HOME").getD "", currentDir := (← IO.currentDir).toString }
  match CommandLine.Command.ofWords words with
  | .error .help | .error .version =>
    IO.println "cloudfuse [mount | unmount | health-monitor | service] ..."
    return 0
  | .error _ =>
    IO.eprintln "cloudfuse: the command line cannot be understood"
    return 2
  | .ok (command, verbose) =>
    let before ← Image.take env words
    let (result, host) := ((Host.machine env [] "/tmp").run command verbose).runOn
      (hostOver env before)
    Image.restore before host.disk
    IO.print host.printed
    match result with
    | .ok _ => return 0
    | .error f =>
      IO.eprintln f.lastLine
      return 1
