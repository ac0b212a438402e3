import MountKeeper.Disk.Basic
import MountKeeper.Session

/-! # Sessions kept in PID files

The sessions of a host without a launcher are kept as files of one directory, one file for each
session: its process id, its key, and the path of its configuration file if it has one, a line
each.

* `PidFiles.fileName` is the name of the file of a key.
* `PidRecord.write` and `PidRecord.read` go between records and texts.
* `PidFiles.registry` is the session registry over a directory. -/

namespace MountKeeper

/-- What a PID file holds. -/
structure PidRecord where
  pid : UInt32
  /-- The session key. -/
  keyText : Option String := none
  configPath : Option String := none
  deriving DecidableEq, Repr

namespace PidRecord

/-- The text of a record. -/
def write (r : PidRecord) : String :=
  let line (text : Option String) : String := match text with
    | some t => t ++ "\n"
    | none => ""
  Numeral.decimal r.pid.toNat ++ "\n" ++ line r.keyText ++ line r.configPath

/-- A line that holds something. -/
def filled? (line : Option (List Char)) : Option String :=
  match line with
  | some cs => if cs.isEmpty then none else some (String.ofList cs)
  | none => none

/-- The record that a text holds; a text whose first line is no process id gives that line. -/
def read (text : String) : Except String PidRecord :=
  let lines := (Text.lines text.toList).map Text.trim
  let first := String.ofList (lines.headD [])
  match Numeral.readWord? 10 first with
  | none => .error first
  | some pid => .ok ⟨pid, filled? lines[1]?, filled? lines[2]?⟩

end PidRecord

namespace PidFiles

/-- The extension of record files. -/
def extension : String := "pid"

/-- The name of the file of a key. -/
def fileName (key : SessionKey) : String :=
  key.fileStem '_' ++ "." ++ extension

/-- The path of the file of a key. -/
def pathOf (dir : String) (key : SessionKey) : String :=
  Path.join dir (fileName key)

/-- The record in a file. -/
def readRecord (disk : Disk) (path : String) : Except Failure PidRecord :=
  match disk.readText path with
  | .error e => .error (.ofOs e)
  | .ok text => (PidRecord.read text).mapError fun first =>
      .ofSession (.staleState path s!"PID file holds [{first}]")

/-- The running session of a record. -/
def sessionOf (key : SessionKey) (r : PidRecord) : Session where
  key := key
  configPath := r.configPath
  owner := .process r.pid
  state := .running

/-- The session under a key. -/
def lookup (dir : String) (disk : Disk) (key : SessionKey) : Except Failure (Option Session) :=
  let path := pathOf dir key
  if disk.pathExists path then (readRecord disk path).map fun r => some (sessionOf key r)
  else .ok none

/-- The session in a file with the given name. A file that does not say its key has the key that
its name suggests; one that cannot be read has no session. -/
def sessionIn? (dir : String) (disk : Disk) (name : String) : Option Session :=
  let (stem, ext) := Path.splitName name
  if ext == some extension then
    match readRecord disk (Path.join dir name) with
    | .ok r => some (sessionOf (.ofPath (r.keyText.getD (Text.replaceChar '_' '/' stem))) r)
    | .error _ => none
  else none

/-- The order of sessions by key. -/
def keyLe (a b : Session) : Bool :=
  decide (a.key.text ≤ b.key.text)

/-- The sessions of a directory, by key. -/
def sessions (dir : String) (disk : Disk) : Except Failure (List Session) :=
  match disk.list dir with
  | .error e => .error (.ofOs e)
  | .ok names => .ok ((names.filterMap (sessionIn? dir disk)).mergeSort keyLe)

/-- Writes the record of a session. -/
def register (dir : String) (session : Session) : Act Disk Unit :=
  match session.owner with
  | .service name =>
    Act.refuse (.validation s!"service owner {name} cannot be recorded in a PID file")
  | .process pid => do
    let path := pathOf dir session.key
    let record : PidRecord := ⟨pid, some session.key.text, session.configPath⟩
    Act.inContext s!"failed to write PID file {path}" <|
      Disk.update (·.writeText path record.write)

/-- Removes the record of a key; there need not be one. -/
def unregister (dir : String) (key : SessionKey) : Act Disk Unit := fun disk =>
  let path := pathOf dir key
  match disk.removeFile path with
  | .ok disk' => (.ok (), disk')
  | .error .notFound => (.ok (), disk)
  | .error e => (.error ((Failure.ofOs e).within s!"failed to remove {path}"), disk)

/-- The session registry over a directory. -/
def registry (dir : String) : SessionRegistry Disk where
  register := register dir
  lookup key := fun disk => (lookup dir disk key, disk)
  unregister := unregister dir
  listAll := fun disk => (sessions dir disk, disk)

/-- Makes sure that the directory is there. -/
def prepare (dir : String) : Act Disk Unit :=
  Act.inContext s!"failed to create work dir {dir}" (Disk.makeDirs dir)

end PidFiles

end MountKeeper
