import MountKeeper.Disk.Basic
import MountKeeper.Process
import MountKeeper.Remount.Unit

/-! # Remounting through the service manager

A mount comes back after a restart because a unit for it is installed in the unit directory. The
unit runs as an account of its own, which is made when it is missing.

* `Systemd.installer` is the remount installer; `Systemd.ensureUser` and `Systemd.placeUnit` are
  the two halves of an installation.
* `Systemd.hasUser` reads the text of an account file. -/

namespace MountKeeper

/-- Where the service manager keeps its files. -/
structure Systemd (σ : Type) where
  /-- The disk of the host. -/
  disk : Part σ Disk
  runner : CommandRunner σ
  /-- The directory of the units. -/
  unitDir : String := "/etc/systemd/system"
  /-- The account file. -/
  passwd : String := "/etc/passwd"
  /-- The program that units start. -/
  binary : String := "/usr/bin/cloudfuse"

namespace Systemd

variable {σ : Type}

/-- Whether a line of an account file is that of a user. -/
def isLineOf (user : String) (line : List Char) : Bool :=
  match line.splitOn ':' with
  | name :: _ => name == user.toList
  | [] => false

/-- Whether the text of an account file has a user. -/
def hasUser (user text : String) : Bool :=
  (Text.lines text.toList).any (isLineOf user)

/-- Adds a user to groups. -/
def joinGroups (s : Systemd σ) (user : String) : List String → Act σ Unit
  | [] => pure ()
  | group :: rest => do
    let _ ← Act.inContext "failed to add group to user" <|
      s.runner.run "usermod" ["-aG", group, user]
    joinGroups s user rest

/-- Makes sure that a user exists. A new one joins the groups of the caller. -/
def ensureUser (s : Systemd σ) (user : String) : Act σ Unit := do
  let text ← Act.inContext s!"failed to read {s.passwd}" <|
    (Disk.query (·.readText s.passwd)).on s.disk
  if hasUser user text then pure ()
  else
    let _ ← Act.inContext "failed to create user" (s.runner.run "useradd" ["-m", user])
    let groups ← s.runner.run "id" ["-G"]
    s.joinGroups user (Text.wordsOf groups.stdout)

/-- The path of the unit of a mount path. -/
def unitPath (s : Systemd σ) (key : SessionKey) : String :=
  Path.join s.unitDir (RemountUnit.name key)

/-- The path at which a unit is written before it is put in its place. -/
def stagingPath (s : Systemd σ) (key : SessionKey) : String :=
  Path.withExtension (s.unitPath key) "service.tmp"

/-- Writes the unit of a record in two steps, so that the old unit stays whole until the new one
is. -/
def placeUnit (s : Systemd σ) (record : RemountRecord) : Act σ Unit := do
  let path := s.unitPath record.key
  let staging := s.stagingPath record.key
  Act.inContext s!"failed to write {staging}" <|
    (Disk.update (·.writeText staging (RemountUnit.render s.binary record))).on s.disk
  Act.inContext s!"failed to install {path}" <|
    (Disk.update (·.rename staging path)).on s.disk

/-- Makes the service manager read its units again. -/
def reload (s : Systemd σ) : Act σ Unit := do
  let _ ← Act.inContext "failed to run 'systemctl daemon-reload'" <|
    s.runner.run "systemctl" ["daemon-reload"]

/-- Installs the unit of a record and answers with its name. -/
def install (s : Systemd σ) (record : RemountRecord) : Act σ String := do
  s.ensureUser record.runAs
  s.placeUnit record
  s.reload
  let unit := RemountUnit.name record.key
  let _ ← Act.inContext s!"failed to enable {unit}" (s.runner.run "systemctl" ["enable", unit])
  return unit

/-- Removes the unit of a mount path. -/
def uninstall (s : Systemd σ) (key : SessionKey) : Act σ Unit := do
  let path := s.unitPath key
  let disk := s.disk.get (← Act.look)
  if disk.pathExists path then
    Act.inContext s!"failed to remove {path}" ((Disk.update (·.removeFile path)).on s.disk)
    s.reload
  else
    Act.refuse (.validation s!"no remount service installed for {key.text}")

/-- The remount installer. -/
def installer (s : Systemd σ) : RemountInstaller σ := ⟨s.install, s.uninstall⟩

end Systemd

end MountKeeper
