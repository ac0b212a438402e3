import MountKeeper.Remount.Record
import MountKeeper.Unmounting

/-! # The session manager

The manager ties the parts of a platform together: it checks what is asked for, clears up behind
dead sessions, starts and stops sessions, and makes mounts come back after a restart.

* `SessionManager.checkRequest` and `SessionManager.checkDirectory` refuse a mount before anything
  happens.
* `SessionManager.mount`, `SessionManager.unmount`, `SessionManager.unmountAll` and
  `SessionManager.listMounts` are what a user asks for. -/

namespace MountKeeper

/-- The parts of a platform. -/
structure SessionManager (σ : Type) where
  surroundings : Surroundings
  books : Bookkeeping σ
  supervisor : Supervisor σ
  remount : RemountInstaller σ
  console : Console σ
  disk : Part σ Disk
  patterns : PatternReader
  /-- The process of the manager. -/
  self : σ → UInt32

namespace SessionManager

variable {σ : Type}

/-! ## Checks -/

/-- Whether a mount is to come back after a restart. -/
def wantsRemount (options : MountOptions) : Bool :=
  options.remount.system || options.remount.user

/-- Refuses to bring a mount back that ends with this process. -/
def checkRequest (options : MountOptions) : Act σ Unit := do
  if options.foreground && wantsRemount options then
    Act.refuse (.validation "remount on restart cannot be enabled for a foreground mount")

/-- Refuses a path that is no directory, or one that holds files when it may not. -/
def checkDirectory (disk : Disk) (options : MountOptions) : Except Failure Unit :=
  let path := options.mountPath
  if disk.isDir path then
    match disk.list path with
    | .error e => .error ((Failure.ofOs e).within s!"failed to read {path}")
    | .ok names =>
      if names.isEmpty || options.nonempty then .ok ()
      else .error (.ofSession (.validation s!"mount directory {path} is not empty"))
  else .error (.ofSession (.validation s!"mount directory {path} does not exist"))

/-- Refuses a mount before anything happens. The directory of a path that is mounted already is not
looked at. -/
def validate (m : SessionManager σ) (options : MountOptions) : Act σ Unit := do
  checkRequest options
  if ← m.books.mounts.isMounted (.ofPath options.mountPath) then
    pure ()
  else
    Act.ofExcept (checkDirectory (m.disk.get (← Act.look)) options)

/-! ## Mounting -/

/-- Makes a mount come back after a restart. -/
def enableRemount (m : SessionManager σ) (key : SessionKey) (options : MountOptions) :
    Act σ Unit := do
  match options.configPath with
  | none => Act.refuse (.validation "remount on restart needs a config file")
  | some config =>
    let record := RemountRecord.make key.text config options.remount.systemUser
    let name ← Act.inContext "mounted, but failed to enable remount on restart"
      (m.remount.install record)
    m.console.print s!"Enabled remount on restart: {name}"

/-- Whether a session goes on after it was started. -/
def goesOn : Started → Bool
  | .background _ | .delegated => true
  | .completed => false

/-- Mounts. -/
def mount (m : SessionManager σ) (options : MountOptions) : Act σ Started := do
  m.validate options
  let key := SessionKey.ofPath options.mountPath
  match ← m.books.reconcile key with
  | .alreadyMounted => Act.refuse (.alreadyMounted key.text)
  | .proceed =>
    let session : Session := {
      key := key, configPath := options.configPath, owner := .process (m.self (← Act.look)) }
    let started ← Act.inContext "failed to mount" (m.supervisor.start session options)
    if goesOn started && wantsRemount options then
      m.enableRemount key options
    return started

/-! ## Unmounting -/

/-- What it takes to unmount. -/
def teardown (m : SessionManager σ) : Teardown σ := ⟨m.books, m.supervisor, m.console, m.patterns⟩

/-- What a typed target means: a pattern is taken as it is, a path is made absolute. -/
def target (m : SessionManager σ) (typed : String) : String :=
  if Teardown.isPattern typed then typed
  else SessionKey.canonical (Path.expand m.surroundings typed)

/-- Keeps the mount at a path from coming back. -/
def disableRemount (m : SessionManager σ) (target : String) : Act σ Unit :=
  if Teardown.isPattern target then
    Act.refuse (.validation "remount can only be disabled for a single mount path")
  else
    Act.inContext s!"failed to unmount and disable remount on restart for mount {target}" <|
      m.remount.uninstall (.ofPath target)

/-- Unmounts a path or what matches a pattern. A path can be kept from coming back first. -/
def unmount (m : SessionManager σ) (typed : String) (lazily forGood : Bool) : Act σ Unit := do
  let target := m.target typed
  if forGood then
    m.disableRemount target
  m.teardown.unmount target lazily false

/-- Unmounts everything. -/
def unmountAll (m : SessionManager σ) (lazily : Bool) : Act σ Unit :=
  m.teardown.unmountAll lazily

/-! ## Listing -/

/-- Shows the mounts, and answers with them. -/
def listMounts (m : SessionManager σ) : Act σ (List String) := do
  let paths ← m.teardown.listed
  if paths.isEmpty then
    m.console.print "Nothing is mounted from this system"
  else
    m.console.printAll paths
  return paths

end SessionManager

end MountKeeper
