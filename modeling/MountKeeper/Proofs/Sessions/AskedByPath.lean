import MountKeeper.Instances
import MountKeeper.PidFiles
import MountKeeper.Remount.Unit
import MountKeeper.Proofs.Sessions.NormalPaths

/-! # Asking by path

Sessions are kept by key, and asked for by path. What is handed round of a session are plain texts, in
which nothing ties the mount path to the key, and the canonical form is found anew wherever one of them
is used. That comes to the same as to have the key, because a canonical form is its own canonical form.

* `PlainSession` is a session as plain texts. `PlainSession.coherent_iff`: it is that of a `Session`
  exactly when its mount path is its key, and in normal form.
* A `PathRegistry` is a session registry that is asked by paths: `PidFiles.byPath` over a directory,
  `InstanceStores.byPath` over stores.
* `PathRegistry.Follows`: it does what a registry does that is asked by keys. Such a registry does not
  tell a path from its canonical form, by `PathRegistry.Follows.answersAlike`.
* `SessionKey.CanonicalSpec` is what it means for a path that it has one canonical form, and
  `SessionKey.canonical_spec` says so of every path. -/

namespace MountKeeper

variable {σ : Type}

/-! ## Sessions as plain texts -/

/-- A session as plain texts. -/
structure PlainSession where
  sessionKey : String
  mountPath : String
  configPath : Option String
  owner : Owner
  state : SessionState
  deriving DecidableEq, Repr

/-- The texts of a session. -/
def Session.plain (s : Session) : PlainSession where
  sessionKey := s.key.text
  mountPath := s.key.text
  configPath := s.configPath
  owner := s.owner
  state := s.state

namespace PlainSession

/-- The session that starts at a path. -/
def startAt (path : String) (configPath : Option String) (owner : Owner) : PlainSession :=
  let key := SessionKey.canonical path
  { sessionKey := key, mountPath := key, configPath, owner, state := .starting }

/-- The session of a record that is found under a path. -/
def foundAt (path : String) (configPath : Option String) (owner : Owner) : PlainSession :=
  { startAt path configPath owner with state := .running }

/-- The mount path of a session is its key, and in normal form. -/
structure Coherent (s : PlainSession) : Prop where
  mountPath_eq : s.mountPath = s.sessionKey
  isNormal : SessionKey.IsNormal s.sessionKey

/-- The key that is found for the mount path is that of the session. -/
theorem Coherent.canonical_mountPath {s : PlainSession} (h : s.Coherent) :
    SessionKey.canonical s.mountPath = s.sessionKey := by
  rw [h.mountPath_eq, h.isNormal.canonical_eq]

/-- `s.plain` is coherent: its path has the key of `s` and is normal already. -/
theorem coherent_plain (s : Session) : s.plain.Coherent where
  mountPath_eq := rfl
  isNormal := SessionKey.exists_text_eq_iff.1 ⟨s.key, rfl⟩

/-- **The coherent records** are those of the sessions of this library. -/
theorem coherent_iff {s : PlainSession} : s.Coherent ↔ ∃ session : Session, session.plain = s := by
  constructor
  · rintro ⟨hpath, hnormal⟩
    obtain ⟨key, hkey⟩ := SessionKey.exists_text_eq_iff.2 hnormal
    refine ⟨⟨key, s.configPath, s.owner, s.state⟩, ?_⟩
    rw [Session.plain, hkey]
    cases s
    rw [PlainSession.mk.injEq]
    exact ⟨rfl, hpath.symm, rfl, rfl, rfl⟩
  · rintro ⟨session, rfl⟩
    exact coherent_plain session

/-- `startAt path` is the plain form of the session with key `SessionKey.ofPath path`. -/
theorem startAt_eq_plain (path : String) (configPath : Option String) (owner : Owner) :
    startAt path configPath owner
      = Session.plain { key := .ofPath path, configPath := configPath, owner := owner } := rfl

end PlainSession

/-! ## Registries that are asked by paths -/

/-- Storage for the records of sessions, by path. -/
structure PathRegistry (σ : Type) where
  register : PlainSession → Act σ Unit
  lookup : String → Act σ (Option PlainSession)
  unregister : String → Act σ Unit

namespace PathRegistry

/-- Asked by a path, it does what the other registry does when it is asked by the key. -/
structure Follows (r : PathRegistry σ) (keyed : SessionRegistry σ) : Prop where
  register : ∀ s : Session, r.register s.plain = keyed.register s
  lookup : ∀ path, r.lookup path = Option.map Session.plain <$> keyed.lookup (.ofPath path)
  unregister : ∀ path, r.unregister path = keyed.unregister (.ofPath path)

/-- A path and its canonical form are the same to a registry, and both are the key of the path to the
other one. -/
structure AnswersAlike (r : PathRegistry σ) (keyed : SessionRegistry σ) (path : String) : Prop where
  lookup : r.lookup (SessionKey.canonical path) = r.lookup path
  unregister : r.unregister (SessionKey.canonical path) = r.unregister path
  /-- So it is with a session that starts at them. -/
  register : ∀ configPath owner,
    r.register (.startAt (SessionKey.canonical path) configPath owner)
      = r.register (.startAt path configPath owner)
  lookup_keyed : r.lookup path = Option.map Session.plain <$> keyed.lookup (.ofPath path)
  unregister_keyed : r.unregister path = keyed.unregister (.ofPath path)
  register_keyed : ∀ configPath owner, r.register (.startAt path configPath owner)
    = keyed.register { key := .ofPath path, configPath := configPath, owner := owner }

/-- **Asked by a path or by its key**: a registry that goes by the key does not tell them apart. -/
theorem Follows.answersAlike {r : PathRegistry σ} {keyed : SessionRegistry σ} (h : r.Follows keyed)
    (path : String) : r.AnswersAlike keyed path where
  lookup := by rw [h.lookup, h.lookup, SessionKey.ofPath_canonical]
  unregister := by rw [h.unregister, h.unregister, SessionKey.ofPath_canonical]
  register configPath owner := by
    rw [PlainSession.startAt, PlainSession.startAt, SessionKey.canonical_canonical]
  lookup_keyed := h.lookup path
  unregister_keyed := h.unregister path
  register_keyed configPath owner := by rw [PlainSession.startAt_eq_plain, h.register]

end PathRegistry

/-! ## PID files -/

namespace PidFiles

/-- The path of the file of a mount path. -/
def fileAt (dir path : String) : String :=
  Path.join dir (Text.replaceChar '/' '_' (SessionKey.canonical path) ++ "." ++ extension)

/-- The session under a path. -/
def lookupAt (dir : String) (disk : Disk) (path : String) :
    Except Failure (Option PlainSession) :=
  let file := fileAt dir path
  if disk.pathExists file then
    (readRecord disk file).map fun r => some (.foundAt path r.configPath (.process r.pid))
  else .ok none

/-- The registry over a directory, asked by paths. A session is written to the file of its mount path,
and its key is written down. -/
def byPath (dir : String) : PathRegistry Disk where
  register s :=
    match s.owner with
    | .service name =>
      Act.refuse (.validation s!"service owner {name} cannot be recorded in a PID file")
    | .process pid =>
      let file := fileAt dir s.mountPath
      Act.inContext s!"failed to write PID file {file}" <|
        Disk.update (·.writeText file (PidRecord.write ⟨pid, some s.sessionKey, s.configPath⟩))
  lookup path := fun disk => (lookupAt dir disk path, disk)
  unregister path := fun disk =>
    let file := fileAt dir path
    match disk.removeFile file with
    | .ok disk' => (.ok (), disk')
    | .error .notFound => (.ok (), disk)
    | .error e => (.error ((Failure.ofOs e).within s!"failed to remove {file}"), disk)

/-- `fileAt` is `pathOf` at the key of the path. -/
theorem fileAt_eq (dir path : String) : fileAt dir path = pathOf dir (.ofPath path) := rfl

/-- The file that is found for the mount path of a session is that of its key. -/
theorem fileAt_mountPath (dir : String) (s : Session) :
    fileAt dir s.plain.mountPath = pathOf dir s.key := by
  rw [fileAt, (PlainSession.coherent_plain s).canonical_mountPath]
  rfl

/-- `lookupAt` at a path is `lookup` at its key, in plain texts. -/
theorem lookupAt_eq (dir : String) (disk : Disk) (path : String) :
    lookupAt dir disk path = (lookup dir disk (.ofPath path)).map (Option.map Session.plain) := by
  unfold lookupAt lookup
  rw [fileAt_eq]
  dsimp only
  split
  · cases readRecord disk (pathOf dir (.ofPath path)) with
    | error f => rfl
    | ok r => rfl
  · rfl

/-- `byPath dir` registers `s.plain` as `registry dir` registers `s`. -/
theorem register_plain (dir : String) (s : Session) :
    (byPath dir).register s.plain = (registry dir).register s := by
  have hfile := fileAt_mountPath dir s
  obtain ⟨key, configPath, owner, state⟩ := s
  cases owner with
  | service name => rfl
  | process pid =>
    dsimp only [byPath, Session.plain, registry, register] at hfile ⊢
    rw [hfile]

/-- `byPath dir` looks a path up as `registry dir` does its key. -/
theorem lookup_byPath (dir path : String) :
    (byPath dir).lookup path
      = Option.map Session.plain <$> (registry dir).lookup (.ofPath path) := by
  funext disk
  have hpath : ((byPath dir).lookup path).runOn disk = (lookupAt dir disk path, disk) := rfl
  have hkey : ((registry dir).lookup (.ofPath path)).runOn disk
      = (lookup dir disk (.ofPath path), disk) := rfl
  show ((byPath dir).lookup path).runOn disk = Act.runOn _ disk
  rw [hpath, Act.runOn_map, hkey, lookupAt_eq]

/-- `byPath dir` removes a path as `registry dir` does its key. -/
theorem unregister_byPath (dir path : String) :
    (byPath dir).unregister path = (registry dir).unregister (.ofPath path) := by
  funext disk
  dsimp only [byPath, registry, unregister]
  cases hremoved : disk.removeFile (pathOf dir (.ofPath path)) with
  | ok disk' => rw [fileAt_eq, hremoved]
  | error e =>
    -- a missing file is the one error that is no failure
    cases e with
    | notFound => rw [fileAt_eq, hremoved]
    | _ => rw [fileAt_eq, hremoved]

/-- **PID files** that are asked for by paths are those of the keys. -/
theorem follows_byPath (dir : String) : (byPath dir).Follows (registry dir) where
  register := register_plain dir
  lookup := lookup_byPath dir
  unregister := unregister_byPath dir

end PidFiles

/-! ## Instances -/

namespace InstanceStores

/-- The session of a record, as plain texts. -/
def plainOf (key : String) (values : Values) : Except Failure PlainSession :=
  match values.get? configFileName with
  | none => .error (.ofText s!"instance {key} has no {configFileName}")
  | some config => .ok (.foundAt ((values.get? mountDirName).getD key) (some config) (.service key))

/-- The registry over stores, asked by paths. -/
def byPath (stores : InstanceStores σ) : PathRegistry σ where
  register s :=
    stores.instances.write s.sessionKey (recordValues s.sessionKey (s.configPath.getD ""))
  lookup path := do
    let key := SessionKey.canonical path
    match ← stores.instances.read key with
    | none => pure none
    | some values => some <$> Act.ofExcept (plainOf key values)
  unregister path := do
    let _ ← stores.instances.delete (SessionKey.canonical path)

/-- `plainOf` is `sessionOf`, in plain texts. -/
theorem plainOf_eq (key : String) (values : Values) :
    plainOf key values = (sessionOf key values).map Session.plain := by
  unfold plainOf sessionOf
  cases values.get? configFileName with
  | none => rfl
  | some config => rfl

/-- **Instances** that are asked for by paths are those of the keys. -/
theorem follows_byPath (stores : InstanceStores σ) : stores.byPath.Follows stores.registry where
  register s := rfl
  lookup path := by
    dsimp only [byPath, registry, readFrom, SessionKey.text_ofPath]
    rw [map_bind]
    refine bind_congr fun found => ?_
    cases found with
    | none => rfl
    | some values =>
      dsimp only
      rw [plainOf_eq]
      cases sessionOf (SessionKey.canonical path) values with
      | error f => rfl
      | ok s => rfl
  unregister path := rfl

end InstanceStores

/-! ## Units -/

namespace RemountUnit

/-- The name of the unit of a mount path. -/
def nameAt (path : String) : String :=
  "cloudfuse" ++ Text.replaceChar '/' '-' (SessionKey.canonical path) ++ ".service"

/-- `nameAt` is `name` at the key of the path. -/
theorem nameAt_eq (path : String) : nameAt path = name (.ofPath path) := rfl

end RemountUnit

/-! ## In step -/

namespace SessionKey

/-- **A path and its key** are in step. -/
structure CanonicalSpec (path : String) : Prop where
  /-- The key of a path is in normal form. -/
  normal : IsNormal (canonical path)
  /-- The key of a key is that key. -/
  again : canonical (canonical path) = canonical path
  /-- The paths in normal form, and no others, are their own keys. -/
  unchanged : canonical path = path ↔ IsNormal path
  /-- Of all texts that are spelled like the path, the key is the one in normal form. -/
  only : ∀ text, canonical path = text ↔ IsNormal text ∧ SpelledAlike text path
  /-- Separators behind a path make no other key. -/
  separators : ∀ seps : List Char, (∀ c ∈ seps, IsSeparator c) →
    canonical (path ++ String.ofList seps) = canonical path
  /-- So it is with a path in bytes, whatever these are. -/
  bytes : ∀ raw seps : List UInt8, ofBytes raw = ofPath path → (∀ b ∈ seps, b = 0x2F ∨ b = 0x5C) →
    ofBytes (raw ++ seps) = ofPath path
  /-- The mount path of a session that starts there is its key, so that it is a session of this
  library. -/
  session : ∀ configPath owner, (PlainSession.startAt path configPath owner).Coherent ∧
    PlainSession.startAt path configPath owner
      = Session.plain { key := ofPath path, configPath := configPath, owner := owner }
  /-- The PID file of a path is that of its key. -/
  pidFile : ∀ dir, PidFiles.fileAt dir (canonical path) = PidFiles.fileAt dir path ∧
    PidFiles.fileAt dir path = PidFiles.pathOf dir (.ofPath path)
  /-- The unit of a path is that of its key. -/
  unit : RemountUnit.nameAt (canonical path) = RemountUnit.nameAt path ∧
    RemountUnit.nameAt path = RemountUnit.name (.ofPath path)
  /-- The record of a path is that of its key, in a directory of PID files. -/
  records : ∀ dir, (PidFiles.byPath dir).AnswersAlike (PidFiles.registry dir) path
  /-- So it is in stores. -/
  instances : ∀ {σ : Type} (stores : InstanceStores σ),
    stores.byPath.AnswersAlike stores.registry path

/-- **Every path is in step with its key.** -/
theorem canonical_spec (path : String) : CanonicalSpec path := by
  have hagain := canonical_canonical path
  constructor
  case normal => exact isNormal_canonical path
  case again => exact hagain
  case unchanged => exact canonical_eq_self_iff
  case only => exact fun text => canonical_eq_iff
  case separators =>
    intro seps hseps
    exact congrArg SessionKey.text (ofPath_append_separators path hseps)
  case bytes =>
    intro raw seps hraw hseps
    rw [ofBytes_append_separators raw hseps, hraw]
  case session =>
    intro configPath owner
    exact ⟨PlainSession.coherent_plain { key := ofPath path, configPath, owner }, rfl⟩
  case pidFile =>
    intro dir
    have hfile := PidFiles.fileAt_eq dir path
    refine ⟨?_, hfile⟩
    rw [hfile, PidFiles.fileAt_eq, ofPath_canonical]
  case unit =>
    have hname := RemountUnit.nameAt_eq path
    refine ⟨?_, hname⟩
    rw [hname, RemountUnit.nameAt_eq, ofPath_canonical]
  case records => exact fun dir => (PidFiles.follows_byPath dir).answersAlike path
  case instances => exact fun stores => stores.follows_byPath.answersAlike path

end SessionKey

end MountKeeper
