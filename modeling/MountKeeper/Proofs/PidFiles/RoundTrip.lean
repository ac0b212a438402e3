import MountKeeper.Proofs.Disk.Change
import MountKeeper.Proofs.PidFiles.Map
import MountKeeper.Proofs.Sessions.Separation
import MountKeeper.Proofs.Text.Utf8

/-! # What comes back from a PID file

A session is written as lines and read as lines, by a lookup of its path and by a list of the
directory. What is written of a path is its text, in which bytes that are not UTF-8 are replaced.

* `PidFiles.Served` is a session that a process serves, with its configuration path in bytes, and
  `PidFiles.Served.kept` is what comes back of it.
* `PidFiles.OneLine` are the configuration paths that come back as they are.
* `PidFiles.ComesBack` is what holds behind a registration that succeeded, and
  `PidFiles.comesBack_of_register` says that it does, on every disk. -/

namespace MountKeeper.PidFiles

/-! ## Paths in bytes -/

/-- The text of a path in bytes. What is not UTF-8 is shown as `U+FFFD`. -/
def shown (path : List UInt8) : String :=
  String.ofList (Utf8.decode path)

/-- The bytes of a text. -/
def bytesOf (text : String) : List UInt8 :=
  text.toUTF8.data.toList

/-- Bytes that stand on one line of a file as they are: those of a text that is not empty, has no
line feed, and has no blanks around it. -/
def OneLine (path : List UInt8) : Prop :=
  ∃ text : String, path = bytesOf text ∧
    text ≠ "" ∧ '\n' ∉ text.toList ∧ Text.Trimmed text.toList

/-- What is shown of the bytes of a text is the text. -/
theorem shown_bytesOf (text : String) : shown (bytesOf text) = text := by
  unfold shown bytesOf
  rw [Utf8.decode_toUTF8, String.ofList_toList]

/-- What is heard of a path is the path exactly when it stands on one line. -/
theorem heard_shown_iff {path : List UInt8} :
    (PidRecord.heard (some (shown path))).map bytesOf = some path ↔ OneLine path := by
  constructor
  · intro h
    obtain ⟨text, hheard, rfl⟩ := Option.map_eq_some_iff.1 h
    rw [shown_bytesOf] at hheard
    exact ⟨text, rfl, PidRecord.heard_eq_self_iff.1 hheard⟩
  · rintro ⟨text, rfl, htext⟩
    rw [shown_bytesOf, PidRecord.heard_eq_self_iff.2 htext]
    rfl

/-! ## Sessions of processes -/

/-- A session that a process serves, as it is registered. -/
structure Served where
  key : SessionKey
  /-- The configuration path in bytes. -/
  config : Option (List UInt8)
  pid : UInt32
  state : SessionState := .starting

namespace Served

/-- The session that is registered. -/
def session (v : Served) : Session where
  key := v.key
  configPath := v.config.map shown
  owner := .process v.pid
  state := v.state

/-- The session that comes back. -/
def kept (v : Served) : Session where
  key := v.key
  configPath := PidRecord.heard (v.config.map shown)
  owner := .process v.pid
  state := .running

/-- **The configuration path that comes back** is the one that was registered exactly when there was
none, or it stands on one line. -/
theorem configPath_kept_iff (v : Served) :
    v.kept.configPath.map bytesOf = v.config ↔ ∀ path ∈ v.config, OneLine path := by
  unfold kept
  cases hconfig : v.config with
  | none =>
    have hnone : PidRecord.heard none = none := by
      simp [PidRecord.heard, PidRecord.lineOf, PidRecord.filled?]
    rw [Option.map_none, hnone]
    simp
  | some path =>
    rw [Option.map_some, heard_shown_iff]
    simp

end Served

/-! ## Behind a registration -/

/-- **What comes back** from a disk, of a session that was registered in a directory. -/
structure ComesBack (dir : String) (v : Served) (d : Disk) : Prop where
  /-- A lookup of any path with the key answers with it. -/
  lookup : ∀ path : List UInt8, SessionKey.ofBytes path = v.key →
    ((registry dir).lookup (.ofBytes path)).runOn d = (.ok (some v.kept), d)
  /-- It has the key and the process that were registered, and is running. -/
  kept : v.kept.key = v.key ∧ v.kept.owner = .process v.pid ∧ v.kept.state = .running
  /-- Its configuration path is the one that was registered exactly when there was none, or it stands
  on one line. -/
  config : v.kept.configPath.map bytesOf = v.config ↔ ∀ path ∈ v.config, OneLine path
  /-- It is in the list, when its key has no blanks around it. The empty path is that of no directory,
  and no typed path means it, because what they mean is rooted. -/
  listed : Text.Trimmed v.key.text.toList → dir ≠ "" → ∃ L,
    ((registry dir).listAll).runOn d = (.ok L, d) ∧ v.kept ∈ L
  /-- A session of the list with its key is found again by its mount path. -/
  found : ∀ L, ((registry dir).listAll).runOn d = (.ok L, d) → ∀ session ∈ L, session.key = v.key →
    ((registry dir).lookup (.ofPath session.key.text)).runOn d = (.ok (some v.kept), d)
  /-- So is, as it is, every session of the list that stands in the file of its key. -/
  found_own : ∀ L, ((registry dir).listAll).runOn d = (.ok L, d) → ∀ session ∈ L,
    sessionIn? dir d (fileName session.key) = some session →
    ((registry dir).lookup (.ofPath session.key.text)).runOn d = (.ok (some session), d)

variable {dir : String} {d d' : Disk} {v : Served}

/-- The text of the file behind a registration. -/
theorem find_of_register (h : ((registry dir).register v.session).runOn d = (.ok (), d')) :
    d'.find (pathOf dir v.key) = .ok (.file (PidRecord.write
      ⟨v.pid, some v.key.text, v.config.map shown⟩).toUTF8) := by
  dsimp only [registry, register, Served.session] at h
  have hwrite := Disk.eq_ok_of_runOn_update (Act.runOn_of_inContext h)
  exact (Disk.changedIn_writeText (plain_fileName v.key) hwrite).2

/-- The record in the file behind a registration, when the key stands on one line. -/
theorem readRecord_of_register (hline : '\n' ∉ v.key.text.toList)
    (h : ((registry dir).register v.session).runOn d = (.ok (), d')) :
    readRecord d' (pathOf dir v.key) = .ok
      ⟨v.pid, PidRecord.heard (some v.key.text), PidRecord.heard (v.config.map shown)⟩ :=
  readRecord_of_find (find_of_register h)
    (PidRecord.read_write_of_line v.pid (v.config.map shown) hline)

/-- The list of a directory has the session of each of its files that can be read. -/
theorem runOn_listAll_of_list {names : List String} (h : d.list dir = .ok names) :
    ((registry dir).listAll).runOn d
      = (.ok ((names.filterMap (sessionIn? dir d)).mergeSort keyLe), d) := by
  show (sessions dir d, d) = _
  unfold sessions
  rw [h]

/-- **The round trip**: a session of a process whose key stands on one line comes back behind its
registration, whatever else is on the disk. -/
theorem comesBack_of_register (hline : '\n' ∉ v.key.text.toList)
    (h : ((registry dir).register v.session).runOn d = (.ok (), d')) : ComesBack dir v d' := by
  have hread := readRecord_of_register hline h
  have hlookup : ((registry dir).lookup v.key).runOn d' = (.ok (some v.kept), d') :=
    runOn_lookup_of_readRecord hread
  constructor
  case lookup =>
    intro path hpath
    rw [hpath, hlookup]
  case kept => exact ⟨rfl, rfl, rfl⟩
  case config => exact v.configPath_kept_iff
  case listed =>
    intro htrimmed hdir
    obtain ⟨names, hlist, hname⟩ :=
      Disk.exists_list_of_find (plain_fileName v.key) hdir (find_of_register h)
    refine ⟨_, runOn_listAll_of_list hlist, ?_⟩
    -- the key is on the second line as it is, so that the list goes by it and not by the file's name
    have hkey : PidRecord.heard (some v.key.text) = some v.key.text :=
      PidRecord.heard_of_trimmed v.key.text_ne_empty hline htrimmed
    have hsession : sessionIn? dir d' (fileName v.key) = some v.kept :=
      sessionIn?_of_readRecord hread hkey
    rw [List.mem_mergeSort, List.mem_filterMap]
    exact ⟨fileName v.key, hname, hsession⟩
  case found =>
    intro L _ session _ hkey
    rw [SessionKey.ofPath_text, hkey, hlookup]
  case found_own =>
    intro L _ session _ hown
    rw [SessionKey.ofPath_text]
    exact runOn_lookup_of_sessionIn? hown

/-- A session with an underscore in its path, and a blank behind its configuration path `/c`. -/
def underscored : Served where
  key := .ofPath "/mnt/a_b/"
  config := some [0x2F, 0x63, 0x20]
  pid := 4294967295

/-- It comes back with its path, but its configuration path does not. -/
theorem comesBack_underscored :
    '\n' ∉ underscored.key.text.toList ∧ Text.Trimmed underscored.key.text.toList ∧
    ((registry "/work").register underscored.session).runOn emptyWork
      = (.ok (), (((registry "/work").register underscored.session).runOn emptyWork).2) ∧
    ComesBack "/work" underscored
      (((registry "/work").register underscored.session).runOn emptyWork).2 ∧
    underscored.kept = {
      key := .ofPath "/mnt/a_b", configPath := some "/c", owner := .process 4294967295,
      state := .running } := by
  have hline : '\n' ∉ underscored.key.text.toList := by decide +kernel
  have hrun : ((registry "/work").register underscored.session).runOn emptyWork
      = (.ok (), (((registry "/work").register underscored.session).runOn emptyWork).2) :=
    Prod.ext (by decide +kernel) rfl
  exact ⟨hline, by decide +kernel, hrun, comesBack_of_register hline hrun, by decide +kernel⟩

end MountKeeper.PidFiles
