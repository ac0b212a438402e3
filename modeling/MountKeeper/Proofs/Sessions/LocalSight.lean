import MountKeeper.Proofs.MountTable.ForeignLines
import MountKeeper.Proofs.Sessions.CleaningUp
import MountKeeper.Proofs.Sessions.NormalPaths
import MountKeeper.Proofs.Sessions.Sight
import MountKeeper.Rehearsal.Worlds

/-! # What is seen of a local platform

The records of a local platform are PID files, and its mounts are the lines of a table that an
unmount tool takes out. Two keys may share a file, and the tool goes by a path as it is written in
the table; so the platform goes by what is seen for keys and hosts on which neither matters.

* `Host.tableWithout path text` is what the tool leaves of a table, and `entries_tableWithout` what
  is listed of it. `WrittenPlainly keys text`: the mounts of `keys` are written in the table as
  their keys are, without escapes.
* `Layout.Sound l keys d` is what is relied upon: the table is none of the PID files of `keys`, and
  its mounts of `keys` are written plainly. `Layout.Sound.removeFile` and `Layout.Sound.writeText`
  are the two changes that the platform makes to its disk.
* `Host.localObservation l keys` is what is seen, and `Host.seen_localManager` says that the
  platform meets its contract when `PidFiles.fileName` is injective on `keys`. -/

namespace MountKeeper

open Act (Ensures Keeps)

/-! ## What is read of a file -/

/-- `PidFiles.lookup dir d key` depends on what `d` has at the file of the key alone. -/
theorem PidFiles.lookup_congr {dir : String} {key : SessionKey} {d d' : Disk}
    (h : d'.find (pathOf dir key) = d.find (pathOf dir key)) :
    lookup dir d' key = lookup dir d key := by
  have hexists : d'.pathExists (pathOf dir key) = d.pathExists (pathOf dir key) := by
    unfold Disk.pathExists
    rw [h]
  have hread : readRecord d' (pathOf dir key) = readRecord d (pathOf dir key) := by
    unfold readRecord
    rw [Disk.readText_congr h]
  unfold lookup
  dsimp only
  rw [hexists, hread]

/-- `lookup dir d key` finds sessions of `key` only: the file says whose process it is, and the key
is the one that was asked for. -/
theorem PidFiles.key_of_lookup {dir : String} {d : Disk} {key : SessionKey} {session : Session}
    (h : lookup dir d key = .ok (some session)) : session.key = key := by
  unfold lookup at h
  dsimp only at h
  split at h
  · cases hread : readRecord d (pathOf dir key) with
    | error f =>
      rw [hread] at h
      exact absurd h nofun
    | ok r =>
      rw [hread] at h
      rw [← Option.some.inj (Except.ok.inj h)]
      rfl
  · exact absurd (Except.ok.inj h) nofun

/-- Behind `(registry dir).unregister key` the disk is as it was, or without the file of the key. -/
theorem PidFiles.behind_unregister (dir : String) (key : SessionKey) (d : Disk) :
    (((registry dir).unregister key).runOn d).2 = d ∨
      d.removeFile (pathOf dir key) = .ok (((registry dir).unregister key).runOn d).2 := by
  dsimp only [registry, unregister, Act.runOn, ExceptT.run, StateT.run]
  split
  · next hremove => exact .inr hremove
  · exact .inl rfl
  · exact .inl rfl

/-- `MountTable.readTable path d` depends on what `d` has at the table alone. -/
theorem MountTable.readTable_congr {path : String} {d d' : Disk} (h : d'.find path = d.find path) :
    readTable path d' = readTable path d := by
  unfold readTable
  rw [Disk.readText_congr h]

/-- What ending a process, looking for it and removing the record keep, `s.stop session` keeps. -/
theorem LocalSupervisor.keeps_stop {σ : Type} {s : LocalSupervisor σ} {session : Session}
    {I : σ → Prop}
    (hunregister : Keeps I (s.registry.unregister session.key))
    (halive : ∀ pid, Keeps I (s.processes.isAlive pid))
    (hterminate : ∀ pid, Keeps I (s.processes.terminate pid)) : Keeps I (s.stop session) := by
  have hawait (pid : UInt32) (n : Nat) : Keeps I (s.awaitExit pid n) := by
    induction n with
    | zero => exact .pure _
    | succ n ih => exact (halive pid).bind fun _ => .ite ih (.pure _)
  unfold LocalSupervisor.stop
  cases session.owner with
  | service name => exact .fail _
  | process pid =>
    refine (halive pid).bind fun alive => .ite ?_ hunregister
    exact (hterminate pid).bind fun _ => (hawait pid _).bind fun _ => hunregister

namespace Rehearsal

open MountTable (entries ownPath?)

/-! ## The text of the table -/

namespace Host

/-- The text of a table without the lines of a path. -/
def tableWithout (path text : String) : String :=
  String.join (((Text.linesOf text).filter fun line => !isLineOf path line).map (· ++ "\n"))

/-- The lines of a text that are not those of a path. -/
def linesWithout (path text : String) : List (List Char) :=
  (Text.lines text.toList).filter fun line => !isLineOf path (String.ofList line)

variable {path text : String} {key : SessionKey} {keys : Set SessionKey}

/-- A carriage return at the end of a line changes nothing about whose line it is, since the path is
cut off in front of it. -/
theorem isLineOf_dropReturn (path : String) (line : List Char) :
    isLineOf path (String.ofList (Text.dropReturn line)) = isLineOf path (String.ofList line) := by
  unfold isLineOf Text.wordsOf
  rw [String.toList_ofList, String.toList_ofList, Text.words_dropReturn]

/-- The lines of `tableWithout path text` are `linesWithout path text`, but for carriage returns. -/
theorem lines_tableWithout (path text : String) :
    Text.lines (tableWithout path text).toList = (linesWithout path text).map Text.dropReturn := by
  have hended : ∀ line ∈ linesWithout path text, '\n' ∉ line := fun line hline =>
    Text.newline_not_mem_of_mem_lines (List.mem_filter.1 hline).1
  rw [← Text.lines_flatMap_newline hended]
  congr 1
  unfold tableWithout linesWithout Text.linesOf
  rw [String.toList_join, List.filter_map, List.flatMap_map, List.flatMap_map]
  refine List.flatMap_congr fun line _ => ?_
  show (String.ofList line ++ "\n").toList = line ++ ['\n']
  rw [String.toList_append, String.toList_ofList]
  rfl

/-- `entries (tableWithout path text)` are the entries of the lines that were left. -/
theorem entries_tableWithout (path text : String) :
    entries (tableWithout path text) = (linesWithout path text).filterMap ownPath? := by
  unfold entries
  rw [lines_tableWithout, List.filterMap_map]
  exact List.filterMap_congr fun line _ => MountTable.ownPath?_dropReturn line

/-- A line of `key.text`, if it is one of ours, is the entry of `key.text`: there is no escape in
the text of a key. -/
theorem eq_of_isLineOf {line : List Char} (hline : isLineOf key.text (String.ofList line) = true)
    (hown : ownPath? line = some path) : path = key.text := by
  unfold ownPath? at hown
  split at hown
  · unfold isLineOf Text.wordsOf at hline
    rw [String.toList_ofList] at hline
    split at hown
    · next source word rest hwords =>
      rw [hwords] at hline
      have hword : String.ofList word = key.text := by simpa using hline
      have hnormal := SessionKey.canonical_eq_self_iff.1 key.canonical_text
      have hescape : '\\' ∉ word := by
        have hmem := hnormal.backslash_not_mem
        rwa [← hword, String.toList_ofList] at hmem
      rw [← Option.some.inj hown, MountTable.unescape_of_not_mem hescape, hword]
    · exact absurd hown nofun
  · exact absurd hown nofun

/-- `tableWithout key.text` leaves the entries of other keys, in order. -/
theorem elsewhere_tableWithout (key : SessionKey) (text : String) :
    (entries (tableWithout key.text text)).filter (fun p => SessionKey.ofPath p != key)
      = (entries text).filter fun p => SessionKey.ofPath p != key := by
  rw [entries_tableWithout]
  unfold linesWithout entries
  -- along the lines: one that was taken out is none of ours, or an entry of the key
  induction Text.lines text.toList with
  | nil => rfl
  | cons line rest ih =>
    by_cases hline : isLineOf key.text (String.ofList line) = true
    · rw [List.filter_cons_of_neg (by simp [hline]), ih]
      cases hown : ownPath? line with
      | none => rw [List.filterMap_cons_none hown]
      | some path =>
        rw [List.filterMap_cons_some hown, List.filter_cons_of_neg]
        rw [eq_of_isLineOf hline hown, SessionKey.ofPath_text]
        simp
    · rw [List.filter_cons_of_pos (by simp [hline])]
      cases hown : ownPath? line with
      | none => rw [List.filterMap_cons_none hown, List.filterMap_cons_none hown, ih]
      | some path =>
        rw [List.filterMap_cons_some hown, List.filterMap_cons_some hown, List.filter_cons,
          List.filter_cons, ih]

end Host

/-- The entries of a table by which some keys are mounted are written as the keys are: a tool that
is called with the text of the key finds them. -/
def WrittenPlainly (keys : Set SessionKey) (text : String) : Prop :=
  ∀ line ∈ Text.lines text.toList, ∀ path, ownPath? line = some path → .ofPath path ∈ keys →
    Host.isLineOf (SessionKey.ofPath path).text (String.ofList line) = true

namespace WrittenPlainly

variable {text : String} {key : SessionKey} {keys : Set SessionKey}

/-- `WrittenPlainly keys` is kept by `tableWithout`: what is left of a table is written plainly if
the whole is. -/
theorem tableWithout (h : WrittenPlainly keys text) (path : String) :
    WrittenPlainly keys (Host.tableWithout path text) := by
  intro line hline p hown hkey
  rw [Host.lines_tableWithout, List.mem_map] at hline
  obtain ⟨whole, hwhole, rfl⟩ := hline
  rw [MountTable.ownPath?_dropReturn] at hown
  rw [Host.isLineOf_dropReturn]
  exact h whole (List.mem_filter.1 hwhole).1 p hown hkey

/-- Behind `tableWithout key.text` the key is not listed, if its entries are written plainly. An
entry with escapes would stay, as lines are compared by their text. -/
theorem not_lists (h : WrittenPlainly keys text) (hkey : key ∈ keys) :
    MountTable.lists (entries (Host.tableWithout key.text text)) key = false := by
  rw [← Bool.not_eq_true, MountTable.lists, List.any_eq_true]
  rintro ⟨p, hp, hlists⟩
  have hsame : SessionKey.ofPath p = key := by simpa using hlists
  rw [Host.entries_tableWithout, List.mem_filterMap] at hp
  obtain ⟨line, hline, hown⟩ := hp
  obtain ⟨hwhole, hleft⟩ := List.mem_filter.1 hline
  have htaken := h line hwhole p hown (hsame ▸ hkey)
  rw [hsame] at htaken
  rw [htaken] at hleft
  exact absurd hleft (by simp)

end WrittenPlainly

/-! ## The disk -/

/-- What a local platform relies upon for some keys: the table leads to another place than their PID
files, and the mounts of the keys are written plainly in it. -/
structure Layout.Sound (l : Layout) (keys : Set SessionKey) (d : Disk) : Prop where
  apart : ∃ place, d.resolve l.table = .ok place ∧
    ∀ key ∈ keys, d.resolve (PidFiles.pathOf l.work key) ≠ .ok place
  plain : ∀ text, d.readText l.table = .ok text → WrittenPlainly keys text

namespace Layout.Sound

variable {l : Layout} {keys : Set SessionKey} {d d' : Disk} {key : SessionKey}

/-- **A PID file that was removed** is not found. `l.table` and the PID files of other names are
what they were. -/
theorem removeFile (h : l.Sound keys d) (hkey : key ∈ keys)
    (hremove : d.removeFile (PidFiles.pathOf l.work key) = .ok d') :
    l.Sound keys d' ∧ d'.find l.table = d.find l.table ∧
      ∀ other, PidFiles.fileName other ≠ PidFiles.fileName key →
        d'.find (PidFiles.pathOf l.work other) = d.find (PidFiles.pathOf l.work other) := by
  obtain ⟨place, htable, hapart⟩ := h.apart
  obtain ⟨hchange, -⟩ := Disk.changedIn_removeFile (PidFiles.plain_fileName key) hremove
  obtain ⟨removed, content, hres, hfile, rfl⟩ := Disk.exists_of_removeFile hremove
  have hne : place ≠ removed := fun he => hapart key hkey (he ▸ hres)
  have hfind := Disk.find_dropNode_of_file hfile htable hne
  refine ⟨⟨⟨place, hchange.resolve htable, fun other hother hback => hapart other hother ?_⟩,
    fun text htext => h.plain text ?_⟩, hfind, fun other hother => ?_⟩
  · exact Disk.resolve_of_directories (fun p => (hchange.directories p).1) hchange.current.symm
      hback
  · exact (Disk.readText_congr hfind).symm.trans htext
  · exact hchange.find_join (PidFiles.plain_fileName other) hother

/-- **A table that was written over** holds `new`. The PID files are what they were. -/
theorem writeText (h : l.Sound keys d) {text new : String} (hread : d.readText l.table = .ok text)
    (hwrite : d.writeText l.table new = .ok d') (hplain : WrittenPlainly keys new) :
    l.Sound keys d' ∧ d'.readText l.table = .ok new ∧
      ∀ key ∈ keys, d'.find (PidFiles.pathOf l.work key) = d.find (PidFiles.pathOf l.work key) := by
  obtain ⟨place, htable, hapart⟩ := h.apart
  obtain ⟨written, hres, -, hwants, rfl⟩ := Disk.exists_of_writeFile hwrite
  obtain rfl : place = written := Except.ok.inj (htable.symm.trans hres)
  -- the table is a file before, since it was read
  obtain ⟨content, hfile⟩ : ∃ content, d.nodeAt place = some (.file content) := by
    obtain ⟨content, hfind⟩ := Disk.exists_find_of_readText hread
    obtain ⟨there, hthere, hnode, -⟩ := Disk.exists_of_find_file hfind
    obtain rfl : place = there := Except.ok.inj (htable.symm.trans hthere)
    exact ⟨content, hnode⟩
  have hplace : place ≠ [] := by
    rintro rfl
    cases hfile
  have hresolve := Disk.resolve_setNode_of_file hfile new.toUTF8
  have hthere : (d.setNode place (.file new.toUTF8)).readText l.table = .ok new :=
    Disk.readText_of_find (Disk.find_of_file ((hresolve l.table).trans htable)
      (Disk.nodeAt_setNode_self hplace _) hwants)
  refine ⟨⟨⟨place, (hresolve _).trans htable, fun key hkey => ?_⟩, fun text' htext' => ?_⟩, hthere,
    fun key hkey => Disk.find_setNode_of_file hfile _ (hapart key hkey)⟩
  · rw [hresolve]
    exact hapart key hkey
  · rw [← Except.ok.inj (hthere.symm.trans htext')]
    exact hplain

end Layout.Sound

/-! ## The platform -/

namespace Host

/-- What is seen of a local platform: the PID files, the table, and the processes. -/
def localObservation (l : Layout) (keys : Set SessionKey) : Observation Host where
  sight h := {
    record := PidFiles.lookup l.work h.disk
    listing := MountTable.readTable l.table h.disk
    alive := h.processes.alive.contains
    disconnected := fun _ => false }
  keys := keys
  sound h := l.Sound keys h.disk

-- what is read of a disk is not to be computed where it is only to be compared
attribute [local irreducible] PidFiles.lookup MountTable.readTable

variable {l : Layout} {keys : Set SessionKey} {key : SessionKey} {h h' : Host}

/-- `(localObservation l keys h).record` is what is looked up in the PID files. -/
@[simp] theorem record_localObservation (l : Layout) (keys : Set SessionKey) (h : Host) :
    (localObservation l keys h).record = PidFiles.lookup l.work h.disk := rfl

/-- `(localObservation l keys h).listing` is what is read of the mount table. -/
@[simp] theorem listing_localObservation (l : Layout) (keys : Set SessionKey) (h : Host) :
    (localObservation l keys h).listing = MountTable.readTable l.table h.disk := rfl

/-- A host with the disk that it had differs from it in nothing that is seen, so `OnlyMounts key`
holds of them. -/
theorem onlyMounts_of_disk (hh : (localObservation l keys).sound h) (hdisk : h'.disk = h.disk) :
    (localObservation l keys).OnlyMounts key h h' where
  sound := by
    show l.Sound keys h'.disk
    rw [hdisk]
    exact hh
  records other _ := by
    rw [record_localObservation, hdisk, record_localObservation]
  mounts := by
    unfold Sight.elsewhere
    rw [listing_localObservation, hdisk, listing_localObservation]

/-- `(pidFiles l).unregister key` on the host is `unregister key` on its disk. -/
theorem runOn_unregister_pidFiles (l : Layout) (key : SessionKey) (h : Host) :
    ((pidFiles l).unregister key).runOn h
      = ((((PidFiles.registry l.work).unregister key).runOn h.disk).1,
        { h with disk := (((PidFiles.registry l.work).unregister key).runOn h.disk).2 }) :=
  Act.runOn_on ((PidFiles.registry l.work).unregister key) diskPart h

/-- Whether `unregister key` works or fails, it is `OnlyRecord key`, where no other key of `keys`
has the same file. -/
theorem onlyRecord_unregister (hnames : Set.InjOn PidFiles.fileName keys) (hkey : key ∈ keys)
    (hh : (localObservation l keys).sound h) :
    (localObservation l keys).OnlyRecord key h (((pidFiles l).unregister key).runOn h).2 := by
  have hbehind := PidFiles.behind_unregister l.work key h.disk
  rw [runOn_unregister_pidFiles]
  generalize (((PidFiles.registry l.work).unregister key).runOn h.disk).2 = d' at hbehind ⊢
  rcases hbehind with rfl | hremove
  · exact .refl key hh
  · obtain ⟨hsound, htable, hothers⟩ := Layout.Sound.removeFile hh hkey hremove
    refine ⟨hsound, fun other hother hne => ?_, MountTable.readTable_congr htable, fun _ _ => rfl⟩
    exact PidFiles.lookup_congr (hothers other fun he => hne (hnames hother hkey he))

/-- Behind `unregister key = .ok ()` a lookup of `key` finds nothing. -/
theorem lookup_of_unregistered (hworked : (((pidFiles l).unregister key).runOn h).1 = .ok ()) :
    PidFiles.lookup l.work (((pidFiles l).unregister key).runOn h).2.disk key = .ok none := by
  rw [runOn_unregister_pidFiles] at hworked ⊢
  rcases hrun : ((PidFiles.registry l.work).unregister key).runOn h.disk with ⟨r, d'⟩
  rw [hrun] at hworked
  obtain rfl : r = .ok () := hworked
  exact PidFiles.removes l.work key h.disk d' hrun

/-! ### Unmounting -/

/-- The table on `d'` is that on `d` without the lines of a path, and nothing else is different. -/
def TakenOut (l : Layout) (path : String) (d d' : Disk) : Prop :=
  ∃ text, d.readText l.table = .ok text ∧ d.writeText l.table (tableWithout path text) = .ok d'

/-- Behind a table from which `key.text` was taken out, `key` is not mounted and all else is seen as
it was. -/
theorem TakenOut.onlyMounts (htaken : TakenOut l key.text h.disk h'.disk) (hkey : key ∈ keys)
    (hh : (localObservation l keys).sound h) :
    (localObservation l keys).OnlyMounts key h h' ∧
      (localObservation l keys h').mounted key = .ok false := by
  obtain ⟨text, hread, hwrite⟩ := htaken
  have hplain : WrittenPlainly keys text := Layout.Sound.plain hh text hread
  obtain ⟨hsound, hnew, hrecords⟩ := Layout.Sound.writeText hh hread hwrite (hplain.tableWithout _)
  -- the listing goes from the entries of `text` to those that are left of it
  have hbefore : (localObservation l keys h).listing = .ok (entries text) := by
    rw [listing_localObservation, MountTable.readTable, hread]
  have hbehind : (localObservation l keys h').listing
      = .ok (entries (tableWithout key.text text)) := by
    rw [listing_localObservation, MountTable.readTable, hnew]
  refine ⟨⟨hsound, fun other hother => ?_, ?_⟩, ?_⟩
  · exact PidFiles.lookup_congr (hrecords other hother)
  · unfold Sight.elsewhere
    rw [hbefore, hbehind]
    exact congrArg Except.ok (elsewhere_tableWithout key text)
  · unfold Sight.mounted
    rw [hbehind]
    exact congrArg Except.ok (hplain.not_lists hkey)

/-- `dropLines l.table path` takes the lines of the path out, or leaves the disk as it is. -/
theorem ensures_dropLines (l : Layout) (path : String) (d : Disk) :
    Ensures (fun d' => d' = d) (dropLines l.table path) (fun _ d' => TakenOut l path d d')
      fun _ d' => d' = d := by
  refine Ensures.bind (Disk.ensures_query _ d) fun text => Ensures.of_fact fun hread => ?_
  exact (Disk.ensures_update _ d).weaken (fun _ _ hwrite => ⟨text, hread, hwrite⟩) fun _ _ hs => hs

/-- `note event` writes into the journal and leaves the disk as it is. -/
theorem keeps_disk_note (event : String) (d : Disk) : Keeps (fun h => h.disk = d) (note event) :=
  Ensures.change fun _ hs => hs

/-- A tool whose name begins with `fusermount` takes the lines of its last argument out, or fails
with the disk as it was. -/
theorem ensures_run_tool (l : Layout) {tool : String}
    (htool : Text.startsWith "fusermount" tool = true) (args : List String) (d : Disk) :
    Ensures (fun h => h.disk = d) ((tableRunner l.table).run tool args)
      (fun _ h => TakenOut l (args.getLastD "") d h.disk) fun _ h => h.disk = d := by
  have hplayed : Keeps (fun h : Host => h.disk = d) (runner.run tool args) :=
    Keeps.look.bind fun h => Keeps.bind (keeps_disk_note _ d) fun _ =>
      Ensures.ofExcept (fun _ _ _ hs => hs) fun _ _ _ hs => hs
  have hget (d : Disk) (h : Host) : diskPart.get (diskPart.put d h) = d := rfl
  have hdrop := (ensures_dropLines l (args.getLastD "") d).onPart hget
  refine Ensures.bind hplayed fun output => ?_
  rw [if_pos htool]
  exact Ensures.bind hdrop fun _ => Ensures.pure fun _ hs => hs

/-- The tools are tried until one can be found, and that one decides: `TakenOut l (args.getLastD
"")`, or the disk as it was. -/
theorem ensures_tryInOrder (l : Layout) (args : List String) (d : Disk) {tools : List String}
    (htools : ∀ tool ∈ tools, Text.startsWith "fusermount" tool = true) (missing : Failure) :
    Ensures (fun h => h.disk = d) (UnmountTools.tryInOrder (tableRunner l.table) args missing tools)
      (fun _ h => TakenOut l (args.getLastD "") d h.disk) fun _ h => h.disk = d := by
  induction tools generalizing missing with
  | nil => exact Ensures.fail fun _ hs => hs
  | cons tool rest ih =>
    have hrun := ensures_run_tool l (htools tool List.mem_cons_self) args d
    have hrest := ih fun t ht => htools t (List.mem_cons_of_mem _ ht)
    unfold UnmountTools.tryInOrder
    refine Ensures.attempt_bind hrun (fun _ => Ensures.pure fun _ hs => hs) fun f => ?_
    -- a tool that is not there hands over to the next one; any other failure is the answer
    exact Ensures.ite (fun _ => hrest f) fun _ => Ensures.fail fun _ hs => hs

/-- `unmount path lazily` of the platform takes the lines of `path` out, or leaves the disk as it
is. -/
theorem ensures_unmount (l : Layout) (path : String) (lazily : Bool) (d : Disk) :
    Ensures (fun h => h.disk = d) ((UnmountTools.unmounter (tableRunner l.table)).unmount path lazily)
      (fun _ h => TakenOut l path d h.disk) fun _ h => h.disk = d := by
  have hlast : (UnmountTools.arguments path lazily).getLastD "" = path := by
    cases lazily with
    | false => rfl
    | true => rfl
  have htools : ∀ tool ∈ UnmountTools.standard, Text.startsWith "fusermount" tool = true := by
    decide
  have hall := ensures_tryInOrder l (UnmountTools.arguments path lazily) d htools
    (.ofText "no unmount tool configured")
  rw [hlast] at hall
  exact Ensures.inContext hall

/-- **To unmount by the text of a key** is `OnlyMounts key`: it changes no record and no mount of
another key. When it worked, `key` is not mounted. -/
theorem onlyMounts_unmount (hkey : key ∈ keys) (lazily : Bool)
    (hh : (localObservation l keys).sound h) :
    (localObservation l keys).OnlyMounts key h
        (((UnmountTools.unmounter (tableRunner l.table)).unmount key.text lazily).runOn h).2 ∧
      ((((UnmountTools.unmounter (tableRunner l.table)).unmount key.text lazily).runOn h).1 = .ok () →
        (localObservation l keys
          (((UnmountTools.unmounter (tableRunner l.table)).unmount key.text lazily).runOn h).2).mounted
            key = .ok false) := by
  have hunmount := ensures_unmount l key.text lazily h.disk h rfl
  rcases hrun : ((UnmountTools.unmounter (tableRunner l.table)).unmount key.text lazily).runOn h
    with ⟨r, h'⟩
  rw [hrun] at hunmount
  dsimp only at hunmount ⊢
  cases r with
  -- an unmount that failed has left the disk as it was
  | error f => exact ⟨onlyMounts_of_disk hh hunmount, nofun⟩
  | ok _ =>
    obtain ⟨honly, hgone⟩ := TakenOut.onlyMounts hunmount hkey hh
    exact ⟨honly, fun _ => hgone⟩

/-! ### Stopping -/

section Stopping

-- what stopping keeps is not to be found out by running it, which would follow the path of a PID
-- file
attribute [local irreducible] Act.runOn

/-- `endProcess`, or the attempt at it, leaves the disk as it is. -/
theorem keeps_endProcess (verb : String) (kept : Processes → List UInt32) (pid : UInt32)
    (d : Disk) : Keeps (fun h => h.disk = d) (endProcess verb kept pid) := by
  refine Keeps.bind (keeps_disk_note _ d) fun _ => Keeps.look.bind fun h => ?_
  exact .ite (.fail _) (Ensures.change fun _ hs => hs)

/-- What keeps the disk keeps `SameElsewhere key h`. -/
theorem keeps_sameElsewhere {α : Type} {a : Act Host α} (ha : ∀ d, Keeps (fun h => h.disk = d) a)
    (key : SessionKey) (h : Host) : Keeps ((localObservation l keys).SameElsewhere key h) a :=
  .of_final fun s hs =>
    hs.trans (onlyMounts_of_disk hs.sound (Ensures.final (ha s.disk) rfl)).sameElsewhere

/-- **To stop a session** is `SameElsewhere session.key`: the process is asked to end, which leaves
the disk as it is, and the record is removed. -/
theorem sameElsewhere_stop (hnames : Set.InjOn PidFiles.fileName keys) (surroundings : Surroundings)
    (daemons : Bool) {session : Session} (hkey : session.key ∈ keys)
    (hh : (localObservation l keys).sound h) :
    (localObservation l keys).SameElsewhere session.key h
      (((localManager surroundings l daemons).supervisor.stop session).runOn h).2 := by
  -- to note the call, to end the process and to remove the record are what a stop is made of
  have hnote (event : String) : Keeps ((localObservation l keys).SameElsewhere session.key h)
      (note event) := keeps_sameElsewhere (keeps_disk_note event) _ _
  have hterminate (pid : UInt32) : Keeps ((localObservation l keys).SameElsewhere session.key h)
      (endProcess "terminate" (·.unterminable) pid) :=
    keeps_sameElsewhere (keeps_endProcess _ _ pid) _ _
  have hunregister : Keeps ((localObservation l keys).SameElsewhere session.key h)
      ((pidFiles l).unregister session.key) :=
    .of_final fun s hs => hs.trans (onlyRecord_unregister hnames hkey hs.sound).sameElsewhere
  have hstop : Keeps ((localObservation l keys).SameElsewhere session.key h)
      ((localSupervisor surroundings (pidFiles l)).stop session) :=
    LocalSupervisor.keeps_stop hunregister (fun _ => Keeps.look.bind fun _ => .pure _) hterminate
  have hnoted : Keeps ((localObservation l keys).SameElsewhere session.key h)
      ((localManager surroundings l daemons).supervisor.stop session) :=
    (hnote _).bind fun _ => hstop
  exact hnoted.final (.refl _ hh)

end Stopping

/-! ### The contract -/

/-- **The records, mounts and processes of a local platform** meet `Bookkeeping.Seen` for every set
of keys on which `PidFiles.fileName` is injective. -/
theorem seen_localBooks (surroundings : Surroundings) (l : Layout) (daemons : Bool)
    (hnames : Set.InjOn PidFiles.fileName keys) :
    (localManager surroundings l daemons).books.Seen (localObservation l keys) where
  lookup _ _ _ _ := rfl
  list _ _ := rfl
  isDisconnected _ _ _ _ := rfl
  isAlive _ _ _ := rfl
  unregister _ hkey _ hh := onlyRecord_unregister hnames hkey hh
  unregistered key _ h _ hworked := by
    have hregistry : (localManager surroundings l daemons).books.registry = pidFiles l := rfl
    rw [hregistry] at hworked
    rw [hregistry, record_localObservation]
    exact lookup_of_unregistered hworked
  unmount _ hkey lazily _ hh := (onlyMounts_unmount hkey lazily hh).1
  unmounted key hkey lazily h hh hworked hmounted := by
    have hgone := (onlyMounts_unmount hkey lazily hh).2 hworked
    exact absurd (Except.ok.inj (hgone.symm.trans hmounted)) (by decide)

/-- **What it takes to unmount on a local platform** meets `Teardown.Seen` for every set of keys on
which `PidFiles.fileName` is injective, on the disks with `l.Sound keys`. -/
theorem seen_localManager (surroundings : Surroundings) (l : Layout) (daemons : Bool)
    (hnames : Set.InjOn PidFiles.fileName keys) :
    (localManager surroundings l daemons).teardown.Seen (localObservation l keys) where
  books := seen_localBooks surroundings l daemons hnames
  own key _ h _ session hfound := by
    rw [record_localObservation] at hfound
    exact PidFiles.key_of_lookup hfound
  stop _ hkey _ hh := sameElsewhere_stop hnames surroundings daemons hkey hh
  print _ _ _ := rfl
  printed _ _ hh := ⟨rfl, hh⟩

/-! ### A host -/

/-- A host on which a process has died and has left its mount and its PID file. -/
def deserted : Host where
  surroundings := ⟨"/home/u", "/"⟩
  disk := { nodes := [(["work"], .directory),
    (["work", "_mnt_a.pid"], .file "7\n/mnt/a\n".toUTF8),
    (["mtab"], .file "cloudfuse /mnt/a fuse rw 0 0\ncloudfuse /mnt/b fuse rw 0 0\n".toUTF8)] }

/-- The keys of its two mounts. -/
def desertedKeys : Set SessionKey := {.ofPath "/mnt/a", .ofPath "/mnt/b"}

/-- The two keys of the example have PID files of their own. -/
theorem injOn_desertedKeys : Set.InjOn PidFiles.fileName desertedKeys := by
  rintro k (rfl | rfl) k' (rfl | rfl) hname
  · rfl
  · exact absurd hname (by decide)
  · exact absurd hname (by decide)
  · rfl

/-- The table of `deserted` is apart from the PID files of both keys, and has their mounts plainly.
-/
theorem sound_deserted : (localObservation (.under "/") desertedKeys).sound deserted where
  apart := by
    refine ⟨["mtab"], by decide +kernel, ?_⟩
    rintro k (rfl | rfl)
    · decide +kernel
    · decide +kernel
  plain text htext := by
    have hread : deserted.disk.readText (Layout.under "/").table
        = .ok "cloudfuse /mnt/a fuse rw 0 0\ncloudfuse /mnt/b fuse rw 0 0\n" := by decide +kernel
    obtain rfl := Except.ok.inj (hread.symm.trans htext)
    intro line hline path hown _
    have hall : ∀ line ∈ Text.lines
        "cloudfuse /mnt/a fuse rw 0 0\ncloudfuse /mnt/b fuse rw 0 0\n".toList, ∀ p ∈ ownPath? line,
        isLineOf (SessionKey.ofPath p).text (String.ofList line) = true := by decide +kernel
    exact hall line hline path hown

end Host

end Rehearsal

end MountKeeper
