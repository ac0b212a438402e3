import MountKeeper.Proofs.Disk.Contents
import MountKeeper.Proofs.Remount.Units
import MountKeeper.Proofs.Traced

/-! # What becomes of the unit directory

An installation changes one file of the unit directory, in two steps, and runs commands before and
behind that. A removal takes the file away.

* `Systemd.units` is what the unit directory holds, `Systemd.placed` what it holds with the unit of a
  record in its place.
* `ensures_units_install`, `ensures_units_uninstall`: what becomes of the directory, wherever a call
  fails.
* `Obliging.exists_install`, `Obliging.exists_uninstall`: when calls answer.
* `Systemd.noted` is the installer of which the commands are written down. `Joined` and `Prepared` say
  which commands make sure of a user.
* `Systemd.InstallerSpec`: what installations and removals come to. `installer_spec` is that they do, on every host on
  which the commands leave the unit directory alone. -/

namespace MountKeeper.Systemd

open Act RemountUnit

variable {σ : Type} (s : Systemd σ)

-- what an act ensures is not to be found out by running it, which would read the names of units
attribute [local irreducible] Act.runOn

/-! ## The directory -/

/-- What the unit directory holds. -/
def units (h : σ) : Path.Name → Except OsError Node :=
  (s.disk.get h).contents s.unitDir

/-- The name of the unit of a mount path, among the names in the directory. -/
def unitOf (key : SessionKey) : Path.Name := ⟨name key, plain_name key⟩

/-- The name under which the unit of a mount path is written first. -/
def stagedOf (key : SessionKey) : Path.Name := ⟨stagingName key, plain_stagingName key⟩

/-- `stagedOf key ≠ unitOf key`: a unit is written first under a name that is not its own. -/
theorem stagedOf_ne_unitOf (key : SessionKey) : stagedOf key ≠ unitOf key := fun h =>
  name_ne_stagingName key key (congrArg Subtype.val h).symm

/-- `stagingName key = name key ++ ".tmp"`. -/
theorem stagingName_eq (key : SessionKey) : stagingName key = name key ++ ".tmp" := by
  have hsuffix : ".service".toList ++ ".tmp".toList = ".service.tmp".toList := by decide
  rw [← String.toList_inj, toList_stagingName, String.toList_append, toList_name,
    List.append_assoc _ _ ".tmp".toList, hsuffix]

/-- The text of the unit of a record, as a file. -/
def rendered (record : RemountRecord) : Except OsError Node :=
  .ok (.file (render s.binary record).toUTF8)

/-- The directory with the unit of a record in its place, and nothing that was written first. -/
def placed (record : RemountRecord) (u : Path.Name → Except OsError Node) :
    Path.Name → Except OsError Node :=
  Function.update (Function.update u (stagedOf record.key) (.error .notFound)) (unitOf record.key)
    (s.rendered record)

/-- A host on which the disk is the one that was put there, and the programs that are run leave what the
unit directory holds alone. -/
structure Steady : Prop where
  get_put : ∀ d h, s.disk.get (s.disk.put d h) = d
  runs : ∀ program args u, Keeps (fun h => s.units h = u) (s.runner.run program args)

variable {s} {record : RemountRecord} {key : SessionKey} {u : Path.Name → Except OsError Node}

/-- What is found at `s.unitPath key` is what `s.units` has of it. -/
theorem find_unitPath (key : SessionKey) (h : σ) :
    (s.disk.get h).find (s.unitPath key) = s.units h (unitOf key) := by
  rw [units, Disk.contents, unitPath, unitOf]

/-- `pathExists` of `s.unitPath key` is whether `s.units h` finds something there. -/
theorem pathExists_unitPath (key : SessionKey) (h : σ) :
    (s.disk.get h).pathExists (s.unitPath key) = (s.units h (unitOf key)).isOk := by
  rw [Disk.pathExists, find_unitPath]

/-- `s.placed record u` differs from `u` in the unit alone, where nothing was written first. -/
theorem placed_eq (hstaged : u (stagedOf record.key) = .error .notFound) :
    s.placed record u = Function.update u (unitOf record.key) (s.rendered record) := by
  rw [placed, ← hstaged, Function.update_eq_self]

/-- `s.placed record` is idempotent: to place a unit again changes nothing. -/
theorem placed_placed : s.placed record (s.placed record u) = s.placed record u := by
  have hstaged : s.placed record u (stagedOf record.key) = .error .notFound := by
    rw [placed, Function.update_of_ne (stagedOf_ne_unitOf _), Function.update_self]
  rw [placed_eq hstaged, placed, Function.update_idem]

/-- `s.placed record u` has the rendered record as the unit of its key. -/
theorem placed_unitOf : s.placed record u (unitOf record.key) = s.rendered record :=
  Function.update_self _ _ _

/-- What was written first can be moved to its place, unless a directory stands there: this is the
only way for `rename` to fail. -/
theorem exists_rename {d : Disk}
    (hd : d.contents s.unitDir = Function.update u (stagedOf record.key) (s.rendered record))
    (hfree : u (unitOf record.key) ≠ .ok .directory) :
    ∃ d', d.rename (Path.join s.unitDir (stagingName record.key))
      (Path.join s.unitDir (name record.key)) = .ok d' := by
  have hthere : d.find (Path.join s.unitDir (name record.key ++ ".tmp")) = s.rendered record := by
    rw [← stagingName_eq]
    exact (congrFun hd (stagedOf record.key)).trans (Function.update_self _ _ _)
  have hfree' : d.find (Path.join s.unitDir (name record.key)) ≠ .ok .directory := by
    intro hdir
    refine hfree ?_
    rw [← Function.update_of_ne (stagedOf_ne_unitOf record.key).symm (s.rendered record) u, ← hd]
    exact hdir
  rw [stagingName_eq]
  exact Disk.exists_rename_append (plain_name record.key)
    (stagingName_eq record.key ▸ plain_stagingName record.key) hthere hfree'

/-! ## What becomes of it -/

section

variable (hs : s.Steady)

include hs

/-- `writeText` puts the unit beside its place, or changes nothing. -/
theorem ensures_units_write (record : RemountRecord) (u : Path.Name → Except OsError Node) :
    Ensures (fun h => s.units h = u)
      ((Disk.update (·.writeText (Path.join s.unitDir (stagingName record.key))
        (render s.binary record))).on s.disk)
      (fun _ h => s.units h = Function.update u (stagedOf record.key) (s.rendered record))
      fun _ h => s.units h = u := by
  refine ensures_update hs.get_put (P := fun d => d.contents s.unitDir = u)
    (Q := fun d => d.contents s.unitDir
      = Function.update u (stagedOf record.key) (s.rendered record))
    (E := fun d => d.contents s.unitDir = u) (fun d d' hd hwritten => ?_) fun _ _ hd _ => hd
  rw [Disk.contents_writeText (stagedOf record.key) hwritten, hd]
  rfl

/-- `rename` moves to its place what was written first, and fails only where a directory stands
there. -/
theorem ensures_units_move (record : RemountRecord) (u : Path.Name → Except OsError Node) :
    Ensures (fun h => s.units h = Function.update u (stagedOf record.key) (s.rendered record))
      ((Disk.update (·.rename (Path.join s.unitDir (stagingName record.key))
        (Path.join s.unitDir (name record.key)))).on s.disk)
      (fun _ h => s.units h = s.placed record u)
      fun _ _ => u (unitOf record.key) = .ok .directory := by
  refine ensures_update hs.get_put
    (P := fun d => d.contents s.unitDir
      = Function.update u (stagedOf record.key) (s.rendered record))
    (Q := fun d => d.contents s.unitDir = s.placed record u)
    (E := fun _ => u (unitOf record.key) = .ok .directory)
    (fun d d' hd hmoved => ?_) fun d e hd hmoved => ?_
  · have hthere : d.contents s.unitDir (stagedOf record.key) = s.rendered record := by
      rw [hd, Function.update_self]
    rw [Disk.contents_rename (stagedOf record.key) (unitOf record.key) (stagedOf_ne_unitOf _) hthere
      hmoved, hd, Function.update_idem]
    rfl
  · -- moving a file that is there fails on a directory in the way and on nothing else
    by_contra hfree
    obtain ⟨d', hd'⟩ := exists_rename hd hfree
    cases hmoved.symm.trans hd'

/-- **A unit is placed as a whole or not at all**, unless a directory stands in its way: then
`stagingName record.key` is left over. -/
theorem ensures_units_placeUnit (record : RemountRecord) (u : Path.Name → Except OsError Node) :
    Ensures (fun h => s.units h = u) (s.placeUnit record) (fun _ h => s.units h = s.placed record u)
      fun _ h => u (unitOf record.key) = .ok .directory ∨ s.units h = u := by
  dsimp only [placeUnit]
  rw [stagingPath_eq]
  refine Ensures.bind (((ensures_units_write hs record u).failing fun _ _ => .inr).inContext)
    fun _ => ?_
  exact ((ensures_units_move hs record u).failing fun _ _ => .inl).inContext

/-- `ensureUser user` leaves the unit directory as it is: it reads the account file and runs
programs. -/
theorem keeps_units_ensureUser (user : String) (u : Path.Name → Except OsError Node) :
    Keeps (fun h => s.units h = u) (s.ensureUser user) :=
  keeps_ensureUser (fun program args => hs.runs program args u)
    (keeps_query hs.get_put (fun d => d.contents s.unitDir = u) _) user

/-- **What becomes of the directory by an installation**, wherever that fails: nothing, `s.placed
record u`, or what a directory in the way leaves. -/
theorem ensures_units_install (record : RemountRecord) (u : Path.Name → Except OsError Node) :
    Ensures (fun h => s.units h = u) (s.install record)
      (fun unit h => unit = name record.key ∧ s.units h = s.placed record u)
      fun _ h => u (unitOf record.key) = .ok .directory ∨ s.units h = u ∨
        s.units h = s.placed record u := by
  have hruns := fun program args => hs.runs program args (s.placed record u)
  dsimp only [install]
  refine Ensures.bind ((keeps_units_ensureUser hs record.runAs u).failing fun _ _ h => .inr (.inl h))
    fun _ => ?_
  refine Ensures.bind ((ensures_units_placeUnit hs record u).failing fun _ _ h => ?_) fun _ => ?_
  · exact h.imp_right .inl
  refine Ensures.bind ((keeps_reload hruns).failing fun _ _ h => .inr (.inr h)) fun _ => ?_
  have henable := (hruns "systemctl" ["enable", name record.key]).inContext
    s!"failed to enable {name record.key}"
  refine Ensures.bind (henable.failing fun _ _ h => .inr (.inr h)) fun _ => ?_
  exact Ensures.pure fun h hplaced => ⟨rfl, hplaced⟩

end

/-- `Removed key u u'`: behind a removal, a unit that was a file is gone, and nothing else has
changed. -/
def Removed (key : SessionKey) (u u' : Path.Name → Except OsError Node) : Prop :=
  (∃ content, u (unitOf key) = .ok (.file content)) ∧
      u' = Function.update u (unitOf key) (.error .notFound) ∨
    (∀ content, u (unitOf key) ≠ .ok (.file content)) ∧ u' = u

section

variable (hs : s.Steady)

include hs

/-- `removeFile` takes the unit away where it is a file, and changes nothing where it is none. -/
theorem ensures_units_remove (key : SessionKey) (u : Path.Name → Except OsError Node) :
    Ensures (fun h => s.units h = u)
      ((Disk.update (·.removeFile (Path.join s.unitDir (name key)))).on s.disk)
      (fun _ h => (∃ content, u (unitOf key) = .ok (.file content)) ∧
        s.units h = Function.update u (unitOf key) (.error .notFound))
      fun _ h => (∀ content, u (unitOf key) ≠ .ok (.file content)) ∧ s.units h = u := by
  refine ensures_update hs.get_put (P := fun d => d.contents s.unitDir = u)
    (Q := fun d => (∃ content, u (unitOf key) = .ok (.file content)) ∧
      d.contents s.unitDir = Function.update u (unitOf key) (.error .notFound))
    (E := fun d => (∀ content, u (unitOf key) ≠ .ok (.file content)) ∧ d.contents s.unitDir = u)
    (fun d d' hd hremoved => ⟨?_, ?_⟩) fun d e hd hfailed => ⟨fun content hfile => ?_, hd⟩
  · obtain ⟨place, content, hres, hnode, -⟩ := Disk.exists_of_removeFile hremoved
    refine ⟨content, ?_⟩
    rw [← hd]
    exact Disk.find_of_file hres hnode (Path.wantsDirectory_join (plain_name key))
  · rw [Disk.contents_removeFile (unitOf key) hremoved, hd]
  · rw [← hd] at hfile
    obtain ⟨d', hd'⟩ := Disk.exists_removeFile hfile
    cases hfailed.symm.trans hd'

/-- **What becomes of the directory by a removal**, wherever that fails: `Removed key u` holds of
it. -/
theorem ensures_units_uninstall (key : SessionKey) (u : Path.Name → Except OsError Node) :
    Ensures (fun h => s.units h = u) (s.uninstall key)
      (fun _ h => (∃ content, u (unitOf key) = .ok (.file content)) ∧
        s.units h = Function.update u (unitOf key) (.error .notFound))
      fun _ h => Removed key u (s.units h) := by
  have hruns := fun program args =>
    hs.runs program args (Function.update u (unitOf key) (.error .notFound))
  dsimp only [uninstall]
  refine Ensures.bind (Q := fun x h => s.units x = u ∧ s.units h = u)
    (Ensures.look fun h hh => ⟨hh, hh⟩) fun x => Ensures.of_fact fun hx => ?_
  by_cases hthere : (s.disk.get x).pathExists (s.unitPath key) = true
  · rw [if_pos hthere]
    refine Ensures.bind (((ensures_units_remove hs key u).failing fun _ _ h => .inr h).inContext)
      fun _ => Ensures.of_fact fun hfile => ?_
    -- the unit is gone when the reload fails, which is why a failure leaves two cases
    exact (keeps_reload hruns).weaken (fun _ _ h => ⟨hfile, h⟩) fun _ _ h => .inl ⟨hfile, h⟩
  · rw [if_neg hthere]
    refine Ensures.refuse fun h hh => .inr ⟨fun content hfile => hthere ?_, hh⟩
    rw [pathExists_unitPath, hx, hfile]
    rfl

end

/-! ## The rest of the disk -/

section

variable (hget : ∀ d h, s.disk.get (s.disk.put d h) = d)
  (hruns : ∀ program args d, Keeps (fun h => s.disk.get h = d) (s.runner.run program args))
  (d : Disk)

include hruns

/-- What holds of the disk is kept by `s.runner.run`, as programs leave the disk alone. -/
theorem keeps_run_of_disk (P : Disk → Prop) (program : String) (args : List String) :
    Keeps (fun h => P (s.disk.get h)) (s.runner.run program args) := by
  refine Keeps.of_final fun h hP => ?_
  rw [(hruns program args (s.disk.get h)).final rfl]
  exact hP

omit hruns
include hget

/-- An operation that changes only files of the unit directory with names in `names'` keeps
`ChangedIn` for more names. -/
theorem keeps_changedIn {names names' : Set String} (hsub : names' ⊆ names)
    {f : Disk → Except OsError Disk}
    (hf : ∀ d d', f d = .ok d' → Disk.ChangedIn s.unitDir names' d d') :
    Keeps (fun h => Disk.ChangedIn s.unitDir names d (s.disk.get h)) ((Disk.update f).on s.disk) :=
  ensures_update hget (P := Disk.ChangedIn s.unitDir names d)
    (fun _ _ h hd' => (h.trans (hf _ _ hd')).mono (Set.union_subset subset_rfl hsub))
    fun _ _ h _ => h

include hruns

/-- An installation changes nothing on the disk but `stagingName record.key` and `name record.key`
in the unit directory. -/
theorem keeps_changedIn_install (record : RemountRecord) :
    Keeps (fun h => Disk.ChangedIn s.unitDir {stagingName record.key, name record.key} d
      (s.disk.get h)) (s.install record) := by
  have hrun := keeps_run_of_disk hruns
    (Disk.ChangedIn s.unitDir {stagingName record.key, name record.key} d)
  have hread := keeps_query hget
    (Disk.ChangedIn s.unitDir {stagingName record.key, name record.key} d) (·.readText s.passwd)
  -- only the two steps of placing the unit change the disk, each at a name of its own
  have hplace : Keeps (fun h => Disk.ChangedIn s.unitDir {stagingName record.key, name record.key} d
      (s.disk.get h)) (s.placeUnit record) := by
    dsimp only [placeUnit]
    rw [stagingPath_eq]
    refine Keeps.bind (Keeps.inContext _ ?_) fun _ => Keeps.inContext _ ?_
    · exact keeps_changedIn hget d (by simp) fun _ _ hwritten =>
        (Disk.changedIn_writeText (plain_stagingName record.key) hwritten).1
    · exact keeps_changedIn hget d subset_rfl fun _ _ hmoved =>
        (Disk.changedIn_rename (plain_stagingName record.key) (plain_name record.key) hmoved).1
  dsimp only [install]
  refine (keeps_ensureUser hrun hread _).bind fun _ => hplace.bind fun _ => ?_
  exact (keeps_reload hrun).bind fun _ => ((hrun _ _).inContext _).bind fun _ => .pure _

/-- A removal changes nothing on the disk but `name key` in the unit directory. -/
theorem keeps_changedIn_uninstall (key : SessionKey) :
    Keeps (fun h => Disk.ChangedIn s.unitDir {name key} d (s.disk.get h)) (s.uninstall key) := by
  dsimp only [uninstall]
  refine Keeps.look.bind fun x => .ite ((Keeps.inContext _ ?_).bind fun _ => ?_) (.fail _)
  · exact keeps_changedIn hget d subset_rfl fun _ _ hremoved =>
      (Disk.changedIn_removeFile (plain_name key) hremoved).1
  · exact keeps_reload (keeps_run_of_disk hruns _)

end

/-! ## When calls answer -/

/-- Commands that answer, and leave the disk alone. -/
def Obliging (s : Systemd σ) : Prop :=
  ∀ program args h, ∃ output h', (s.runner.run program args).runOn h = (.ok output, h') ∧
    s.disk.get h' = s.disk.get h

namespace Obliging

variable (ho : s.Obliging)

include ho

/-- `s.runner.run` answers, and keeps what holds of the disk. -/
theorem ensures_run (P : Disk → Prop) (program : String) (args : List String) :
    Ensures (fun h => P (s.disk.get h)) (s.runner.run program args)
      (fun _ h => P (s.disk.get h)) fun _ _ => False := by
  intro h hP
  obtain ⟨output, h', hrun, hdisk⟩ := ho program args h
  rw [hrun]
  rw [← hdisk] at hP
  exact hP

/-- `joinGroups user groups` answers, by induction on the groups. -/
theorem ensures_joinGroups (P : Disk → Prop) (user : String) (groups : List String) :
    Ensures (fun h => P (s.disk.get h)) (s.joinGroups user groups)
      (fun _ h => P (s.disk.get h)) fun _ _ => False := by
  induction groups with
  | nil => exact Ensures.pure fun _ hP => hP
  | cons group rest ih => exact Ensures.bind (ho.ensures_run P _ _).inContext fun _ => ih

/-- `reload` answers. -/
theorem ensures_reload (P : Disk → Prop) :
    Ensures (fun h => P (s.disk.get h)) s.reload (fun _ h => P (s.disk.get h)) fun _ _ => False := by
  unfold reload
  exact Ensures.bind (ho.ensures_run P _ _).inContext fun _ => Ensures.pure fun _ hP => hP

variable (hget : ∀ d h, s.disk.get (s.disk.put d h) = d)

include hget

/-- `ensureUser user` answers where the account file can be read. -/
theorem ensures_ensureUser {d : Disk} {text : String} (hread : d.readText s.passwd = .ok text)
    (user : String) :
    Ensures (fun h => s.disk.get h = d) (s.ensureUser user) (fun _ h => s.disk.get h = d)
      fun _ _ => False := by
  have hquery : Ensures (fun d' : Disk => d' = d) (Disk.query (·.readText s.passwd))
      (fun _ d' => d' = d) fun _ _ => False := by
    rintro _ rfl
    rw [Disk.runOn_query, hread]
  unfold ensureUser
  refine Ensures.bind (hquery.onPart hget).inContext fun _ => Ensures.ite (fun _ => ?_) fun _ => ?_
  · exact Ensures.pure fun _ hd => hd
  · refine Ensures.bind (ho.ensures_run (· = d) _ _).inContext fun _ => ?_
    exact (ho.ensures_run (· = d) _ _).bind fun _ => ho.ensures_joinGroups (· = d) _ _

omit ho

/-- `placeUnit record` answers where the unit can be written and no directory stands in its way. -/
theorem ensures_placeUnit {d d' : Disk}
    (hwrite : d.writeText (s.stagingPath record.key) (render s.binary record) = .ok d')
    (hfree : d.contents s.unitDir (unitOf record.key) ≠ .ok .directory) :
    Ensures (fun h => s.disk.get h = d) (s.placeUnit record) (fun _ _ => True)
      fun _ _ => False := by
  rw [stagingPath_eq] at hwrite
  -- the staged file stands after the write, and nothing is in its way: the move cannot fail
  obtain ⟨d'', hmove⟩ := exists_rename (Disk.contents_writeText (stagedOf record.key) hwrite) hfree
  dsimp only [placeUnit]
  rw [stagingPath_eq]
  refine Ensures.bind (Q := fun _ h => s.disk.get h = d') (Ensures.inContext ?_)
    fun _ => Ensures.inContext ?_
  · refine ensures_update hget (P := (· = d)) (Q := (· = d')) (E := fun _ => False) ?_ ?_
    · rintro _ d₁ rfl h₁
      exact Except.ok.inj (h₁.symm.trans hwrite)
    · rintro _ e rfl h₁
      cases h₁.symm.trans hwrite
  · refine ensures_update hget (P := (· = d')) (Q := fun _ => True) (E := fun _ => False)
      (fun _ _ _ _ => trivial) ?_
    rintro _ e rfl h₁
    cases h₁.symm.trans hmove

include ho

/-- **An installation answers** with `name record.key` where its three parts can be done: the user,
the unit, and the calls of the service manager. -/
theorem exists_install {h : σ} {text : String} {d' : Disk}
    (hread : (s.disk.get h).readText s.passwd = .ok text)
    (hwrite : (s.disk.get h).writeText (s.stagingPath record.key) (render s.binary record) = .ok d')
    (hfree : s.units h (unitOf record.key) ≠ .ok .directory) :
    ∃ h', (s.install record).runOn h = (.ok (name record.key), h') := by
  have hinstall : Ensures (fun h' => s.disk.get h' = s.disk.get h) (s.install record)
      (fun unit _ => unit = name record.key) fun _ _ => False := by
    dsimp only [install]
    refine Ensures.bind (ho.ensures_ensureUser hget hread _) fun _ => ?_
    refine Ensures.bind (ensures_placeUnit hget hwrite hfree) fun _ => ?_
    refine Ensures.bind (ho.ensures_reload fun _ => True) fun _ => ?_
    exact Ensures.bind (ho.ensures_run (fun _ => True) _ _).inContext fun _ =>
      Ensures.pure fun _ _ => rfl
  obtain ⟨unit, h', hrun, rfl⟩ := hinstall.exists_ok rfl
  exact ⟨h', hrun⟩

/-- **A removal answers** where there is a unit. -/
theorem exists_uninstall {h : σ} {content : ByteArray}
    (hfile : s.units h (unitOf key) = .ok (.file content)) :
    ∃ h', (s.uninstall key).runOn h = (.ok (), h') := by
  -- removing a file that is there cannot fail, and the reload is `Obliging`
  have hremove : Ensures (fun h' => s.disk.get h' = s.disk.get h)
      ((Disk.update (·.removeFile (s.unitPath key))).on s.disk) (fun _ _ => True)
      fun _ _ => False := by
    refine ensures_update hget (P := (· = s.disk.get h)) (Q := fun _ => True) (E := fun _ => False)
      (fun _ _ _ _ => trivial) ?_
    rintro _ e rfl hfailed
    rw [← find_unitPath] at hfile
    obtain ⟨d', hd'⟩ := Disk.exists_removeFile hfile
    cases hfailed.symm.trans hd'
  have huninstall : Ensures (fun h' => h' = h) (s.uninstall key) (fun _ _ => True)
      fun _ _ => False := by
    dsimp only [uninstall]
    refine Ensures.bind (Q := fun x h' => x = h ∧ s.disk.get h' = s.disk.get h) ?_
      fun x => Ensures.of_fact ?_
    · exact Ensures.look fun _ hh => ⟨hh, congrArg s.disk.get hh⟩
    · rintro rfl
      rw [pathExists_unitPath, hfile, Except.isOk, Except.toBool, if_pos rfl]
      exact hremove.inContext.bind fun _ => ho.ensures_reload fun _ => True
  obtain ⟨_, h', hrun, -⟩ := huninstall.exists_ok rfl
  exact ⟨h', hrun⟩

end Obliging

/-! ## The commands -/

/-- A command, and how it ended. -/
abbrev Entry := (String × List String) × Except Failure CommandOutput

/-- The installer of which the commands are written down. -/
def noted (s : Systemd σ) : Systemd (Traced σ Entry) where
  disk := Traced.part s.disk
  runner := ⟨fun program arguments =>
    (s.runner.run program arguments).answered (program, arguments)⟩
  unitDir := s.unitDir
  passwd := s.passwd
  binary := s.binary

/-- `s.noted.joinGroups` follows `s.joinGroups`, by induction on the groups. -/
theorem follows_joinGroups (user : String) (groups : List String) :
    Follows (s.noted.joinGroups user groups) (s.joinGroups user groups) := by
  induction groups with
  | nil => exact .pure _
  | cons group rest ih => exact ((Follows.answered _ _).inContext _).bind fun _ => ih

/-- `s.noted.ensureUser` follows `s.ensureUser`. -/
theorem follows_ensureUser (user : String) :
    Follows (s.noted.ensureUser user) (s.ensureUser user) := by
  refine (Follows.inContext _ ⟨_, Shadows.on _ s.disk⟩).bind fun text => .ite (.pure _) ?_
  refine ((Follows.answered _ _).inContext _).bind fun _ => (Follows.answered _ _).bind fun groups => ?_
  exact follows_joinGroups user _

/-- `s.noted.reload` follows `s.reload`. -/
theorem follows_reload : Follows s.noted.reload s.reload :=
  ((Follows.answered _ _).inContext _).bind fun _ => .pure _

/-- `s.noted.placeUnit` follows `s.placeUnit`: no program is run there. -/
theorem follows_placeUnit (record : RemountRecord) :
    Follows (s.noted.placeUnit record) (s.placeUnit record) :=
  (Follows.inContext _ ⟨_, Shadows.on _ s.disk⟩).bind fun _ =>
    Follows.inContext _ ⟨_, Shadows.on _ s.disk⟩

/-- `s.noted.install` follows `s.install`: to be written about changes nothing of an installation.
-/
theorem follows_install (record : RemountRecord) :
    Follows (s.noted.install record) (s.install record) :=
  (follows_ensureUser record.runAs).bind fun _ => (follows_placeUnit record).bind fun _ =>
    follows_reload.bind fun _ => ((Follows.answered _ _).inContext _).bind fun _ => .pure _

/-- `s.noted.uninstall` follows `s.uninstall`: to be written about changes nothing of a removal. -/
theorem follows_uninstall (key : SessionKey) :
    Follows (s.noted.uninstall key) (s.uninstall key) := by
  refine Follows.look (fun h => if (s.disk.get h).pathExists (s.unitPath key) then _ else _)
    fun h => Follows.ite ?_ (.refuse _)
  exact (Follows.inContext _ ⟨_, Shadows.on _ s.disk⟩).bind fun _ => follows_reload

/-- The text of an account file has a line whose first field is the name of the user. -/
def Listed (user text : String) : Prop :=
  ∃ line ∈ Text.lines text.toList, line.takeWhile (· != ':') = user.toList

/-- The first field of a line is what stands before its first colon: `takeWhile (· != ':')`. -/
theorem exists_splitOn_eq (line : List Char) :
    ∃ rest, line.splitOn ':' = line.takeWhile (· != ':') :: rest := by
  induction line with
  | nil => exact ⟨[], rfl⟩
  | cons c line ih =>
    obtain ⟨rest, hrest⟩ := ih
    unfold List.splitOn at hrest ⊢
    rw [List.splitOnP_cons_eq_if_modifyHead, hrest]
    by_cases hc : c = ':'
    · simp [hc]
    · simp [hc]

/-- `hasUser user text` finds what `Listed user text` says. -/
theorem hasUser_iff {user text : String} : hasUser user text = true ↔ Listed user text := by
  have hline : ∀ line : List Char, isLineOf user line = true ↔
      line.takeWhile (· != ':') = user.toList := by
    intro line
    obtain ⟨rest, hrest⟩ := exists_splitOn_eq line
    rw [isLineOf, hrest]
    exact beq_iff_eq
  rw [hasUser, List.any_eq_true]
  exact exists_congr fun line => and_congr_right fun _ => hline line

/-- The commands by which a user has joined groups, one for each, in order. -/
structure Joined (user : String) (groups : List String) (ran : List Entry) : Prop where
  commands : ran.map (·.1) = groups.map fun group => ("usermod", ["-aG", group, user])
  answered : ∀ e ∈ ran, ∃ output, e.2 = .ok output

/-- The commands by which it was made sure that there is a user. -/
inductive Prepared (user text : String) : List Entry → Prop
  /-- None for one that the account file lists. -/
  | listed (h : Listed user text) : Prepared user text []
  /-- Any other one is made, and joins the groups that are listed then. -/
  | made {output groups : CommandOutput} {joined : List Entry} (h : ¬ Listed user text)
    (hjoined : Joined user (Text.wordsOf groups.stdout) joined) :
    Prepared user text
      ((("useradd", ["-m", user]), .ok output) :: (("id", ["-G"]), .ok groups) :: joined)

section

variable (T : List Entry)

/-- A program that is run stands behind the trace, with its output: `((program, arguments), .ok
output)`. -/
theorem ensures_noted_run (program : String) (arguments : List String) :
    Ensures (fun t => t.trace = T) (s.noted.runner.run program arguments)
      (fun output t => t.trace = T ++ [((program, arguments), .ok output)]) fun _ _ => True := by
  rintro ⟨h, _⟩ rfl
  rw [noted, runOn_answered]
  rcases (s.runner.run program arguments).runOn h with ⟨_ | _, h'⟩
  · trivial
  · rfl

/-- What is done on `s.noted.disk` leaves the trace as it is. -/
theorem keeps_noted_disk {α : Type} (a : Act Disk α) :
    Keeps (fun t => t.trace = T) (a.on s.noted.disk) := by
  rintro ⟨h, _⟩ rfl
  rw [noted, Shadows.on a s.disk, List.append_nil]
  rcases (a.on s.disk).runOn h with ⟨_ | _, h'⟩ <;> rfl

/-- `joinGroups user groups` runs one program for each group, in order. -/
theorem ensures_noted_joinGroups (user : String) (groups : List String) :
    Ensures (fun t => t.trace = T) (s.noted.joinGroups user groups)
      (fun _ t => ∃ ran, Joined user groups ran ∧ t.trace = T ++ ran) fun _ _ => True := by
  -- by induction on the groups: the others are joined behind the command for the first one
  induction groups generalizing T with
  | nil => exact Ensures.pure fun t ht => ⟨[], ⟨rfl, by simp⟩, by rw [ht, List.append_nil]⟩
  | cons group rest ih =>
    refine Ensures.bind (ensures_noted_run T "usermod" ["-aG", group, user]).inContext
      fun output => (ih _).weaken ?_ fun _ _ _ => trivial
    rintro - t ⟨ran, hran, ht⟩
    refine ⟨(("usermod", ["-aG", group, user]), .ok output) :: ran, ⟨?_, ?_⟩, ?_⟩
    · rw [List.map_cons, List.map_cons, hran.commands]
    · simp only [List.forall_mem_cons]
      exact ⟨⟨output, rfl⟩, hran.answered⟩
    · rw [ht, List.append_assoc, List.singleton_append]

/-- `reload` runs `systemctl daemon-reload`. -/
theorem ensures_noted_reload :
    Ensures (fun t => t.trace = T) s.noted.reload
      (fun _ t => ∃ output, t.trace = T ++ [(("systemctl", ["daemon-reload"]), .ok output)])
      fun _ _ => True :=
  Ensures.bind (ensures_noted_run T _ _).inContext fun output =>
    Ensures.pure fun _ ht => ⟨output, ht⟩

end

/-- **The programs that make sure of a user** go by the account file: none for a user that is
listed, and else those of `Prepared`. -/
theorem ensures_noted_ensureUser (user : String) (d : Disk) :
    Ensures (fun t => s.disk.get t.host = d ∧ t.trace = []) (s.noted.ensureUser user)
      (fun _ t => ∃ text, d.readText s.passwd = .ok text ∧ Prepared user text t.trace)
      fun _ _ => True := by
  have hread : Ensures (fun t => s.disk.get t.host = d ∧ t.trace = [])
      ((Disk.query (·.readText s.passwd)).on s.noted.disk)
      (fun text t => d.readText s.passwd = .ok text ∧ t.trace = []) fun _ _ => True := by
    rintro ⟨h, _⟩ ⟨rfl, rfl⟩
    rw [noted, Shadows.on _ s.disk, runOn_on, Disk.runOn_query]
    cases (s.disk.get h).readText s.passwd with
    | error e => trivial
    | ok text => exact ⟨rfl, rfl⟩
  refine Ensures.bind hread.inContext fun text => Ensures.of_fact fun htext => ?_
  refine Ensures.ite (fun hlisted => ?_) fun hnot => ?_
  · exact Ensures.pure fun t ht => ⟨text, htext, ht ▸ .listed (hasUser_iff.1 hlisted)⟩
  refine Ensures.bind (ensures_noted_run [] "useradd" ["-m", user]).inContext fun output => ?_
  refine Ensures.bind (ensures_noted_run _ "id" ["-G"]) fun groups => ?_
  refine (ensures_noted_joinGroups _ user (Text.wordsOf groups.stdout)).weaken ?_ fun _ _ _ => trivial
  rintro - t ⟨joined, hjoined, ht⟩
  refine ⟨text, htext, ?_⟩
  rw [ht]
  exact .made (fun hlisted => hnot (hasUser_iff.2 hlisted)) hjoined

/-- **The programs of an installation**: those that make sure of the user, and behind them
`systemctl` twice, to reload and to enable the unit. -/
theorem ensures_noted_install (record : RemountRecord) (d : Disk) :
    Ensures (fun t => s.disk.get t.host = d ∧ t.trace = []) (s.noted.install record)
      (fun _ t => ∃ text ran reloaded enabled, d.readText s.passwd = .ok text ∧
        Prepared record.runAs text ran ∧
        t.trace = ran ++ [(("systemctl", ["daemon-reload"]), .ok reloaded),
          (("systemctl", ["enable", name record.key]), .ok enabled)])
      fun _ _ => True := by
  refine Ensures.bind (Q := fun _ t => ∃ ran, (∃ text, d.readText s.passwd = .ok text ∧
    Prepared record.runAs text ran) ∧ t.trace = ran) ?_ fun _ => ?_
  · exact (ensures_noted_ensureUser record.runAs d).weaken (fun _ t ht => ⟨t.trace, ht, rfl⟩)
      fun _ _ _ => trivial
  refine Ensures.of_exists fun ran => Ensures.of_fact fun ⟨text, htext, hran⟩ => ?_
  -- placing the unit calls no program, so the calls so far stay those of the account
  have hplace : Keeps (fun t => t.trace = ran) (s.noted.placeUnit record) :=
    ((keeps_noted_disk ran _).inContext _).bind fun _ => (keeps_noted_disk ran _).inContext _
  refine Ensures.bind (hplace.failing fun _ _ _ => trivial) fun _ => ?_
  refine Ensures.bind (ensures_noted_reload ran) fun _ => Ensures.of_exists fun reloaded => ?_
  refine Ensures.bind (ensures_noted_run _ "systemctl" ["enable", name record.key]).inContext
    fun enabled => Ensures.pure fun t ht => ?_
  exact ⟨text, ran, reloaded, enabled, htext, hran, by rw [ht, List.append_assoc]; rfl⟩

/-- The program of a removal is `systemctl daemon-reload`. -/
theorem ensures_noted_uninstall (key : SessionKey) :
    Ensures (fun t => t.trace = []) (s.noted.uninstall key)
      (fun _ t => ∃ output, t.trace = [(("systemctl", ["daemon-reload"]), .ok output)])
      fun _ _ => True := by
  dsimp only [uninstall]
  refine Ensures.bind (Q := fun _ t => t.trace = []) (Ensures.look fun _ ht => ht) fun x => ?_
  refine Ensures.ite (fun _ => ?_) fun _ => Ensures.refuse fun _ _ => trivial
  have hremove := keeps_noted_disk (s := s) []
    (Disk.update (·.removeFile (s.noted.unitPath key)))
  refine Ensures.bind (hremove.failing fun _ _ _ => trivial).inContext fun _ => ?_
  exact ensures_noted_reload []

/-- Where nothing stands in the place of the unit, `s.uninstall key` is refused at once, and the
host is as it was. -/
theorem ensures_uninstall_absent {h : σ} {e : OsError}
    (habsent : s.units h (unitOf key) = .error e) :
    Ensures (fun h' => h' = h) (s.uninstall key) (fun _ _ => False) fun f h' =>
      f = .ofSession (.validation s!"no remount service installed for {key.text}") ∧ h' = h := by
  dsimp only [uninstall]
  refine Ensures.bind (Q := fun x h' => x = h ∧ h' = h) (Ensures.look fun _ hh => ⟨hh, hh⟩)
    fun x => Ensures.of_fact ?_
  rintro rfl
  rw [pathExists_unitPath, habsent, Except.isOk, Except.toBool, if_neg Bool.false_ne_true]
  exact Ensures.refuse fun _ hh => ⟨rfl, hh⟩

/-- `s.noted.units` of a traced host are those of the host. -/
theorem units_noted (t : Traced σ Entry) : s.noted.units t = s.units t.host := rfl

/-- Where a directory stands in the place of the unit, `s.uninstall key` fails before it runs
anything. -/
theorem ensures_uninstall_blocked (hs : s.Steady) (hdir : u (unitOf key) = .ok .directory) :
    Ensures (Told (fun h => s.units h = u) []) (s.noted.uninstall key) (fun _ _ => False)
      fun _ => Told (fun h => s.units h = u) [] := by
  have hremove : Ensures (Told (fun h => s.units h = u) [])
      ((Disk.update (·.removeFile (s.noted.unitPath key))).on s.noted.disk)
      (fun _ _ => False) fun _ => Told (fun h => s.units h = u) [] := by
    refine ((ensures_units_remove hs key u).told (Shadows.on _ s.disk) []).weaken ?_
      fun f t ht => ⟨ht.1.2, ht.2⟩
    rintro - t ⟨⟨⟨content, hfile⟩, -⟩, -⟩
    rw [hdir] at hfile
    cases hfile
  dsimp only [uninstall]
  refine Ensures.bind (Q := fun x t => s.units x.host = u ∧ Told (fun h => s.units h = u) [] t)
    ?_ fun x => Ensures.of_fact fun hx => ?_
  · exact Ensures.look fun _ ht => ⟨ht.1, ht⟩
  · rw [pathExists_unitPath, units_noted, hx, hdir]
    exact hremove.inContext.bind fun _ _ hf => hf.elim

/-! ## Installations and removals -/

/-- What installations and removals of units come to, from a host on. -/
structure InstallerSpec (s : Systemd σ) (h : σ) : Prop where
  /-- An installation that answers has put the unit in its place, and that is all that has changed in
  the directory, but that nothing is left of what was written first. -/
  installed : ∀ record unit h', (s.install record).runOn h = (.ok unit, h') →
    unit = name record.key ∧ s.units h' = s.placed record (s.units h)
  /-- It has run the commands that make sure of the user, then let the service manager read its units
  again, and then enabled the unit. -/
  commands : ∀ record unit h', (s.install record).runOn h = (.ok unit, h') →
    ∃ text ran reloaded enabled, (s.disk.get h).readText s.passwd = .ok text ∧
      Prepared record.runAs text ran ∧
      (s.noted.install record).runOn ⟨h, []⟩ = (.ok unit, ⟨h', ran ++
        [(("systemctl", ["daemon-reload"]), .ok reloaded),
          (("systemctl", ["enable", unit]), .ok enabled)]⟩)
  /-- Where it cannot make sure of the user, it fails and leaves the directory as it is. -/
  undone : ∀ record f h', (s.ensureUser record.runAs).runOn h = (.error f, h') →
    (s.install record).runOn h = (.error f, h') ∧ s.units h' = s.units h
  /-- However it ends, the unit is in its place or the directory is as it was, unless another directory
  stands in the way. -/
  whole : ∀ record r h', (s.install record).runOn h = (r, h') →
    s.units h (unitOf record.key) ≠ .ok .directory →
      s.units h' = s.units h ∨ s.units h' = s.placed record (s.units h)
  /-- To install the same record again leaves the directory as it is, however that ends. -/
  again : ∀ record unit h' r h'', (s.install record).runOn h = (.ok unit, h') →
    (s.install record).runOn h' = (r, h'') → s.units h'' = s.units h'
  /-- A removal that answers has taken a file away, and that is all that has changed in the directory.
  It has let the service manager read its units again. -/
  removed : ∀ key h', (s.uninstall key).runOn h = (.ok (), h') →
    (∃ content, s.units h (unitOf key) = .ok (.file content)) ∧
      s.units h' = Function.update (s.units h) (unitOf key) (.error .notFound) ∧
      ∃ output, (s.noted.uninstall key).runOn ⟨h, []⟩
        = (.ok (), ⟨h', [(("systemctl", ["daemon-reload"]), .ok output)]⟩)
  /-- Where nothing stands in the place of the unit, a removal is refused, changes nothing and runs
  nothing. -/
  absent : ∀ key e, s.units h (unitOf key) = .error e →
    (s.noted.uninstall key).runOn ⟨h, []⟩ = (.error (.ofSession
      (.validation s!"no remount service installed for {key.text}")), ⟨h, []⟩)
  /-- Where a directory stands there, it fails, leaves the unit directory as it is and runs nothing. -/
  blocked : ∀ key, s.units h (unitOf key) = .ok .directory → ∃ f h',
    (s.noted.uninstall key).runOn ⟨h, []⟩ = (.error f, ⟨h', []⟩) ∧ s.units h' = s.units h
  /-- An installation where nothing was, and a removal behind it, leave the directory as it was, however
  they end. -/
  restored : ∀ record r h' r' h'', s.units h (unitOf record.key) = .error .notFound →
    s.units h (stagedOf record.key) = .error .notFound →
    (s.install record).runOn h = (r, h') → (s.uninstall record.key).runOn h' = (r', h'') →
      s.units h'' = s.units h
  /-- Commands that leave the whole disk alone are called by installations and removals that leave it
  alone, but for the files of the unit. -/
  elsewhere : (∀ program args d, Keeps (fun h => s.disk.get h = d) (s.runner.run program args)) →
    (∀ record r h', (s.install record).runOn h = (r, h') →
      Disk.ChangedIn s.unitDir {stagingName record.key, name record.key} (s.disk.get h)
        (s.disk.get h')) ∧
    ∀ key r h', (s.uninstall key).runOn h = (r, h') →
      Disk.ChangedIn s.unitDir {name key} (s.disk.get h) (s.disk.get h')
  /-- Where every command answers and leaves the disk alone, an installation answers for which the
  account file can be read and the unit be written, and so does a removal of a file that is there. -/
  answers : s.Obliging →
    (∀ record text d', (s.disk.get h).readText s.passwd = .ok text →
      (s.disk.get h).writeText (s.stagingPath record.key) (render s.binary record) = .ok d' →
      s.units h (unitOf record.key) ≠ .ok .directory →
        ∃ h', (s.install record).runOn h = (.ok (name record.key), h')) ∧
    ∀ key content, s.units h (unitOf key) = .ok (.file content) →
      ∃ h', (s.uninstall key).runOn h = (.ok (), h')
  /-- What is written about the calls is what they do. -/
  noted : (∀ record, Follows (s.noted.install record) (s.install record)) ∧
    ∀ key, Follows (s.noted.uninstall key) (s.uninstall key)

section

variable (hs : s.Steady) {h h' h'' : σ}

include hs

/-- However `s.install record` ends, the unit is in its place or the unit directory is as it was. -/
theorem units_of_install {r : Except Failure String} (hrun : (s.install record).runOn h = (r, h'))
    (hfree : s.units h (unitOf record.key) ≠ .ok .directory) :
    s.units h' = s.units h ∨ s.units h' = s.placed record (s.units h) := by
  have hends := ensures_units_install hs record (s.units h)
  cases r with
  | ok unit => exact .inr (hends.of_ok rfl hrun).2
  | error f => exact (hends.of_error rfl hrun).resolve_left hfree

/-- However a removal ends, `Removed key` holds of the directories before and behind it. -/
theorem removed_of_uninstall {r : Except Failure Unit} (hrun : (s.uninstall key).runOn h = (r, h')) :
    Removed key (s.units h) (s.units h') := by
  have hends := ensures_units_uninstall hs key (s.units h)
  cases r with
  | ok => exact .inl (hends.of_ok rfl hrun)
  | error f => exact hends.of_error rfl hrun

/-- **To install a record again changes nothing**: `placed_placed`, or a failure that has changed
nothing. -/
theorem units_of_install_again {unit : String} {r : Except Failure String}
    (hfirst : (s.install record).runOn h = (.ok unit, h'))
    (hsecond : (s.install record).runOn h' = (r, h'')) : s.units h'' = s.units h' := by
  have hplaced := ((ensures_units_install hs record (s.units h)).of_ok rfl hfirst).2
  have hfree : s.units h' (unitOf record.key) ≠ .ok .directory := by
    rw [hplaced, placed_unitOf, rendered]
    nofun
  rcases units_of_install hs hsecond hfree with hsame | hagain
  · exact hsame
  · rw [hagain, hplaced, placed_placed]

/-- **A removal undoes an installation** where nothing was before: what the one put there the other
takes away, so `s.units h'' = s.units h`. -/
theorem units_of_install_uninstall {r : Except Failure String} {r' : Except Failure Unit}
    (hunit : s.units h (unitOf record.key) = .error .notFound)
    (hstaged : s.units h (stagedOf record.key) = .error .notFound)
    (hinstall : (s.install record).runOn h = (r, h'))
    (huninstall : (s.uninstall record.key).runOn h' = (r', h'')) : s.units h'' = s.units h := by
  have hfree : s.units h (unitOf record.key) ≠ .ok .directory := by
    rw [hunit]
    nofun
  rcases units_of_install hs hinstall hfree with hsame | hplaced <;>
    rcases removed_of_uninstall hs huninstall with ⟨⟨content, hfile⟩, hgone⟩ | ⟨hnone, hkept⟩
  · -- nothing was installed, so that no file can have been removed
    rw [hsame, hunit] at hfile
    cases hfile
  · rw [hkept, hsame]
  · rw [hgone, hplaced, placed_eq hstaged, Function.update_idem, ← hunit, Function.update_eq_self]
  · -- the unit is a file, which is removed
    refine absurd ?_ (hnone (render s.binary record).toUTF8)
    rw [hplaced, placed_unitOf, rendered]

end

/-- **Installations and removals of units** come to `InstallerSpec`, on every host on which the
programs that are run leave the unit directory alone. Each field is one of the results above. -/
theorem installer_spec (hs : s.Steady) (h : σ) : s.InstallerSpec h where
  installed record unit h' hrun := (ensures_units_install hs record (s.units h)).of_ok rfl hrun
  -- the calls are those of the run that writes them down, which ends as the plain run does
  commands record unit h' hrun := by
    obtain ⟨rfl, -⟩ := (ensures_units_install hs record (s.units h)).of_ok rfl hrun
    obtain ⟨T, hnoted⟩ := (follows_install record).runOn_eq hrun []
    obtain ⟨text, ran, reloaded, enabled, htext, hran, hT⟩ :=
      (ensures_noted_install record (s.disk.get h)).of_ok ⟨rfl, rfl⟩ hnoted
    obtain rfl : T = _ := hT
    exact ⟨text, ran, reloaded, enabled, htext, hran, hnoted⟩
  undone record f h' hrun := by
    refine ⟨?_, (keeps_units_ensureUser hs record.runAs (s.units h)).of_error rfl hrun⟩
    dsimp only [install]
    rw [runOn_bind, hrun]
  whole record r h' hrun hfree := units_of_install hs hrun hfree
  again record unit h' r h'' hfirst hsecond := units_of_install_again hs hfirst hsecond
  removed key h' hrun := by
    obtain ⟨hfile, hgone⟩ := (ensures_units_uninstall hs key (s.units h)).of_ok rfl hrun
    obtain ⟨T, hnoted⟩ := (follows_uninstall key).runOn_eq hrun []
    obtain ⟨output, hT⟩ := (ensures_noted_uninstall key).of_ok rfl hnoted
    obtain rfl : T = _ := hT
    exact ⟨hfile, hgone, output, hnoted⟩
  -- an uninstall of a unit that is not there can only fail, and has called nothing
  absent key e habsent := by
    have hends := ensures_uninstall_absent (s := s.noted) (h := ⟨h, []⟩) habsent
    rcases hrun : (s.noted.uninstall key).runOn ⟨h, []⟩ with ⟨_ | _, t⟩
    · obtain ⟨rfl, rfl⟩ := hends.of_error rfl hrun
      rfl
    · exact (hends.of_ok rfl hrun).elim
  blocked key hdir := by
    have hends := ensures_uninstall_blocked (u := s.units h) hs hdir
    have hstart : Told (fun h' => s.units h' = s.units h) ([] : List Entry) ⟨h, []⟩ := ⟨rfl, rfl⟩
    rcases hrun : (s.noted.uninstall key).runOn ⟨h, []⟩ with ⟨f | _, ⟨h', T⟩⟩
    · obtain ⟨hsame, rfl⟩ := hends.of_error hstart hrun
      exact ⟨f, h', rfl, hsame⟩
    · exact (hends.of_ok hstart hrun).elim
  restored record r h' r' h'' hunit hstaged hinstall huninstall :=
    units_of_install_uninstall hs hunit hstaged hinstall huninstall
  elsewhere hruns := by
    refine ⟨fun record r h' hrun => ?_, fun key r h' hrun => ?_⟩
    · exact (keeps_changedIn_install hs.get_put hruns _ record).behind (.refl _ _ _) hrun
    · exact (keeps_changedIn_uninstall hs.get_put hruns _ key).behind (.refl _ _ _) hrun
  answers ho :=
    ⟨fun _ _ _ => ho.exists_install hs.get_put, fun _ _ => ho.exists_uninstall hs.get_put⟩
  noted := ⟨follows_install, follows_uninstall⟩

end MountKeeper.Systemd

/-! ### A user that is made -/

namespace MountKeeper.Rehearsal.Host

open Act

/-- The units of a host with `Programs` are steady. -/
theorem steady_ruledUnits : ruledUnits.Steady where
  get_put _ _ := rfl
  runs program args u := by
    have hnote (event : String) : Keeps (fun h => ruledUnits.units h = u) (note event) :=
      Ensures.change fun _ hunits => hunits
    refine Keeps.look.bind fun h => (hnote _).bind fun _ => ?_
    exact Ensures.ofExcept (fun _ _ _ hunits => hunits) fun _ _ _ hunits => hunits

/-- A host with an old unit and with an account whose name starts like that of the user. -/
def accountless : Host where
  surroundings := ⟨"/root", "/"⟩
  disk := { nodes := [(["units"], .directory),
    (["units", "cloudfuse-mnt-data.service"], .file "old".toUTF8),
    (["passwd"], .file "svcadmin:x:1001:1001::/home/a:/bin/sh\n".toUTF8)] }
  programs := { rules := [("id -G", .succeeds "27 100\n")] }

/-- `installer_spec` at a user that has to be made: the programs of the installation, one for each
of the two groups, and the unit behind them. -/
theorem installer_spec_accountless :
    ruledUnits.Steady ∧ ruledUnits.InstallerSpec accountless ∧
    ∃ h', (ruledUnits.install ⟨.ofPath "/mnt/data", "c", "svc"⟩).runOn accountless
      = (.ok "cloudfuse-mnt-data.service", h') ∧
      h'.events = ["run useradd -m svc", "run id -G", "run usermod -aG 27 svc",
        "run usermod -aG 100 svc", "run systemctl daemon-reload",
        "run systemctl enable cloudfuse-mnt-data.service"] := by
  refine ⟨steady_ruledUnits, Systemd.installer_spec steady_ruledUnits accountless, ?_⟩
  have hrun : ((ruledUnits.install ⟨.ofPath "/mnt/data", "c", "svc"⟩).runOn accountless).1.toOption
      = some "cloudfuse-mnt-data.service" := by decide +kernel
  exact ⟨_, runOn_of_toOption hrun, by decide +kernel⟩

end MountKeeper.Rehearsal.Host
