import MountKeeper.Proofs.Act
import MountKeeper.Proofs.Disk.Change
import MountKeeper.Proofs.SessionKey
import MountKeeper.Rehearsal.System
import MountKeeper.Remount.Systemd

/-! # The units of different mounts

The unit of a mount is found by the name of its file, in which the slashes of the key are dashes. What
is done about one mount leaves the units of the others alone as far as their names are different.

* `Systemd.unitFile` is what stands at the place of a key's unit.
* `keeps_install`, `keeps_uninstall`: the unit files with other names stay, whether a call answers or
  fails. `ensures_install`, `ensures_uninstall`: what becomes of the unit file of the key itself.
* `Systemd.Independent`: the units of the keys of a set are independent, behind every history of
  calls. `independent_iff` is the exact condition, that the keys have different unit names;
  `RemountUnit.injOn_name` has it for keys without dashes. -/

namespace MountKeeper

/-! ## Names -/

namespace RemountUnit

variable (key : SessionKey)

/-- `name key` is `cloudfuse`, the stem of the key and `.service`. -/
theorem toList_name :
    (name key).toList = "cloudfuse".toList ++ (key.fileStem '-').toList ++ ".service".toList := by
  rw [name, String.toList_append, String.toList_append]

/-- `name key = name key'` where the keys have the same stem: the ends of the names are the same. -/
theorem name_eq_iff {key key' : SessionKey} :
    name key = name key' ↔ key.fileStem '-' = key'.fileStem '-' := by
  refine ⟨fun h => ?_, fun h => by rw [name, name, h]⟩
  have hlist := congrArg String.toList h
  rw [toList_name, toList_name, List.append_cancel_right_eq, List.append_cancel_left_eq] at hlist
  exact String.toList_inj.1 hlist

/-- **Keys without dashes have different unit names**: `name` is injective on them. The stem writes
a dash for every slash, and can be read back where the dashes are no others. -/
theorem injOn_name : Set.InjOn name {key | '-' ∉ key.text.toList} :=
  fun _ hkey _ hkey' h => SessionKey.fileStem_injOn '-' hkey hkey' (name_eq_iff.1 h)

/-- A unit name ends in `e`. -/
theorem getLast?_name : (name key).toList.getLast? = some 'e' := by
  rw [toList_name, List.getLast?_append]
  rfl

/-- **Every key has a unit name that a file can have**: no slash is in it, and it is neither `.` nor
`..`. -/
theorem plain_name : Path.Plain (name key) := by
  refine Path.plain_of_getLast? (getLast?_name key) (by decide) ?_
  rw [toList_name, List.mem_append, List.mem_append, not_or, not_or]
  exact ⟨⟨by decide, key.slash_not_mem_fileStem (by decide)⟩, by decide⟩

/-- The name under which a unit is written before it is put in its place. -/
def stagingName : String :=
  "cloudfuse" ++ key.fileStem '-' ++ "." ++ "service.tmp"

/-- `stagingName key` is `name key` with `.tmp` behind it. -/
theorem toList_stagingName : (stagingName key).toList
    = "cloudfuse".toList ++ (key.fileStem '-').toList ++ ".service.tmp".toList := by
  rw [stagingName, String.toList_append, String.toList_append, String.toList_append,
    List.append_assoc]
  rfl

/-- Such a name ends in `p`. -/
theorem getLast?_stagingName : (stagingName key).toList.getLast? = some 'p' := by
  rw [toList_stagingName, List.getLast?_append]
  rfl

/-- `stagingName key` is a name that a file can have, as well. -/
theorem plain_stagingName : Path.Plain (stagingName key) := by
  refine Path.plain_of_getLast? (getLast?_stagingName key) (by decide) ?_
  rw [toList_stagingName, List.mem_append, List.mem_append, not_or, not_or]
  exact ⟨⟨by decide, key.slash_not_mem_fileStem (by decide)⟩, by decide⟩

/-- `name key ≠ stagingName key'`: the last characters differ. -/
theorem name_ne_stagingName (key' : SessionKey) : name key ≠ stagingName key' := by
  intro h
  have hlast := getLast?_stagingName key'
  rw [← h, getLast?_name] at hlast
  exact absurd hlast (by decide)

end RemountUnit

namespace Systemd

open Act RemountUnit

variable {σ : Type} (s : Systemd σ)

-- what an act ensures is not to be found out by running it, which would read the names of units
attribute [local irreducible] Act.runOn

/-- `s.stagingPath key` is the place of `stagingName key` in the unit directory. -/
theorem stagingPath_eq (key : SessionKey) :
    s.stagingPath key = Path.join s.unitDir (stagingName key) := by
  have hsplit : Path.splitName (name key) = ("cloudfuse" ++ key.fileStem '-', some "service") := by
    have hname : name key = "cloudfuse" ++ key.fileStem '-' ++ "." ++ "service" := by
      rw [← String.toList_inj, toList_name]
      simp [String.toList_append]
    rw [hname]
    refine Path.splitName_extension ?_ (by decide)
    intro h
    simp at h
  exact Path.withExtension_join (plain_name key) (plain_stagingName key) (by rw [hsplit])

/-! ## Unit files -/

/-- What stands at the place of a key's unit. -/
def unitFile (key : SessionKey) (h : σ) : Except OsError Node :=
  (s.disk.get h).find (s.unitPath key)

/-- A host on which the disk is the one that was put there, and the programs that are run leave the
unit files alone. -/
structure Lawful : Prop where
  get_put : ∀ d h, s.disk.get (s.disk.put d h) = d
  runs : ∀ program args key r, Keeps (fun h => s.unitFile key h = r) (s.runner.run program args)

variable {s} {key : SessionKey} {record : RemountRecord}

/-- `(Disk.update f).on s.disk` does on the disk of the host what `f` does on a disk, whether it
answers or fails. -/
theorem ensures_update (hget : ∀ d h, s.disk.get (s.disk.put d h) = d)
    {f : Disk → Except OsError Disk} {P Q E : Disk → Prop}
    (hok : ∀ d d', P d → f d = .ok d' → Q d') (hfail : ∀ d e, P d → f d = .error e → E d) :
    Ensures (fun h => P (s.disk.get h)) ((Disk.update f).on s.disk) (fun _ h => Q (s.disk.get h))
      fun _ h => E (s.disk.get h) := by
  have hupdate : Ensures P (Disk.update f) (fun _ => Q) fun _ => E := by
    intro d hd
    cases hf : f d with
    | ok d' =>
      rw [Disk.runOn_update hf]
      exact hok d d' hd hf
    | error e =>
      rw [Disk.runOn_update_of_error hf]
      exact hfail d e hd hf
  exact hupdate.onPart hget

/-- `(Disk.query f).on s.disk` changes nothing on the disk. -/
theorem keeps_query (hget : ∀ d h, s.disk.get (s.disk.put d h) = d) (P : Disk → Prop) {α : Type}
    (f : Disk → Except OsError α) :
    Keeps (fun h => P (s.disk.get h)) ((Disk.query f).on s.disk) := by
  have hquery : Keeps P (Disk.query f) := by
    intro d hd
    rw [Disk.runOn_query]
    cases f d <;> exact hd
  exact Ensures.onPart hquery hget

/-- An operation that changes only files with names in `names` keeps the unit file of a key that is
not among them. -/
theorem keeps_update (hs : s.Lawful) {f : Disk → Except OsError Disk} (names : Set String)
    (hother : name key ∉ names) (hf : ∀ d d', f d = .ok d' → Disk.ChangedIn s.unitDir names d d')
    (r : Except OsError Node) :
    Keeps (fun h => s.unitFile key h = r) ((Disk.update f).on s.disk) :=
  ensures_update hs.get_put (P := fun d => d.find (s.unitPath key) = r)
    (fun d d' hd hd' => ((hf d d' hd').find_join (plain_name key) hother).trans hd)
    fun _ _ hd _ => hd

section

variable {file new : String} (hs : s.Lawful) (hfile : Path.Plain file) (r : Except OsError Node)

include hs hfile

/-- `writeText` under another name keeps the unit file. -/
theorem keeps_writeText (hne : name key ≠ file) (text : String) :
    Keeps (fun h => s.unitFile key h = r)
      ((Disk.update (·.writeText (Path.join s.unitDir file) text)).on s.disk) :=
  keeps_update hs {file} hne (fun _ _ h => (Disk.changedIn_writeText hfile h).1) r

/-- `removeFile` under another name keeps the unit file. -/
theorem keeps_removeFile (hne : name key ≠ file) :
    Keeps (fun h => s.unitFile key h = r)
      ((Disk.update (·.removeFile (Path.join s.unitDir file))).on s.disk) :=
  keeps_update hs {file} hne (fun _ _ h => (Disk.changedIn_removeFile hfile h).1) r

/-- `rename` between two other names keeps the unit file. -/
theorem keeps_rename (hnew : Path.Plain new) (hne : name key ≠ file) (hne' : name key ≠ new) :
    Keeps (fun h => s.unitFile key h = r)
      ((Disk.update (·.rename (Path.join s.unitDir file) (Path.join s.unitDir new))).on s.disk) := by
  have hother : name key ∉ ({file, new} : Set String) := by
    rintro (h | h)
    · exact hne h
    · exact hne' h
  exact keeps_update hs _ hother (fun _ _ h => (Disk.changedIn_rename hfile hnew h).1) r

end

section

variable {file new : String} (hs : s.Lawful) (hfile : Path.Plain file)

include hs hfile

/-- `writeText` of a file of the unit directory, when it answers, has put the text there. -/
theorem ensures_writeText (text : String) :
    Ensures (fun _ => True) ((Disk.update (·.writeText (Path.join s.unitDir file) text)).on s.disk)
      (fun _ h => (s.disk.get h).find (Path.join s.unitDir file) = .ok (.file text.toUTF8))
      fun _ _ => True :=
  ensures_update hs.get_put (P := fun _ => True) (E := fun _ => True)
    (Q := fun d => d.find (Path.join s.unitDir file) = .ok (.file text.toUTF8))
    (fun _ _ _ h => (Disk.changedIn_writeText hfile h).2) fun _ _ _ _ => trivial

/-- `rename` of a file of the unit directory, when it answers, has put its content in the new place.
-/
theorem ensures_rename (hnew : Path.Plain new) (content : ByteArray) :
    Ensures (fun h => (s.disk.get h).find (Path.join s.unitDir file) = .ok (.file content))
      ((Disk.update (·.rename (Path.join s.unitDir file) (Path.join s.unitDir new))).on s.disk)
      (fun _ h => (s.disk.get h).find (Path.join s.unitDir new) = .ok (.file content))
      fun _ _ => True := by
  refine ensures_update hs.get_put (P := fun d => d.find (Path.join s.unitDir file) = .ok (.file content))
    (Q := fun d => d.find (Path.join s.unitDir new) = .ok (.file content)) (E := fun _ => True)
    (fun d d' hd h => ?_) fun _ _ _ _ => trivial
  obtain ⟨-, content', hold, hthere⟩ := Disk.changedIn_rename hfile hnew h
  rw [hd, Except.ok.injEq] at hold
  rw [hthere, hold]

/-- `removeFile` of a file of the unit directory that is there answers, and the file is gone. -/
theorem ensures_removeFile (content : ByteArray) :
    Ensures (fun h => (s.disk.get h).find (Path.join s.unitDir file) = .ok (.file content))
      ((Disk.update (·.removeFile (Path.join s.unitDir file))).on s.disk)
      (fun _ h => (s.disk.get h).find (Path.join s.unitDir file) = .error .notFound)
      fun _ _ => False := by
  refine ensures_update hs.get_put (P := fun d => d.find (Path.join s.unitDir file) = .ok (.file content))
    (Q := fun d => d.find (Path.join s.unitDir file) = .error .notFound) (E := fun _ => False)
    (fun d d' _ h => (Disk.changedIn_removeFile hfile h).2) fun d e hd h => ?_
  obtain ⟨d', hremove⟩ := Disk.exists_removeFile hd
  rw [h] at hremove
  cases hremove

end

/-! ## The parts of a call -/

section

variable {I : σ → Prop} (hruns : ∀ program args, Keeps I (s.runner.run program args))

include hruns

/-- `joinGroups user groups` keeps what the runner keeps, by induction on the groups. -/
theorem keeps_joinGroups (user : String) (groups : List String) :
    Keeps I (s.joinGroups user groups) := by
  induction groups with
  | nil => exact .pure _
  | cons group rest ih => exact ((hruns _ _).inContext _).bind fun _ => ih

/-- `ensureUser user` keeps what reading the account file and the runner keep. -/
theorem keeps_ensureUser
    (hread : Keeps I ((Disk.query fun d => d.readText s.passwd).on s.disk)) (user : String) :
    Keeps I (s.ensureUser user) := by
  unfold ensureUser
  refine (hread.inContext _).bind fun text => .ite (.pure _) ?_
  refine ((hruns _ _).inContext _).bind fun _ => (hruns _ _).bind fun groups => ?_
  exact keeps_joinGroups hruns _ _

/-- `reload` keeps what the runner keeps. -/
theorem keeps_reload : Keeps I s.reload := by
  unfold reload
  exact ((hruns _ _).inContext _).bind fun _ => .pure _

end

/-- `placeUnit record` writes and moves under two names, neither of them that of another unit. -/
theorem keeps_placeUnit (hs : s.Lawful) (hne : name key ≠ name record.key)
    (r : Except OsError Node) : Keeps (fun h => s.unitFile key h = r) (s.placeUnit record) := by
  have hstaging := name_ne_stagingName key record.key
  have hwrite := keeps_writeText hs (plain_stagingName record.key) r hstaging
    (render s.binary record)
  have hmove := keeps_rename hs (plain_stagingName record.key) r (plain_name record.key) hstaging hne
  dsimp only [placeUnit]
  rw [stagingPath_eq]
  exact (hwrite.inContext _).bind fun _ => hmove.inContext _

/-- **A unit that was placed is there**: `placeUnit record`, when it answers, has put the rendered
record at `name record.key`. -/
theorem ensures_placeUnit (hs : s.Lawful) (record : RemountRecord) :
    Ensures (fun _ => True) (s.placeUnit record)
      (fun _ h => s.unitFile record.key h = .ok (.file (render s.binary record).toUTF8))
      fun _ _ => True := by
  have hwrite := ensures_writeText hs (plain_stagingName record.key) (render s.binary record)
  have hmove := ensures_rename hs (plain_stagingName record.key) (plain_name record.key)
    (render s.binary record).toUTF8
  dsimp only [placeUnit]
  rw [stagingPath_eq]
  exact hwrite.inContext.bind fun _ => hmove.inContext

/-! ## Calls -/

/-- **An installation leaves the units with other names alone**, in each step of `s.install`. -/
theorem keeps_install (hs : s.Lawful) (hne : name key ≠ name record.key) (r : Except OsError Node) :
    Keeps (fun h => s.unitFile key h = r) (s.install record) := by
  dsimp only [install]
  have hruns := fun program args => hs.runs program args key r
  have hread := keeps_query hs.get_put (fun d => d.find (s.unitPath key) = r) (·.readText s.passwd)
  refine (keeps_ensureUser hruns hread _).bind fun _ => (keeps_placeUnit hs hne r).bind fun _ => ?_
  refine (keeps_reload hruns).bind fun _ => ?_
  exact ((hruns _ _).inContext _).bind fun _ => .pure _

/-- **An installation that answers has put the unit in its place**: the steps behind `placeUnit` run
programs only. -/
theorem ensures_install (hs : s.Lawful) (record : RemountRecord) :
    Ensures (fun _ => True) (s.install record)
      (fun _ h => s.unitFile record.key h = .ok (.file (render s.binary record).toUTF8))
      fun _ _ => True := by
  have huser : Ensures (fun _ => True) (s.ensureUser record.runAs) (fun _ _ => True)
      fun _ _ => True := by
    intro h _
    split <;> trivial
  dsimp only [install]
  refine huser.bind fun _ => (ensures_placeUnit hs record).bind fun _ => ?_
  have hruns := fun program args =>
    hs.runs program args record.key (.ok (.file (render s.binary record).toUTF8))
  refine Ensures.bind ((keeps_reload hruns).failing fun _ _ _ => trivial) fun _ => ?_
  refine Ensures.failing (Keeps.bind ((hruns _ _).inContext _) fun _ => .pure _)
    fun _ _ _ => trivial

/-- **A removal leaves the units with other names alone**, in each step of `s.uninstall`. -/
theorem keeps_uninstall {key' : SessionKey} (hs : s.Lawful) (hne : name key ≠ name key')
    (r : Except OsError Node) : Keeps (fun h => s.unitFile key h = r) (s.uninstall key') := by
  have hremove := keeps_removeFile hs (plain_name key') r hne
  dsimp only [uninstall]
  refine Keeps.look.bind fun x => .ite ?_ (.fail _)
  exact (hremove.inContext _).bind fun _ => keeps_reload fun program args => hs.runs program args key r

/-- **A removal takes the unit away** that is found at the place, whatever comes of the reload
behind that: `.error .notFound` in either case. -/
theorem ensures_uninstall (hs : s.Lawful) (key : SessionKey) (content : ByteArray) :
    Ensures (fun h => s.unitFile key h = .ok (.file content)) (s.uninstall key)
      (fun _ h => s.unitFile key h = .error .notFound) fun _ h =>
        s.unitFile key h = .error .notFound := by
  have hremove := ensures_removeFile hs (plain_name key) content
  dsimp only [uninstall]
  refine Ensures.bind (Q := fun x h => (s.disk.get x).pathExists (s.unitPath key) = true ∧
    s.unitFile key h = .ok (.file content)) (Ensures.look fun h hh => ⟨?_, hh⟩) fun x => ?_
  · rw [Disk.pathExists, ← unitFile, hh]
    rfl
  refine Ensures.of_fact fun hthere => ?_
  rw [if_pos hthere]
  exact hremove.never.inContext.bind fun _ =>
    keeps_reload fun program args => hs.runs program args key (.error .notFound)

/-! ## Histories -/

/-- A call of the installer. -/
inductive Call where
  | install (record : RemountRecord)
  | uninstall (key : SessionKey)

namespace Call

/-- The key that a call is about. -/
def target : Call → SessionKey
  | install record => record.key
  | uninstall key => key

/-- What a call does, without its answer. -/
def act (s : Systemd σ) : Call → Act σ Unit
  | install record => do let _ ← s.installer.install record
  | uninstall key => s.installer.uninstall key

/-- **A call leaves the units with other names alone**: `c.act` keeps `s.unitFile key`. This is the
step of a history. -/
theorem keeps_act (hs : s.Lawful) (c : Call) (hne : name key ≠ name c.target)
    (r : Except OsError Node) : Keeps (fun h => s.unitFile key h = r) (c.act s) := by
  cases c with
  | install record => exact (keeps_install hs hne r).bind fun _ => .pure _
  | uninstall key' => exact keeps_uninstall hs hne r

end Call

/-- The host behind calls that were made one after the other, whether they answered or failed. -/
def behind (s : Systemd σ) (calls : List Call) (h : σ) : σ :=
  runAll (calls.map (Call.act s)) h

/-- **A history leaves the units with other names alone**: `s.behind calls` keeps `s.unitFile key`,
by induction on its calls. -/
theorem unitFile_behind (hs : s.Lawful) {calls : List Call}
    (hne : ∀ c ∈ calls, name key ≠ name c.target) (h : σ) :
    s.unitFile key (s.behind calls h) = s.unitFile key h := by
  refine Keeps.runAll (I := fun h' => s.unitFile key h' = s.unitFile key h) (fun act hact => ?_) rfl
  obtain ⟨c, hc, rfl⟩ := List.mem_map.1 hact
  exact c.keeps_act hs (hne c hc) _

/-- **The units of the keys of a set are independent**, from a host on. -/
structure Independent (s : Systemd σ) (S : Set SessionKey) (h : σ) : Prop where
  /-- Behind any calls, a further one leaves the unit file of every other key as it is. -/
  spares : ∀ calls : List Call, (∀ c ∈ calls, c.target ∈ S) → ∀ c : Call, c.target ∈ S →
    ∀ key ∈ S, key ≠ c.target →
      s.unitFile key ((c.act s).runOn (s.behind calls h)).2 = s.unitFile key (s.behind calls h)
  /-- Behind any calls, a unit that was installed is there with its text, whatever calls for other
  keys follow. -/
  persists : ∀ calls : List Call, (∀ c ∈ calls, c.target ∈ S) →
    ∀ (record : RemountRecord) (unit : String) (h' : σ), record.key ∈ S →
      (s.installer.install record).runOn (s.behind calls h) = (.ok unit, h') →
        ∀ later : List Call, (∀ c ∈ later, c.target ∈ S ∧ c.target ≠ record.key) →
          s.unitFile record.key (s.behind later h')
            = .ok (.file (render s.binary record).toUTF8)

/-- Where `name` tells the keys of a set apart, their units are independent. -/
theorem independent_of_injOn (hs : s.Lawful) {S : Set SessionKey} (hinj : Set.InjOn name S) (h : σ) :
    s.Independent S h where
  spares calls _ c hc key hkey hne := by
    have hname : name key ≠ name c.target := fun he => hne (hinj hkey hc he)
    exact Ensures.final (c.keeps_act hs hname _) rfl
  persists calls _ record unit h' hrecord hrun later hlater := by
    have hname : ∀ c ∈ later, name record.key ≠ name c.target := fun c hc he =>
      (hlater c hc).2 (hinj hrecord (hlater c hc).1 he).symm
    rw [unitFile_behind hs hname]
    exact (ensures_install hs record).of_ok trivial hrun

/-- `s.Independent S` needs `name` to be injective on `S`: where two keys share a unit name, a
removal for the one takes the unit of the other away. -/
theorem injOn_of_independent (hs : s.Lawful) {S : Set SessionKey} {h : σ}
    (hinstall : ∀ key ∈ S, ∃ record unit h', record.key = key ∧
      (s.installer.install record).runOn h = (.ok unit, h'))
    (hind : s.Independent S h) : Set.InjOn name S := by
  intro key hkey key' hkey' hname
  by_contra hne
  obtain ⟨record, unit, h', rfl, hrun⟩ := hinstall key hkey
  have hthere : s.unitFile record.key h' = .ok (.file (render s.binary record).toUTF8) :=
    (ensures_install hs record).of_ok trivial hrun
  have hsame : ∀ h, s.unitFile record.key h = s.unitFile key' h := by
    intro h
    rw [unitFile, unitFile, unitPath, unitPath, hname]
  -- independence keeps the unit of `record.key` when `key'` is uninstalled; under one name it is
  -- gone
  have hkept : s.unitFile record.key ((s.installer.uninstall key').runOn h').2 = _ :=
    hind.persists [] (fun _ hc => by simp at hc) record unit h' hkey hrun [.uninstall key']
      fun c hc => by rw [List.mem_singleton.1 hc]; exact ⟨hkey', Ne.symm hne⟩
  have hgone : s.unitFile key' ((s.installer.uninstall key').runOn h').2 = .error .notFound :=
    (ensures_uninstall hs key' _).final (hsame h' ▸ hthere)
  rw [hsame, hgone] at hkept
  cases hkept

/-- **The exact condition.** The units of the keys of a set, for each of which one can be installed,
are independent if and only if no two of them have the same unit name: `independent_of_injOn` and
`injOn_of_independent`. -/
theorem independent_iff (hs : s.Lawful) {S : Set SessionKey} {h : σ}
    (hinstall : ∀ key ∈ S, ∃ record unit h', record.key = key ∧
      (s.installer.install record).runOn h = (.ok unit, h')) :
    s.Independent S h ↔ Set.InjOn name S :=
  ⟨injOn_of_independent hs hinstall, fun hinj => independent_of_injOn hs hinj h⟩

end Systemd

/-! ### Hosts with units -/

namespace Rehearsal.Host

open Act

/-- The units of a host that plays the programs by rules. -/
def ruledUnits : Systemd Host where
  disk := diskPart
  runner := runner
  unitDir := "/units"
  passwd := "/passwd"

/-- The units of a host with `Programs` are lawful: its programs write into the journal only. -/
theorem lawful_ruledUnits : ruledUnits.Lawful where
  get_put _ _ := rfl
  runs program args key r := by
    have hnote (event : String) : Keeps (fun h => ruledUnits.unitFile key h = r) (note event) :=
      Ensures.change fun _ hunit => hunit
    refine Keeps.look.bind fun h => (hnote _).bind fun _ => ?_
    exact Ensures.ofExcept (fun _ _ _ hunit => hunit) fun _ _ _ hunit => hunit

/-- A host with a directory for units and with the account that they run as. -/
def unitless : Host where
  surroundings := ⟨"/root", "/"⟩
  disk := { nodes := [(["units"], .directory),
    (["passwd"], .file "cloudfuse:x:998:998::/:/bin/sh\n".toUTF8)] }

/-- Three keys, one of them with a dash and one of them below another. -/
def oneBelowAnother : List SessionKey := [.ofPath "/mnt/a", .ofPath "/mnt/a-b", .ofPath "/mnt/a/c"]

/-- For each key of `oneBelowAnother` a unit can be installed. -/
theorem installs_oneBelowAnother : ∀ key ∈ {key | key ∈ oneBelowAnother},
    ∃ record unit h', record.key = key ∧
      (ruledUnits.installer.install record).runOn unitless = (.ok unit, h') := by
  have hrun : ∀ key ∈ oneBelowAnother,
      ((ruledUnits.installer.install ⟨key, "c", "cloudfuse"⟩).runOn unitless).1.toOption.isSome := by
    decide +kernel
  intro key hkey
  obtain ⟨unit, hunit⟩ := Option.isSome_iff_exists.1 (hrun key hkey)
  exact ⟨_, _, _, rfl, runOn_of_toOption hunit⟩

/-- **Their units are independent**, since `RemountUnit.name` tells the three keys apart. -/
theorem independent_oneBelowAnother :
    ruledUnits.Lawful ∧
    (∀ key ∈ {key | key ∈ oneBelowAnother}, ∃ record unit h', record.key = key ∧
      (ruledUnits.installer.install record).runOn unitless = (.ok unit, h')) ∧
    Set.InjOn RemountUnit.name {key | key ∈ oneBelowAnother} ∧
    ruledUnits.Independent {key | key ∈ oneBelowAnother} unitless := by
  have hnames : (oneBelowAnother.map RemountUnit.name).Nodup := by decide +kernel
  have hinj : Set.InjOn RemountUnit.name {key | key ∈ oneBelowAnother} :=
    fun _ hkey _ hkey' hname => List.inj_on_of_nodup_map hnames hkey hkey' hname
  refine ⟨lawful_ruledUnits, installs_oneBelowAnother, hinj, ?_⟩
  exact (Systemd.independent_iff lawful_ruledUnits installs_oneBelowAnother).2 hinj

/-- Two keys that differ where one has a slash and the other a dash. -/
def slashAndDash : Set SessionKey := {.ofPath "/mnt/a/b", .ofPath "/mnt/a-b"}

/-- For both keys of `slashAndDash` a unit can be installed. -/
theorem installs_slashAndDash : ∀ key ∈ slashAndDash, ∃ record unit h', record.key = key ∧
    (ruledUnits.installer.install record).runOn unitless = (.ok unit, h') := by
  have hrun : ∀ path ∈ ["/mnt/a/b", "/mnt/a-b"],
      ((ruledUnits.installer.install ⟨.ofPath path, "c", "cloudfuse"⟩).runOn unitless).1.toOption
        = some "cloudfuse-mnt-a-b.service" := by decide +kernel
  rintro key (rfl | rfl)
  · exact ⟨_, _, _, rfl, runOn_of_toOption (hrun _ (by decide))⟩
  · exact ⟨_, _, _, rfl, runOn_of_toOption (hrun _ (by decide))⟩

/-- **Their units are not independent**: the removal for `/mnt/a/b` takes the unit of `/mnt/a-b`
away, which is the same file. -/
theorem not_independent_slashAndDash :
    SessionKey.ofPath "/mnt/a/b" ≠ SessionKey.ofPath "/mnt/a-b" ∧
    ((ruledUnits.installer.uninstall (.ofPath "/mnt/a/b")).runOn (ruledUnits.behind
      [.install ⟨.ofPath "/mnt/a-b", "c", "cloudfuse"⟩] unitless)).1.toOption = some () ∧
    ¬ ruledUnits.Independent slashAndDash unitless := by
  refine ⟨by decide +kernel, by decide +kernel, fun hind => ?_⟩
  have hinj := Systemd.injOn_of_independent lawful_ruledUnits installs_slashAndDash hind
  have hname : RemountUnit.name (.ofPath "/mnt/a/b") = RemountUnit.name (.ofPath "/mnt/a-b") := by
    decide +kernel
  exact absurd (hinj (.inl rfl) (.inr rfl) hname) (by decide +kernel)

end Rehearsal.Host

end MountKeeper
