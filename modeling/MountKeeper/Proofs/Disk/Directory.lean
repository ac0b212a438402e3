import MountKeeper.Disk.Basic
import MountKeeper.Proofs.Act
import MountKeeper.Proofs.Path
import Mathlib.Data.List.Nodup
import Mathlib.Logic.Function.Basic

/-! # A directory of text files

A directory that has nothing but text files in it is a map from names to texts.

* `Disk.Holds d dir base files`: the path `dir` leads to the directory at `base`, and its files are
  `files`.
* `Holds.readText`, `Holds.list`, `Holds.writeText` and `Holds.removeFile`: reading, listing, writing
  and removing are what they are on maps.
* `Disk.holds_of_list_eq_nil`: a directory without names holds nothing. -/

namespace MountKeeper.Disk

variable {d d' : Disk} {dir name : String} {base place : Place}

/-! ## Acts -/

/-- `update f` where `f d` answers: the disk is the one of the answer. -/
theorem runOn_update {f : Disk → Except OsError Disk} (h : f d = .ok d') :
    (update f).runOn d = (.ok (), d') := by
  show update f d = _
  rw [update, h]

/-- The converse of `runOn_update`: `update f` answers only if `f d` does. -/
theorem eq_ok_of_runOn_update {f : Disk → Except OsError Disk} (h : (update f).runOn d = (.ok (), d')) :
    f d = .ok d' := by
  change update f d = _ at h
  unfold update at h
  cases hf : f d with
  | ok d'' =>
    rw [hf] at h
    rw [show d'' = d' from congrArg Prod.snd h]
  | error e =>
    rw [hf] at h
    exact absurd (congrArg Prod.fst h) nofun

/-- `update f` where `f d` fails: the disk stays, and the failure is `.ofOs e`. -/
theorem runOn_update_of_error {f : Disk → Except OsError Disk} {e : OsError} (h : f d = .error e) :
    (update f).runOn d = (.error (.ofOs e), d) := by
  show update f d = _
  rw [update, h]

/-- `query f` answers as `f d` does and leaves the disk as it is. -/
theorem runOn_query {α : Type} (f : Disk → Except OsError α) (d : Disk) :
    (query f).runOn d = (match f d with
      | .ok a => .ok a
      | .error e => .error (.ofOs e), d) := by
  show query f d = _
  rw [query]
  cases f d <;> rfl

/-- `update f` leaves `f d` behind where that answers, and `d` where it does not. -/
theorem ensures_update (f : Disk → Except OsError Disk) (d : Disk) :
    Act.Ensures (fun d' => d' = d) (update f) (fun _ d' => f d = .ok d') fun _ d' => d' = d := by
  rintro s rfl
  cases h : f s with
  | ok d' => rw [runOn_update h]
  | error e => rw [runOn_update_of_error h]

/-- `query f` answers what `f d` answers, and leaves the disk as it is. -/
theorem ensures_query {α : Type} (f : Disk → Except OsError α) (d : Disk) :
    Act.Ensures (fun d' => d' = d) (query f) (fun a d' => f d = .ok a ∧ d' = d)
      fun _ d' => d' = d := by
  rintro s rfl
  rw [runOn_query]
  cases h : f s with
  | ok a => exact ⟨rfl, rfl⟩
  | error e => exact rfl

/-! ## Places that are taken -/

/-- The places at which something stands, the root aside. -/
def places (d : Disk) : List Place :=
  d.nodes.map Prod.fst

/-- Something stands at a place if and only if the place is a key of the list. -/
theorem isSome_nodeIn_iff (place : Place) (es : List (Place × Node)) :
    (nodeIn place es).isSome ↔ place ∈ es.map Prod.fst := by
  induction es with
  | nil => simp [nodeIn]
  | cons e rest ih =>
    obtain ⟨p, n⟩ := e
    rw [nodeIn, List.map_cons, List.mem_cons]
    by_cases hp : p = place
    · rw [if_pos hp]
      simp [hp]
    · rw [if_neg hp, ih]
      simp [Ne.symm hp]

/-- Something stands at a place other than the root if and only if it is one of `d.places`. -/
theorem isSome_nodeAt_iff (h : place ≠ []) : (d.nodeAt place).isSome ↔ place ∈ d.places := by
  rw [nodeAt, if_neg h]
  exact isSome_nodeIn_iff place d.nodes

/-- `setEntry place` where a node stands takes no further place. -/
theorem map_fst_setEntry_of_mem {place : Place} {es : List (Place × Node)} (node : Node)
    (h : place ∈ es.map Prod.fst) : (setEntry place node es).map Prod.fst = es.map Prod.fst := by
  induction es with
  | nil => simp at h
  | cons e rest ih =>
    obtain ⟨p, n⟩ := e
    rw [setEntry]
    by_cases hp : p = place
    · rw [if_pos hp, List.map_cons, List.map_cons, hp]
    · rw [if_neg hp, List.map_cons, List.map_cons, ih]
      rcases List.mem_cons.1 h with h | h
      · exact absurd h.symm hp
      · exact h

/-- `setEntry place` where none stands takes one place more, the newest. -/
theorem map_fst_setEntry_of_not_mem {place : Place} {es : List (Place × Node)} (node : Node)
    (h : place ∉ es.map Prod.fst) :
    (setEntry place node es).map Prod.fst = es.map Prod.fst ++ [place] := by
  induction es with
  | nil => rfl
  | cons e rest ih =>
    obtain ⟨p, n⟩ := e
    rw [List.map_cons, List.mem_cons, not_or] at h
    rw [setEntry, if_neg (Ne.symm h.1), List.map_cons, List.map_cons, List.cons_append, ih h.2]

/-! ## Names -/

/-- The name of a place in a directory, if it is one. -/
def nameIn? (base place : Place) : Option String :=
  match place.getLast? with
  | some name => if place.dropLast = base then some name else none
  | none => none

/-- `nameIn? base place = some name` says that the place is `name`, directly below `base`. -/
theorem nameIn?_eq_some_iff : nameIn? base place = some name ↔ place = base ++ [name] := by
  unfold nameIn?
  rcases List.eq_nil_or_concat place with rfl | ⟨front, last, rfl⟩
  · simp
  · rw [List.concat_eq_append, List.getLast?_concat, List.dropLast_concat]
    by_cases hfront : front = base
    · simp [hfront]
    · simp [hfront]

/-- `namesAt base` as one pass over the places, in the order in which they were made. -/
theorem namesAt_eq (d : Disk) (base : Place) :
    d.namesAt base = d.places.reverse.filterMap (nameIn? base) := by
  unfold namesAt places
  rw [← List.map_reverse, List.filterMap_map]
  rfl

/-- `d.namesAt base` has the names at which something stands below `base`. -/
theorem mem_namesAt_iff : name ∈ d.namesAt base ↔ (d.nodeAt (base ++ [name])).isSome := by
  rw [isSome_nodeAt_iff (by simp), namesAt_eq, List.mem_filterMap]
  simp only [nameIn?_eq_some_iff, List.mem_reverse]
  constructor
  · rintro ⟨place, hplace, rfl⟩
    exact hplace
  · intro hplace
    exact ⟨_, hplace, rfl⟩

/-- `setNode` at one file keeps the names of its directory different. -/
theorem nodup_namesAt_setNode (h : (d.namesAt base).Nodup) (name : String) (node : Node) :
    ((d.setNode (base ++ [name]) node).namesAt base).Nodup := by
  have hplaces : (d.setNode (base ++ [name]) node).places
      = (setEntry (base ++ [name]) node d.nodes).map Prod.fst := rfl
  rw [namesAt_eq, hplaces]
  -- a file that is there keeps its place in the list; a new one comes first
  by_cases hmem : base ++ [name] ∈ d.nodes.map Prod.fst
  · rw [map_fst_setEntry_of_mem node hmem]
    rw [namesAt_eq] at h
    exact h
  · have hname : name ∉ d.namesAt base := by
      rw [mem_namesAt_iff, isSome_nodeAt_iff (by simp)]
      exact hmem
    have hin : nameIn? base (base ++ [name]) = some name := nameIn?_eq_some_iff.2 rfl
    rw [map_fst_setEntry_of_not_mem node hmem, List.reverse_append, List.reverse_singleton,
      List.singleton_append, List.filterMap_cons_some hin, List.nodup_cons]
    rw [namesAt_eq] at h hname
    exact ⟨hname, h⟩

/-- `dropNode` keeps the names of a directory different. -/
theorem nodup_namesAt_dropNode (h : (d.namesAt base).Nodup) (place : Place) :
    ((d.dropNode place).namesAt base).Nodup := by
  rw [namesAt_eq] at h ⊢
  have hsublist : (d.dropNode place).places.Sublist d.places :=
    List.filter_sublist.map Prod.fst
  exact h.sublist (hsublist.reverse.filterMap _)

/-! ## The way to a file -/

/-- **One step of a way.** `walk start (name :: names)` leads somewhere if `start` is a directory
and the way goes on from where `name` leads: up for `..`, else down, if the name is short enough. -/
theorem walk_cons_eq_ok_iff {start : Place} {names : List String} :
    d.walk start (name :: names) = .ok place ↔
      d.nodeAt start = some .directory ∧
        (name = ".." ∧ d.walk start.dropLast names = .ok place ∨
          name ≠ ".." ∧ name.utf8ByteSize ≤ nameLimit ∧
            d.walk (start ++ [name]) names = .ok place) := by
  rw [walk]
  rcases hnode : d.nodeAt start with _ | _ | c
  · simp
  · by_cases hup : name = ".."
    · simp [hup]
    · by_cases hlong : nameLimit < name.utf8ByteSize
      · simp [hup, hlong, Nat.not_le.2 hlong]
      · simp [hup, hlong, Nat.not_lt.1 hlong]
  · simp

/-- On the way through a disk only the directories count: `walk` leads where it led on a disk that
has those of the first. -/
theorem walk_of_directories (h : ∀ p, d.nodeAt p = some .directory → d'.nodeAt p = some .directory)
    {names : List String} {start : Place} (hwalk : d.walk start names = .ok place) :
    d'.walk start names = .ok place := by
  induction names generalizing start with
  | nil => exact hwalk
  | cons n ns ih =>
    rw [walk_cons_eq_ok_iff] at hwalk ⊢
    -- the name is looked up in a directory, which is still one
    refine ⟨h start hwalk.1, ?_⟩
    rcases hwalk.2 with ⟨hup, hrest⟩ | ⟨hup, hlong, hrest⟩
    · exact .inl ⟨hup, ih hrest⟩
    · exact .inr ⟨hup, hlong, ih hrest⟩

/-- A way that leads to a directory can be followed by one name more, to `base ++ [name]`. -/
theorem walk_append {names : List String} {start : Place} (hwalk : d.walk start names = .ok base)
    (hbase : d.nodeAt base = some .directory) (hup : name ≠ "..")
    (hlong : name.utf8ByteSize ≤ nameLimit) :
    d.walk start (names ++ [name]) = .ok (base ++ [name]) := by
  induction names generalizing start with
  | nil =>
    rw [walk] at hwalk
    rw [← Except.ok.inj hwalk] at hbase ⊢
    exact walk_cons_eq_ok_iff.2 ⟨hbase, .inr ⟨hup, hlong, rfl⟩⟩
  | cons n ns ih =>
    rw [walk_cons_eq_ok_iff] at hwalk
    rw [List.cons_append, walk_cons_eq_ok_iff]
    refine ⟨hwalk.1, ?_⟩
    rcases hwalk.2 with ⟨hn, hrest⟩ | ⟨hn, hshort, hrest⟩
    · exact .inl ⟨hn, ih hrest⟩
    · exact .inr ⟨hn, hshort, ih hrest⟩

/-- A name that fits into a directory: the file system takes it, and the path to it. -/
structure Fits (dir name : String) : Prop extends Path.Plain name where
  no_nul : '\x00' ∉ name.toList
  name_short : name.utf8ByteSize ≤ nameLimit
  path_short : (Path.join dir name).utf8ByteSize ≤ pathLimit

/-- `d.resolve path = .ok place`: the path has no NUL, is not empty, is short enough, and its parts
are a way to `place`. -/
theorem resolve_eq_ok_iff {path : String} :
    d.resolve path = .ok place ↔
      '\x00' ∉ path.toList ∧ path ≠ "" ∧ path.utf8ByteSize ≤ pathLimit ∧
        d.walk (if Path.isAbsolute path then [] else d.current) (Path.parts path) = .ok place := by
  unfold resolve
  by_cases hnul : '\x00' ∈ path.toList
  · simp [hnul]
  · by_cases hempty : path = ""
    · simp [hempty]
    · by_cases hlong : pathLimit < path.utf8ByteSize
      · simp [hnul, hempty, hlong, Nat.not_le.2 hlong]
      · simp [hnul, hempty, hlong, Nat.not_lt.1 hlong]

/-- **The way to a file**: `dir` leads to `base`, so `Path.join dir name` leads to `base ++ [name]`.
-/
theorem resolve_join (hdir : d.resolve dir = .ok base) (hbase : d.nodeAt base = some .directory)
    (h : Fits dir name) : d.resolve (Path.join dir name) = .ok (base ++ [name]) := by
  obtain ⟨hnul, -, -, hwalk⟩ := resolve_eq_ok_iff.1 hdir
  refine resolve_eq_ok_iff.2 ⟨?_, Path.join_ne_empty h.toPlain, h.path_short, ?_⟩
  · intro hmem
    rcases Path.mem_join h.toPlain hmem with hmem | hmem | hmem
    · exact hnul hmem
    · exact absurd hmem (by decide)
    · exact h.no_nul hmem
  · rw [Path.isAbsolute_join h.toPlain, Path.parts_join h.toPlain]
    exact walk_append hwalk hbase h.ne_up h.name_short

/-- A path leads where it did as long as the directories and the current one are still there. -/
theorem resolve_of_directories
    (h : ∀ p, d.nodeAt p = some .directory → d'.nodeAt p = some .directory)
    (hcurrent : d'.current = d.current) (hdir : d.resolve dir = .ok base) :
    d'.resolve dir = .ok base := by
  obtain ⟨hnul, hempty, hlong, hwalk⟩ := resolve_eq_ok_iff.1 hdir
  refine resolve_eq_ok_iff.2 ⟨hnul, hempty, hlong, ?_⟩
  rw [hcurrent]
  exact walk_of_directories h hwalk

/-! ## The text of a file -/

/-- A file that holds `text.toUTF8` is read as `text`. -/
theorem readText_of_find {path text : String} (h : d.find path = .ok (.file text.toUTF8)) :
    d.readText path = .ok text := by
  have hdecode : String.fromUTF8? text.toUTF8 = some text := by
    have hvalid : text.toUTF8.IsValidUTF8 := text.isValidUTF8
    rw [String.fromUTF8?, dif_pos hvalid]
    rfl
  rw [Disk.readText, readBytes, h]
  simp only [hdecode]

/-- `d.readText path` depends on `d.find path` alone. -/
theorem readText_congr {path : String} (h : d'.find path = d.find path) :
    d'.readText path = d.readText path := by
  unfold Disk.readText readBytes
  rw [h]

/-- What is read is a file: `d.find path = .ok (.file content)` for some bytes. -/
theorem exists_find_of_readText {path text : String} (h : d.readText path = .ok text) :
    ∃ content, d.find path = .ok (.file content) := by
  unfold Disk.readText readBytes at h
  cases hfind : d.find path with
  | error e => simp [hfind] at h
  | ok node =>
    cases node with
    | directory => simp [hfind] at h
    | file content => exact ⟨content, rfl⟩

/-- `d.isFile path = true` where a text can be read. -/
theorem isFile_of_readText {path text : String} (h : d.readText path = .ok text) :
    d.isFile path = true := by
  obtain ⟨content, hfind⟩ := exists_find_of_readText h
  unfold Disk.isFile
  rw [hfind]

/-! ## What a directory holds -/

/-- **The directory at `base`, to which the path `dir` leads, holds the text files `files`** and
nothing else. -/
structure Holds (d : Disk) (dir : String) (base : Place) (files : String → Option String) : Prop where
  resolve : d.resolve dir = .ok base
  directory : d.nodeAt base = some .directory
  node : ∀ name, d.nodeAt (base ++ [name]) = (files name).map fun text => .file text.toUTF8
  nodup : (d.namesAt base).Nodup

/-- A directory that is listed without names holds nothing. -/
theorem holds_of_list_eq_nil (h : d.list dir = .ok []) : ∃ base, d.Holds dir base fun _ => none := by
  unfold list at h
  cases hresolve : d.resolve dir with
  | error e =>
    rw [hresolve] at h
    exact absurd h (by simp)
  | ok base =>
    rw [hresolve] at h
    rcases hnode : d.nodeAt base with _ | _ | c
    · simp [hnode] at h
    · have hnames : d.namesAt base = [] := by simpa [hnode] using h
      refine ⟨base, hresolve, hnode, fun name => ?_, by rw [hnames]; exact List.nodup_nil⟩
      -- a node in the directory would have its name listed
      rw [Option.map_none, ← Option.not_isSome_iff_eq_none, ← mem_namesAt_iff, hnames]
      exact List.not_mem_nil
    · simp [hnode] at h

namespace Holds

variable {files : String → Option String}

/-- `d.namesAt base` has the names of the files that are held. -/
theorem mem_namesAt_iff (h : d.Holds dir base files) :
    name ∈ d.namesAt base ↔ (files name).isSome := by
  rw [Disk.mem_namesAt_iff, h.node, Option.isSome_map]

/-- `d.list dir` answers with the names, `d.namesAt base`. -/
theorem list (h : d.Holds dir base files) : d.list dir = .ok (d.namesAt base) := by
  unfold Disk.list
  rw [h.resolve]
  simp only [h.directory]

/-- To look up a name is to look into `files`: its UTF-8 bytes, or `.notFound`. -/
theorem find (h : d.Holds dir base files) (hfits : Fits dir name) :
    d.find (Path.join dir name) = match files name with
      | some text => .ok (.file text.toUTF8)
      | none => .error .notFound := by
  unfold Disk.find
  rw [resolve_join h.resolve h.directory hfits]
  simp only [h.node]
  cases files name with
  | none => rfl
  | some text =>
    simp only [Option.map_some, Path.wantsDirectory_join hfits.toPlain]
    rfl

/-- `pathExists` of a file says whether `files` has its name. -/
theorem pathExists (h : d.Holds dir base files) (hfits : Fits dir name) :
    d.pathExists (Path.join dir name) = (files name).isSome := by
  unfold Disk.pathExists
  rw [h.find hfits]
  cases files name <;> rfl

/-- `readText` of a file is its text. -/
theorem readText (h : d.Holds dir base files) (hfits : Fits dir name) {text : String}
    (htext : files name = some text) : d.readText (Path.join dir name) = .ok text := by
  refine readText_of_find ?_
  rw [h.find hfits, htext]

/-- What changes at `base ++ [name]` leaves the directories where they are, because a file stood
there or nothing. -/
theorem directories (h : d.Holds dir base files)
    (hd' : ∀ p, p ≠ base ++ [name] → d'.nodeAt p = d.nodeAt p) {p : Place}
    (hp : d.nodeAt p = some .directory) : d'.nodeAt p = some .directory := by
  rw [hd' p, hp]
  rintro rfl
  rw [h.node] at hp
  cases hfile : files name <;> simp [hfile] at hp

/-- **The frame.** When only the place of `name` has changed, the directory holds `Function.update
files name file`. -/
theorem of_change (h : d.Holds dir base files) {file : Option String}
    (hself : d'.nodeAt (base ++ [name]) = file.map fun text => .file text.toUTF8)
    (hothers : ∀ p, p ≠ base ++ [name] → d'.nodeAt p = d.nodeAt p)
    (hcurrent : d'.current = d.current) (hnodup : (d'.namesAt base).Nodup) :
    d'.Holds dir base (Function.update files name file) := by
  have hdirs : ∀ p, d.nodeAt p = some .directory → d'.nodeAt p = some .directory :=
    fun _ => h.directories hothers
  refine ⟨resolve_of_directories hdirs hcurrent h.resolve, hdirs base h.directory, fun n => ?_,
    hnodup⟩
  by_cases hn : n = name
  · subst hn
    rw [Function.update_self, hself]
  · rw [Function.update_of_ne hn, hothers _ (by simpa using hn), h.node]

/-- **A file is written**: `writeText` succeeds, and updates `files` at `name` with the text. -/
theorem writeText (h : d.Holds dir base files) (hfits : Fits dir name) (text : String) :
    ∃ d', d.writeText (Path.join dir name) text = .ok d' ∧
      d'.Holds dir base (Function.update files name (some text)) := by
  refine ⟨d.setNode (base ++ [name]) (.file text.toUTF8), ?_, ?_⟩
  · have hparent : d.checkParent (base ++ [name]) = .ok () := by
      unfold checkParent
      rw [List.dropLast_concat, h.directory]
    have hwants : Path.wantsDirectory (Path.join dir name) = false :=
      Path.wantsDirectory_join hfits.toPlain
    unfold Disk.writeText Disk.writeFile
    rw [resolve_join h.resolve h.directory hfits]
    simp only [bind, Except.bind, hparent, h.node, hwants]
    cases files name <;> rfl
  · exact h.of_change (nodeAt_setNode_self (by simp) _) (fun p hp => nodeAt_setNode_of_ne hp _) rfl
      (nodup_namesAt_setNode h.nodup _ _)

/-- **A file is removed**, if it is there: `removeFile` updates `files` at `name` with nothing, or
fails with `.notFound`. -/
theorem removeFile (h : d.Holds dir base files) (hfits : Fits dir name) :
    (∃ d', d.removeFile (Path.join dir name) = .ok d' ∧
        d'.Holds dir base (Function.update files name none)) ∨
      (d.removeFile (Path.join dir name) = .error .notFound ∧ files name = none) := by
  have hresolve := resolve_join h.resolve h.directory hfits
  -- a plain name ends in no slash, so nothing asks for a directory here
  have hwants : Path.wantsDirectory (Path.join dir name) = false :=
    Path.wantsDirectory_join hfits.toPlain
  cases hfile : files name with
  | none =>
    refine .inr ⟨?_, rfl⟩
    unfold Disk.removeFile
    rw [hresolve]
    simp only [bind, Except.bind, h.node, hfile]
    rfl
  | some text =>
    refine .inl ⟨d.dropNode (base ++ [name]), ?_, ?_⟩
    · unfold Disk.removeFile
      rw [hresolve]
      simp only [bind, Except.bind, h.node, hfile, hwants]
      rfl
    · exact h.of_change (nodeAt_dropNode_self (by simp)) (fun p hp => nodeAt_dropNode_of_ne hp) rfl
        (nodup_namesAt_dropNode h.nodup _)

end Holds

end MountKeeper.Disk
