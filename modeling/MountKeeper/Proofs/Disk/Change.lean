import MountKeeper.Proofs.Disk.Directory

/-! # Changes to the files of a directory

On any disk, an operation on a file of a directory changes that file and nothing else.

* `Disk.ChangedIn dir names d d'`: the disks differ at most in the files of `dir` that have one of
  the names. Such changes may follow one another (`ChangedIn.trans`).
* `ChangedIn.find_join`: what stands at another name of the directory stays.
* `changedIn_writeFile`, `changedIn_removeFile` and `changedIn_rename`: the operations that answer
  make such changes, and what stands at the names behind them. -/

namespace MountKeeper.Disk

variable {d d' d'' : Disk} {dir name : String} {names : Set String} {base place : Place}

/-! ## The way to a directory -/

/-- The place to which the names of a path lead. -/
def way (d : Disk) (path : String) : Except OsError Place :=
  d.walk (if Path.isAbsolute path then [] else d.current) (Path.parts path)

/-- `walk start (front ++ back)` goes on from where `front` leads. -/
theorem walk_append_of_ok {front back : List String} {start : Place}
    (h : d.walk start front = .ok base) : d.walk start (front ++ back) = d.walk base back := by
  induction front generalizing start with
  | nil =>
    rw [walk] at h
    rw [List.nil_append, Except.ok.inj h]
  | cons n front ih =>
    rw [List.cons_append]
    rw [walk_cons_eq_ok_iff] at h
    rcases h with ⟨hnode, ⟨hup, hrest⟩ | ⟨hup, hshort, hrest⟩⟩
    · rw [walk, hnode, ← ih hrest]
      simp only [if_pos hup]
    · rw [walk, hnode, ← ih hrest]
      simp only [if_neg hup, if_neg (Nat.not_lt.2 hshort)]

/-- `walk start (front ++ [name])` leads to `base ++ [name]`, where `front` leads to a directory
`base`. -/
theorem exists_of_walk_append {front : List String} {start : Place} (hup : name ≠ "..")
    (h : d.walk start (front ++ [name]) = .ok place) :
    ∃ base, d.walk start front = .ok base ∧ d.nodeAt base = some .directory ∧
      place = base ++ [name] := by
  induction front generalizing start with
  | nil =>
    -- one name left: `name` is not `..`, so the walk ends below the directory it is in
    rw [List.nil_append, walk_cons_eq_ok_iff] at h
    rcases h with ⟨hnode, ⟨hname, -⟩ | ⟨-, -, hrest⟩⟩
    · exact absurd hname hup
    · rw [walk] at hrest
      exact ⟨start, rfl, hnode, (Except.ok.inj hrest).symm⟩
  | cons n front ih =>
    rw [List.cons_append, walk_cons_eq_ok_iff] at h
    rcases h with ⟨hnode, ⟨hn, hrest⟩ | ⟨hn, hshort, hrest⟩⟩
    · obtain ⟨base, hwalk, hbase⟩ := ih hrest
      exact ⟨base, walk_cons_eq_ok_iff.2 ⟨hnode, .inl ⟨hn, hwalk⟩⟩, hbase⟩
    · obtain ⟨base, hwalk, hbase⟩ := ih hrest
      exact ⟨base, walk_cons_eq_ok_iff.2 ⟨hnode, .inr ⟨hn, hshort, hwalk⟩⟩, hbase⟩

/-- A path `dir / name` that leads somewhere leads to `base ++ [name]`, where `dir` is the way to a
directory `base`. -/
theorem exists_of_resolve_join (hname : Path.Plain name)
    (h : d.resolve (Path.join dir name) = .ok place) :
    ∃ base, d.way dir = .ok base ∧ d.nodeAt base = some .directory ∧ place = base ++ [name] := by
  obtain ⟨-, -, -, hwalk⟩ := resolve_eq_ok_iff.1 h
  rw [Path.isAbsolute_join hname, Path.parts_join hname] at hwalk
  exact exists_of_walk_append hname.ne_up hwalk

/-! ## Disks that differ in a few files -/

/-- The disks have the same directories, and differ at most in the files of a directory that have one
of the names. -/
structure ChangedIn (dir : String) (names : Set String) (d d' : Disk) : Prop where
  current : d'.current = d.current
  directories : ∀ p, d'.nodeAt p = some .directory ↔ d.nodeAt p = some .directory
  elsewhere : ∀ p, d'.nodeAt p = d.nodeAt p ∨
    ∃ base, d.way dir = .ok base ∧ ∃ n ∈ names, p = base ++ [n]

namespace ChangedIn

/-- `ChangedIn dir names d d`: no change is a change in any files. -/
theorem refl (dir : String) (names : Set String) (d : Disk) : ChangedIn dir names d d :=
  ⟨rfl, fun _ => Iff.rfl, fun _ => .inl rfl⟩

/-- `d'.way dir` is `d.way dir`: the directory stays where it is. -/
theorem way_eq (h : ChangedIn dir names d d') (hway : d'.way dir = .ok base) :
    d.way dir = .ok base := by
  unfold way at hway ⊢
  rw [h.current] at hway
  exact walk_of_directories (fun p => (h.directories p).1) hway

/-- Changes one after the other, in `names` and then in `names'`, are one change in `names ∪
names'`. A place below `dir` on the second disk is one on the first, by `way_eq`. -/
theorem trans {names' : Set String} (h : ChangedIn dir names d d')
    (h' : ChangedIn dir names' d' d'') : ChangedIn dir (names ∪ names') d d'' where
  current := h'.current.trans h.current
  directories p := (h'.directories p).trans (h.directories p)
  elsewhere p := by
    rcases h'.elsewhere p with hsame | ⟨base, hway, n, hn, hp⟩
    · rcases h.elsewhere p with hsame' | ⟨base, hway, n, hn, hp⟩
      · exact .inl (hsame.trans hsame')
      · exact .inr ⟨base, hway, n, .inl hn, hp⟩
    · exact .inr ⟨base, h.way_eq hway, n, .inr hn, hp⟩

/-- `ChangedIn` is monotone in the set of names. -/
theorem mono {names' : Set String} (h : ChangedIn dir names d d') (hsub : names ⊆ names') :
    ChangedIn dir names' d d' where
  current := h.current
  directories := h.directories
  elsewhere p := (h.elsewhere p).imp_right fun ⟨base, hway, n, hn, hp⟩ => ⟨base, hway, n, hsub hn, hp⟩

/-- What can be reached on `d` can still be reached on `d'`. -/
theorem resolve (h : ChangedIn dir names d d') {path : String} (hpath : d.resolve path = .ok place) :
    d'.resolve path = .ok place :=
  resolve_of_directories (fun p => (h.directories p).2) h.current hpath

/-- Where `d.way dir` leads nowhere, nothing has changed. -/
theorem nodeAt_eq (h : ChangedIn dir names d d') (hway : ∀ base, d.way dir ≠ .ok base) (p : Place) :
    d'.nodeAt p = d.nodeAt p := by
  rcases h.elsewhere p with hsame | ⟨base, hbase, -⟩
  · exact hsame
  · exact absurd hbase (hway base)

end ChangedIn

/-- `d.find` depends on the places and on the current directory alone. -/
theorem find_congr (hcurrent : d'.current = d.current) (h : ∀ p, d'.nodeAt p = d.nodeAt p)
    (path : String) : d'.find path = d.find path := by
  have hwalk : ∀ (names : List String) (start : Place), d'.walk start names = d.walk start names := by
    intro names
    induction names with
    | nil => intro start; rfl
    | cons n names ih => intro start; rw [walk, walk, h, ih, ih]
  unfold find resolve
  rw [hcurrent, hwalk]
  simp only [h]

/-- **What stands at another name of the directory stays**: `find` of `dir / name` is the same for
`name ∉ names`, and so is the reason why nothing can be found there. -/
theorem ChangedIn.find_join (h : ChangedIn dir names d d') (hname : Path.Plain name)
    (hother : name ∉ names) : d'.find (Path.join dir name) = d.find (Path.join dir name) := by
  by_cases hway : ∃ base, d.way dir = .ok base
  · obtain ⟨base, hway⟩ := hway
    have hway' : d'.way dir = .ok base := by
      unfold way at hway ⊢
      rw [h.current]
      exact walk_of_directories (fun p => (h.directories p).2) hway
    -- neither the directory nor the name in it is a place that has changed
    have hbase : d'.nodeAt base = d.nodeAt base := by
      rcases h.elsewhere base with hsame | ⟨base', hway'', n, -, hp⟩
      · exact hsame
      · rw [hway, Except.ok.injEq] at hway''
        simp [← hway''] at hp
    have hnode : d'.nodeAt (base ++ [name]) = d.nodeAt (base ++ [name]) := by
      rcases h.elsewhere (base ++ [name]) with hsame | ⟨base', hway'', n, hn, hp⟩
      · exact hsame
      · rw [hway, Except.ok.injEq] at hway''
        rw [← hway'', List.append_cancel_left_eq, List.singleton_inj] at hp
        exact absurd (hp ▸ hn) hother
    have hlast : d'.walk base [name] = d.walk base [name] := by
      rw [walk, walk, hbase]
      rfl
    have hresolve : d'.resolve (Path.join dir name) = d.resolve (Path.join dir name) := by
      unfold Disk.resolve
      rw [Path.isAbsolute_join hname, Path.parts_join hname, walk_append_of_ok hway,
        walk_append_of_ok hway', hlast]
    unfold find
    rw [hresolve]
    cases hres : d.resolve (Path.join dir name) with
    | error e => rfl
    | ok place =>
      obtain ⟨base', hway'', -, rfl⟩ := exists_of_resolve_join hname hres
      rw [hway, Except.ok.injEq] at hway''
      simp only [← hway'', hnode]
  · rw [find_congr h.current (h.nodeAt_eq fun base hbase => hway ⟨base, hbase⟩)]

/-! ## What stands elsewhere

A file that is written over or removed changes nothing for a path that leads to another place, also
outside of its directory. -/

/-- `(d.setNode place (.file new)).resolve path = d.resolve path` where a file stands at `place`:
the way to a path does not go through files, whatever they hold. -/
theorem resolve_setNode_of_file {content : ByteArray}
    (hfile : d.nodeAt place = some (.file content)) (new : ByteArray) (path : String) :
    (d.setNode place (.file new)).resolve path = d.resolve path := by
  have hself : (d.setNode place (.file new)).nodeAt place = some (.file new) :=
    nodeAt_setNode_self (by rintro rfl; cases hfile) _
  have hwalk : ∀ (names : List String) (start : Place),
      (d.setNode place (.file new)).walk start names = d.walk start names := by
    intro names
    induction names with
    | nil => intro start; rfl
    | cons n names ih =>
      intro start
      rw [walk, walk]
      -- at `place` itself the walk stops on both disks, since a file has no entries; elsewhere the
      -- nodes agree
      by_cases hstart : start = place
      · rw [hstart, hself, hfile]
      · rw [nodeAt_setNode_of_ne hstart, ih, ih]
  have hcurrent : (d.setNode place (.file new)).current = d.current := rfl
  unfold resolve
  rw [hcurrent, hwalk]

/-- A file that is written over stays out of the way of every other path: `d.find path` is the same
unless `path` leads to `place`. -/
theorem find_setNode_of_file {content : ByteArray} (hfile : d.nodeAt place = some (.file content))
    (new : ByteArray) {path : String} (hother : d.resolve path ≠ .ok place) :
    (d.setNode place (.file new)).find path = d.find path := by
  unfold find
  rw [resolve_setNode_of_file hfile]
  cases hres : d.resolve path with
  | error e => rfl
  | ok target =>
    have hne : target ≠ place := fun he => hother (he ▸ hres)
    simp only [nodeAt_setNode_of_ne hne]

/-- `(d.dropNode place).find path` for a file at `place`: it is out of the way of every path that
leads to another place, since no way goes through a file. -/
theorem find_dropNode_of_file {content : ByteArray} (hfile : d.nodeAt place = some (.file content))
    {path : String} {target : Place} (hres : d.resolve path = .ok target) (hne : target ≠ place) :
    (d.dropNode place).find path = d.find path := by
  have hdirs : ∀ p, d.nodeAt p = some .directory → (d.dropNode place).nodeAt p = some .directory := by
    intro p hp
    have hplace : p ≠ place := by
      rintro rfl
      exact absurd (hp.symm.trans hfile) (by simp)
    rwa [nodeAt_dropNode_of_ne hplace]
  unfold find
  rw [resolve_of_directories hdirs rfl hres, hres]
  simp only [nodeAt_dropNode_of_ne hne]

/-! ## What stands at a file -/

/-- Where a path leads to a file and does not end in a slash, `d.find path` is that file. -/
theorem find_of_file {path : String} {content : ByteArray} (hres : d.resolve path = .ok place)
    (hnode : d.nodeAt place = some (.file content)) (hwants : Path.wantsDirectory path = false) :
    d.find path = .ok (.file content) := by
  rw [find, hres]
  simp only [hnode, hwants]
  rfl

/-- Where a path leads to a place at which nothing stands, `d.find path = .error .notFound`. -/
theorem find_of_none {path : String} (hres : d.resolve path = .ok place)
    (hnode : d.nodeAt place = none) : d.find path = .error .notFound := by
  rw [find, hres]
  simp only [hnode]

/-- The converse of `find_of_file`: what `d.find path` finds as a file stands at the place the path
leads to, and the path does not ask for a directory. -/
theorem exists_of_find_file {path : String} {content : ByteArray}
    (h : d.find path = .ok (.file content)) :
    ∃ place, d.resolve path = .ok place ∧ d.nodeAt place = some (.file content) ∧
      Path.wantsDirectory path = false := by
  unfold find at h
  cases hres : d.resolve path with
  | error e => simp [hres] at h
  | ok place =>
    refine ⟨place, rfl, ?_⟩
    rw [hres] at h
    rcases hnode : d.nodeAt place with _ | _ | c
    · simp [hnode] at h
    · simp [hnode] at h
    · cases hwants : Path.wantsDirectory path <;> simp_all

/-- `d.list dir` has `name` where a file `dir / name` is found. -/
theorem exists_list_of_find {content : ByteArray} (hname : Path.Plain name) (hdir : dir ≠ "")
    (h : d.find (Path.join dir name) = .ok (.file content)) :
    ∃ names, d.list dir = .ok names ∧ name ∈ names := by
  obtain ⟨place, hres, hnode, -⟩ := exists_of_find_file h
  obtain ⟨base, hway, hbase, rfl⟩ := exists_of_resolve_join hname hres
  obtain ⟨hnul, -, hlong, -⟩ := resolve_eq_ok_iff.1 hres
  -- the path to the directory is a front part of the path to the file
  obtain ⟨rest, hjoin⟩ := Path.exists_join_eq hname dir
  rw [hjoin, String.toList_append] at hnul
  rw [hjoin, String.utf8ByteSize_append] at hlong
  have hresolve : d.resolve dir = .ok base := resolve_eq_ok_iff.2
    ⟨fun hmem => hnul (List.mem_append_left _ hmem), hdir,
      Nat.le_trans (Nat.le_add_right _ _) hlong, hway⟩
  refine ⟨d.namesAt base, ?_, ?_⟩
  · unfold list
    rw [hresolve]
    simp only [hbase]
  · rw [mem_namesAt_iff, hnode]
    rfl

/-! ## The operations -/

/-- A place that is not a directory is not the root, which is one. -/
theorem ne_nil_of_nodeAt (h : d.nodeAt place ≠ some .directory) : place ≠ [] := by
  rintro rfl
  exact h rfl

/-- `ChangedIn` from the places: a node may change only at a name of the directory, and only where
there was no directory and is none. -/
theorem changedIn_of_files (hcurrent : d'.current = d.current)
    (h : ∀ p, d'.nodeAt p = d.nodeAt p ∨
      d.nodeAt p ≠ some .directory ∧ d'.nodeAt p ≠ some .directory ∧
        ∃ n ∈ names, Path.Plain n ∧ d.resolve (Path.join dir n) = .ok p) :
    ChangedIn dir names d d' where
  current := hcurrent
  directories p := by
    rcases h p with hsame | ⟨hfile, hfile', -⟩
    · rw [hsame]
    · exact iff_of_false hfile' hfile
  elsewhere p := by
    rcases h p with hsame | ⟨-, -, n, hn, hplain, hres⟩
    · exact .inl hsame
    · obtain ⟨base, hway, -, hplace⟩ := exists_of_resolve_join hplain hres
      exact .inr ⟨base, hway, n, hn, hplace⟩

/-- `x >>= f` succeeds only if `x` does, and `f` on its value: the inversion by which the operations
below are taken apart. -/
theorem ok_of_bind {α β : Type} {x : Except OsError α} {f : α → Except OsError β} {b : β}
    (h : (x >>= f) = .ok b) : ∃ a, x = .ok a ∧ f a = .ok b := by
  cases x with
  | error e => cases h
  | ok a => exact ⟨a, rfl, h⟩

/-- What `d.writeFile path content` needs: a place where no directory stands, under a path that
means none. Behind it the disk is `d.setNode place (.file content)`. -/
theorem exists_of_writeFile {path : String} {content : ByteArray}
    (h : d.writeFile path content = .ok d') :
    ∃ place, d.resolve path = .ok place ∧ d.nodeAt place ≠ some .directory ∧
      Path.wantsDirectory path = false ∧ d' = d.setNode place (.file content) := by
  obtain ⟨place, hres, h⟩ := ok_of_bind h
  obtain ⟨u, -, h⟩ := ok_of_bind h
  refine ⟨place, hres, ?_⟩
  rcases hnode : d.nodeAt place with _ | _ | c
  · rw [hnode] at h
    cases hwants : Path.wantsDirectory path <;> simp only [hwants] at h <;> cases h
    exact ⟨nofun, rfl, rfl⟩
  · rw [hnode] at h
    cases h
  · rw [hnode] at h
    cases hwants : Path.wantsDirectory path <;> simp only [hwants] at h <;> cases h
    exact ⟨nofun, rfl, rfl⟩

/-- **A file that was written** is there, and no other one has changed: `ChangedIn dir {name}`. -/
theorem changedIn_writeFile {content : ByteArray} (hname : Path.Plain name)
    (h : d.writeFile (Path.join dir name) content = .ok d') :
    ChangedIn dir {name} d d' ∧ d'.find (Path.join dir name) = .ok (.file content) := by
  obtain ⟨place, hres, hfile, hwants, rfl⟩ := exists_of_writeFile h
  have hnode : (d.setNode place (.file content)).nodeAt place = some (.file content) :=
    nodeAt_setNode_self (ne_nil_of_nodeAt hfile) _
  have hchange : ChangedIn dir {name} d (d.setNode place (.file content)) := by
    refine changedIn_of_files rfl fun p => ?_
    by_cases hp : p = place
    · subst hp
      exact .inr ⟨hfile, by rw [hnode]; nofun, name, rfl, hname, hres⟩
    · exact .inl (nodeAt_setNode_of_ne hp _)
  exact ⟨hchange, find_of_file (hchange.resolve hres) hnode hwants⟩

/-- `d.writeText (dir / name) text = .ok d'`: only `name` has changed, and the file holds the UTF-8
bytes of the text. -/
theorem changedIn_writeText {text : String} (hname : Path.Plain name)
    (h : d.writeText (Path.join dir name) text = .ok d') :
    ChangedIn dir {name} d d' ∧ d'.find (Path.join dir name) = .ok (.file text.toUTF8) := by
  unfold writeText at h
  exact changedIn_writeFile hname h

/-- What `d.removeFile path` removes is a file, and the disk behind it is `d.dropNode place`. -/
theorem exists_of_removeFile {path : String} (h : d.removeFile path = .ok d') :
    ∃ place content, d.resolve path = .ok place ∧ d.nodeAt place = some (.file content) ∧
      d' = d.dropNode place := by
  obtain ⟨place, hres, h⟩ := ok_of_bind h
  rcases hnode : d.nodeAt place with _ | _ | c <;> rw [hnode] at h
  · cases h
  · cases h
  · cases hwants : Path.wantsDirectory path <;> simp only [hwants] at h <;> cases h
    exact ⟨place, c, hres, hnode, rfl⟩

/-- Behind `d.removeFile path = .ok d'` the path is `.notFound`. -/
theorem find_of_removeFile {path : String} (h : d.removeFile path = .ok d') :
    d'.find path = .error .notFound := by
  obtain ⟨place, content, hres, hfile, rfl⟩ := exists_of_removeFile h
  have hdirs : ∀ p, d.nodeAt p = some .directory → (d.dropNode place).nodeAt p = some .directory := by
    intro p hp
    rw [nodeAt_dropNode_of_ne, hp]
    rintro rfl
    rw [hfile] at hp
    cases hp
  have hne : place ≠ [] := ne_nil_of_nodeAt (by rw [hfile]; nofun)
  exact find_of_none (resolve_of_directories hdirs rfl hres) (nodeAt_dropNode_self hne)

/-- A file that is there can be removed. -/
theorem exists_removeFile {path : String} {content : ByteArray}
    (h : d.find path = .ok (.file content)) : ∃ d', d.removeFile path = .ok d' := by
  obtain ⟨place, hres, hnode, hwants⟩ := exists_of_find_file h
  refine ⟨d.dropNode place, ?_⟩
  unfold removeFile
  rw [hres]
  simp only [bind, Except.bind, hnode, hwants]
  rfl

/-- Where `removeFile` says `.notFound`, so does `find`. -/
theorem find_of_removeFile_notFound {path : String} (h : d.removeFile path = .error .notFound) :
    d.find path = .error .notFound := by
  unfold removeFile at h
  unfold find
  cases hres : d.resolve path with
  | error e =>
    rw [hres] at h
    cases h
    rfl
  | ok place =>
    rw [hres] at h
    dsimp only
    -- of the nodes, only the missing one is refused with `notFound`
    rcases hnode : d.nodeAt place with _ | _ | c
    · rfl
    · simp [bind, Except.bind, hnode] at h
      cases h
    · by_cases hwants : Path.wantsDirectory path
      · simp [bind, Except.bind, hnode, hwants] at h
        cases h
      · simp [bind, Except.bind, hnode, hwants] at h
        cases h

/-- **A file that was removed** is gone, and no other one has changed: `ChangedIn dir {name}`. -/
theorem changedIn_removeFile (hname : Path.Plain name)
    (h : d.removeFile (Path.join dir name) = .ok d') :
    ChangedIn dir {name} d d' ∧ d'.find (Path.join dir name) = .error .notFound := by
  obtain ⟨place, content, hres, hfile, rfl⟩ := exists_of_removeFile h
  have hdir : d.nodeAt place ≠ some .directory := by
    rw [hfile]
    nofun
  have hnode : (d.dropNode place).nodeAt place = none :=
    nodeAt_dropNode_self (ne_nil_of_nodeAt hdir)
  have hchange : ChangedIn dir {name} d (d.dropNode place) := by
    refine changedIn_of_files rfl fun p => ?_
    by_cases hp : p = place
    · subst hp
      exact .inr ⟨hdir, by rw [hnode]; nofun, name, rfl, hname, hres⟩
    · exact .inl (nodeAt_dropNode_of_ne hp)
  exact ⟨hchange, find_of_removeFile h⟩

/-- What `d.rename old new` needs: a file at the one place and no directory at the other. The order
in which the two places are changed depends on whether something stood at `new`. -/
theorem exists_of_rename {old new : String} (h : d.rename old new = .ok d') :
    ∃ source target content, d.resolve old = .ok source ∧ d.resolve new = .ok target ∧
      d.nodeAt source = some (.file content) ∧ d.nodeAt target ≠ some .directory ∧
      (d' = (d.dropNode source).setNode target (.file content) ∨
        d' = ((d.dropNode source).dropNode target).setNode target (.file content)) := by
  obtain ⟨source, hold, h⟩ := ok_of_bind h
  obtain ⟨target, hnew, h⟩ := ok_of_bind h
  rcases hsource : d.nodeAt source with _ | _ | c <;>
    rcases htarget : d.nodeAt target with _ | _ | c' <;> rw [hsource, htarget] at h
  case some.file.none =>
    obtain ⟨u, -, h⟩ := ok_of_bind h
    cases h
    exact ⟨source, target, c, hold, hnew, hsource, by rw [htarget]; nofun, .inl rfl⟩
  case some.file.some.file =>
    cases h
    exact ⟨source, target, c, hold, hnew, hsource, by rw [htarget]; nofun, .inr rfl⟩
  all_goals cases h

/-- **A file that was moved** to another name of its directory is there, and no third one has
changed: `ChangedIn dir {old, new}`. -/
theorem changedIn_rename {old new : String} (hold : Path.Plain old) (hnew : Path.Plain new)
    (h : d.rename (Path.join dir old) (Path.join dir new) = .ok d') :
    ChangedIn dir {old, new} d d' ∧ ∃ content, d.find (Path.join dir old) = .ok (.file content) ∧
      d'.find (Path.join dir new) = .ok (.file content) := by
  obtain ⟨source, target, content, hres, hres', hsource, htarget, hd'⟩ := exists_of_rename h
  have hdir : d.nodeAt source ≠ some .directory := by
    rw [hsource]
    nofun
  have htarget' : d'.nodeAt target = some (.file content) := by
    rcases hd' with rfl | rfl <;> exact nodeAt_setNode_self (ne_nil_of_nodeAt htarget) _
  -- the other places are those of the disk without the file
  have hothers : ∀ p, p ≠ target → d'.nodeAt p = (d.dropNode source).nodeAt p := by
    intro p hp
    rcases hd' with rfl | rfl
    · exact nodeAt_setNode_of_ne hp _
    · exact (nodeAt_setNode_of_ne hp _).trans (nodeAt_dropNode_of_ne hp)
  have hcurrent : d'.current = d.current := by rcases hd' with rfl | rfl <;> rfl
  have hchange : ChangedIn dir {old, new} d d' := by
    refine changedIn_of_files hcurrent fun p => ?_
    by_cases hp : p = target
    · subst hp
      exact .inr ⟨htarget, by rw [htarget']; nofun, new, .inr rfl, hnew, hres'⟩
    by_cases hp' : p = source
    · subst hp'
      have hgone : d'.nodeAt p = none := by
        rw [hothers p hp, nodeAt_dropNode_self (ne_nil_of_nodeAt hdir)]
      exact .inr ⟨hdir, by rw [hgone]; nofun, old, .inl rfl, hold, hres⟩
    · exact .inl ((hothers p hp).trans (nodeAt_dropNode_of_ne hp'))
  exact ⟨hchange, content, find_of_file hres hsource (Path.wantsDirectory_join hold),
    find_of_file (hchange.resolve hres') htarget' (Path.wantsDirectory_join hnew)⟩

end MountKeeper.Disk
