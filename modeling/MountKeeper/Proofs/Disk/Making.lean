import MountKeeper.Proofs.Disk.Change

/-! # What was made is there

On any disk and for any path, an operation that answers has made what it was asked for, and has
taken no directory away.

* `Disk.isDir_of_makeDirs`: a directory that was made is there, whether it had been there or not.
* `Disk.readText_of_writeText`: a text that was written is read back.
* `Disk.isDir_of_writeText`: the directories are still there behind a file that was written. -/

namespace MountKeeper.Disk

variable {d d' : Disk} {path : String}

/-- `isDir path` says that the path leads to a directory. -/
theorem isDir_iff : d.isDir path = true ↔
    ∃ place, d.resolve path = .ok place ∧ d.nodeAt place = some .directory := by
  unfold isDir find
  cases hres : d.resolve path with
  | error e => simp
  | ok place =>
    rcases hnode : d.nodeAt place with _ | _ | c
    · simp [hnode]
    · simp [hnode]
    · cases hwants : Path.wantsDirectory path <;> simp [hnode]

/-- A directory is found as long as no directory is taken away. -/
theorem isDir_of_directories
    (h : ∀ p, d.nodeAt p = some .directory → d'.nodeAt p = some .directory)
    (hcurrent : d'.current = d.current) (hdir : d.isDir path = true) : d'.isDir path = true := by
  obtain ⟨place, hres, hnode⟩ := isDir_iff.1 hdir
  exact isDir_iff.2 ⟨place, resolve_of_directories h hcurrent hres, h place hnode⟩

/-! ## Directories -/

/-- A directory is made where nothing stands. -/
theorem isDir_of_makeDir (h : d.makeDir path = .ok d') : d'.isDir path = true := by
  obtain ⟨place, hres, h⟩ := ok_of_bind h
  obtain ⟨u, -, h⟩ := ok_of_bind h
  rcases hnode : d.nodeAt place with _ | n
  · rw [hnode] at h
    cases h
    have hplace : place ≠ [] := ne_nil_of_nodeAt (by rw [hnode]; nofun)
    have hself : (d.setNode place .directory).nodeAt place = some .directory :=
      nodeAt_setNode_self hplace _
    -- a new directory takes no directory away, so the path resolves on the new disk as on the old
    -- one
    have hkept : ∀ p, d.nodeAt p = some .directory →
        (d.setNode place .directory).nodeAt p = some .directory := by
      intro p hp
      by_cases hother : p = place
      · rw [hother, hself]
      · rw [nodeAt_setNode_of_ne hother, hp]
    exact isDir_iff.2 ⟨place, resolve_of_directories hkept rfl hres, hself⟩
  · rw [hnode] at h
    cases h

/-- **A directory that was made is there**, with whatever was there before. -/
theorem isDir_of_makeDirs (hpath : path ≠ "") (h : (makeDirs path).runOn d = (.ok (), d')) :
    d'.isDir path = true := by
  change makeDirsUpTo (path.length + 1) path d = _ at h
  simp only [makeDirsUpTo, if_neg hpath] at h
  -- the last step has made the directory or found it there
  split at h
  · next hmade =>
    cases h
    exact isDir_of_makeDir hmade
  · split at h
    · cases h
    · split at h
      · cases h
      · split at h
        · next hmade =>
          cases h
          exact isDir_of_makeDir hmade
        · split at h
          · next hdir =>
            cases h
            exact hdir
          · cases h
  · split at h
    · next hdir =>
      cases h
      exact hdir
    · cases h

/-! ## Files -/

/-- A file that is written takes no directory away. -/
theorem directories_of_writeFile {content : ByteArray} (h : d.writeFile path content = .ok d') :
    d'.current = d.current ∧ ∀ p, d.nodeAt p = some .directory → d'.nodeAt p = some .directory := by
  obtain ⟨place, -, hfile, -, rfl⟩ := exists_of_writeFile h
  refine ⟨rfl, fun p hp => ?_⟩
  have hother : p ≠ place := fun he => hfile (he ▸ hp)
  rw [nodeAt_setNode_of_ne hother, hp]

/-- To write a file leaves the directories. -/
theorem isDir_of_writeText {file text : String} (h : d.writeText file text = .ok d')
    (hdir : d.isDir path = true) : d'.isDir path = true := by
  obtain ⟨hcurrent, hkept⟩ := directories_of_writeFile h
  exact isDir_of_directories hkept hcurrent hdir

/-- **A text that was written is read back.** -/
theorem readText_of_writeText {text : String} (h : d.writeText path text = .ok d') :
    d'.readText path = .ok text := by
  obtain ⟨hcurrent, hkept⟩ := directories_of_writeFile h
  obtain ⟨place, hres, hfile, hwants, rfl⟩ := exists_of_writeFile h
  exact readText_of_find (find_of_file (resolve_of_directories hkept hcurrent hres)
    (nodeAt_setNode_self (ne_nil_of_nodeAt hfile) _) hwants)

end MountKeeper.Disk
