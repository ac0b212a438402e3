import MountKeeper.Proofs.Disk.Change
import Mathlib.Logic.Function.Basic

/-! # The contents of a directory

What a directory holds is seen as a function of the names that its files can have.

* `Disk.contents d dir` is that function.
* `contents_writeText`, `contents_removeFile`, `contents_rename`: an operation that answers changes it
  at the names it is about.
* `exists_rename_append`: a file whose name starts with that of another file can be moved there, unless
  a directory stands in the way. -/

namespace MountKeeper

/-- The names that a file of a directory can have. -/
abbrev Path.Name := {name : String // Path.Plain name}

namespace Disk

variable {d d' : Disk} {dir : String} {place : Place} (old new name : Path.Name)

/-- What stands at each name of a directory, or why nothing is found there. -/
def contents (d : Disk) (dir : String) (name : Path.Name) : Except OsError Node :=
  d.find (Path.join dir name.1)

/-- Disks that differ in one file of a directory hold the same there but for that file. -/
theorem ChangedIn.contents_eq {name : Path.Name} (h : ChangedIn dir {name.1} d d') :
    d'.contents dir = Function.update (d.contents dir) name (d'.contents dir name) := by
  refine Function.eq_update_iff.2 ⟨rfl, fun other hother => h.find_join other.2 fun hmem => ?_⟩
  exact hother (Subtype.ext hmem)

/-- `writeText` updates `contents` at one name, with the UTF-8 bytes of the text. -/
theorem contents_writeText {text : String}
    (h : d.writeText (Path.join dir name.1) text = .ok d') :
    d'.contents dir = Function.update (d.contents dir) name (.ok (.file text.toUTF8)) := by
  obtain ⟨hchange, hthere⟩ := changedIn_writeText name.2 h
  rw [hchange.contents_eq, contents, hthere]

/-- `removeFile` updates `contents` at one name, with `.notFound`. -/
theorem contents_removeFile (h : d.removeFile (Path.join dir name.1) = .ok d') :
    d'.contents dir = Function.update (d.contents dir) name (.error .notFound) := by
  obtain ⟨hchange, hgone⟩ := changedIn_removeFile name.2 h
  rw [hchange.contents_eq, contents, hgone]

/-- A file that was moved to another name is gone from where it was. -/
theorem find_of_rename {old new : Path.Name} (hne : old ≠ new)
    (h : d.rename (Path.join dir old.1) (Path.join dir new.1) = .ok d') :
    d'.find (Path.join dir old.1) = .error .notFound := by
  obtain ⟨hchange, -⟩ := changedIn_rename old.2 new.2 h
  obtain ⟨source, target, content, hold, hnew, hsource, htarget, hd'⟩ := exists_of_rename h
  obtain ⟨base, hway, -, rfl⟩ := exists_of_resolve_join old.2 hold
  obtain ⟨base', hway', -, rfl⟩ := exists_of_resolve_join new.2 hnew
  obtain rfl : base = base' := Except.ok.inj (hway.symm.trans hway')
  have hplaces : base ++ [old.1] ≠ base ++ [new.1] := by
    rw [ne_eq, List.append_cancel_left_eq, List.singleton_inj]
    exact fun he => hne (Subtype.ext he)
  have hgone : (d.dropNode (base ++ [old.1])).nodeAt (base ++ [old.1]) = none :=
    nodeAt_dropNode_self (by simp)
  refine find_of_none (hchange.resolve hold) ?_
  rcases hd' with rfl | rfl
  · rw [nodeAt_setNode_of_ne hplaces, hgone]
  · rw [nodeAt_setNode_of_ne hplaces, nodeAt_dropNode_of_ne hplaces, hgone]

/-- `rename` updates `contents` at two names: the file is gone under the old one, and stands under
the new one. -/
theorem contents_rename (hne : old ≠ new) {content : ByteArray}
    (hold : d.contents dir old = .ok (.file content))
    (h : d.rename (Path.join dir old.1) (Path.join dir new.1) = .ok d') :
    d'.contents dir = Function.update (Function.update (d.contents dir) old (.error .notFound)) new
      (.ok (.file content)) := by
  obtain ⟨hchange, content', hthere, hmoved⟩ := changedIn_rename old.2 new.2 h
  obtain rfl : content = content' := by
    rw [contents, hthere] at hold
    cases hold
    rfl
  refine Function.eq_update_iff.2 ⟨hmoved, fun other hother => ?_⟩
  -- the old name is gone even if another name is asked for; the names that are neither are outside
  -- the change
  by_cases hsource : other = old
  · rw [hsource, Function.update_self]
    exact find_of_rename hne h
  · rw [Function.update_of_ne hsource]
    refine hchange.find_join other.2 ?_
    rintro (he | he)
    · exact hsource (Subtype.ext he)
    · exact hother (Subtype.ext he)

/-! ## Names that start alike -/

/-- The path of a file starts with that of another one if its name does. -/
theorem join_append {name ext : String} (hname : Path.Plain name)
    (hlonger : Path.Plain (name ++ ext)) :
    Path.join dir (name ++ ext) = Path.join dir name ++ ext := by
  rw [← String.toList_inj, String.toList_append, Path.toList_join hname, Path.toList_join hlonger,
    String.toList_append]
  split <;> simp

/-- Where the path of a file can be followed, so can that of a file whose name it starts with. -/
theorem resolve_join_of_append {name ext : String} {base : Place} (hname : Path.Plain name)
    (hlonger : Path.Plain (name ++ ext))
    (h : d.resolve (Path.join dir (name ++ ext)) = .ok (base ++ [name ++ ext])) :
    d.nodeAt base = some .directory ∧ d.resolve (Path.join dir name) = .ok (base ++ [name]) := by
  obtain ⟨base', hway, hbase, hplace⟩ := exists_of_resolve_join hlonger h
  obtain rfl : base = base' := by simpa using hplace
  obtain ⟨hnul, -, hlong, hwalk⟩ := resolve_eq_ok_iff.1 h
  rw [join_append hname hlonger, String.toList_append, List.mem_append, not_or] at hnul
  rw [join_append hname hlonger, String.utf8ByteSize_append] at hlong
  -- the last name on the way is the longer one
  rw [Path.isAbsolute_join hlonger, Path.parts_join hlonger, walk_append_of_ok hway,
    walk_cons_eq_ok_iff] at hwalk
  obtain ⟨-, ⟨hup, -⟩ | ⟨-, hshort, -⟩⟩ := hwalk
  · exact absurd hup hlonger.ne_up
  rw [String.utf8ByteSize_append] at hshort
  refine ⟨hbase, resolve_eq_ok_iff.2 ⟨hnul.1, Path.join_ne_empty hname, by omega, ?_⟩⟩
  rw [Path.isAbsolute_join hname, Path.parts_join hname]
  exact walk_append hway hbase hname.ne_up (by omega)

/-- **A file can be moved** to where its name starts with that of the target, unless a directory stands
there. -/
theorem exists_rename_append {name ext : String} {content : ByteArray} (hname : Path.Plain name)
    (hlonger : Path.Plain (name ++ ext))
    (hfile : d.find (Path.join dir (name ++ ext)) = .ok (.file content))
    (hfree : d.find (Path.join dir name) ≠ .ok .directory) :
    ∃ d', d.rename (Path.join dir (name ++ ext)) (Path.join dir name) = .ok d' := by
  obtain ⟨source, hold, hsource, -⟩ := exists_of_find_file hfile
  obtain ⟨base, -, -, rfl⟩ := exists_of_resolve_join hlonger hold
  obtain ⟨hbase, hnew⟩ := resolve_join_of_append hname hlonger hold
  unfold rename
  rw [hold, hnew]
  dsimp only [bind, Except.bind]
  rw [hsource]
  -- a rename onto nothing or onto a file is done; `hfree` excludes the directory
  rcases htarget : d.nodeAt (base ++ [name]) with _ | _ | c
  · have hparent : d.checkParent (base ++ [name]) = .ok () := by
      rw [checkParent, List.dropLast_concat, hbase]
    rw [hparent]
    exact ⟨_, rfl⟩
  · refine absurd ?_ hfree
    rw [find, hnew]
    dsimp only
    rw [htarget]
  · exact ⟨_, rfl⟩

end Disk

end MountKeeper
