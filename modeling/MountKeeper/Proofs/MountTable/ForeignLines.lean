import MountKeeper.Proofs.MountTable.Listing
import MountKeeper.Proofs.Sessions.Indifference
import MountKeeper.Proofs.Text.ByteLines
import MountKeeper.Proofs.Text.Piece

/-! # Lines of others

A table has the mounts of everyone. It is read as one text, and then cut into lines of which only ours
are used. A line of another that is text is passed over; one that is no text takes our own entries with
it, because the table as a whole is no text then.

* `MountTable.ownLines` are the lines of a table that start with the name of our source, as bytes, and
  `MountTable.foreignLines` are the others.
* `readTable_of_readBytes`: a table is listed if and only if all its lines are text, and by its own
  lines only.
* `SameOurs F`: two tables have the same lines of ours, and all their others are from a set `F`.
* `PassesOver F`: such tables are listed alike, and so is all answered that a manager is asked for on a
  platform that looks at nothing of the table but what is listed. `overlooks_withTable`: any platform
  beside a table is one.
* `passesOver_iff`: lines of others from `F` are passed over if and only if they are text. -/

namespace MountKeeper

namespace MountTable

open Utf8 (decode encode IsText newline)

/-! ## The lines of a table -/

/-- Whether a line, as bytes, starts with the name of our source. -/
def isOwnLine (line : List UInt8) : Bool :=
  (encode sourceName.toList).isPrefixOf line

/-- Our lines in the bytes of a table. -/
def ownLines (bytes : List UInt8) : List (List UInt8) :=
  (Utf8.lines bytes).filter isOwnLine

/-- The lines of others in the bytes of a table. -/
def foreignLines (bytes : List UInt8) : List (List UInt8) :=
  (Utf8.lines bytes).filter fun line => !isOwnLine line

/-- What can be a line of another. -/
structure IsForeign (line : List UInt8) : Prop where
  newline_not_mem : newline ∉ line
  not_own : isOwnLine line = false

/-- What `foreignLines` gives is foreign. -/
theorem isForeign_of_mem {bytes line : List UInt8} (h : line ∈ foreignLines bytes) :
    IsForeign line := by
  obtain ⟨hline, hforeign⟩ := List.mem_filter.1 h
  exact ⟨Utf8.newline_not_mem_of_mem_lines hline, by simpa using hforeign⟩

/-- A table is text if and only if our lines and those of others are. -/
theorem isText_iff_own_and_foreign {bytes : List UInt8} :
    IsText bytes ↔ (∀ line ∈ ownLines bytes, IsText line) ∧
      ∀ line ∈ foreignLines bytes, IsText line := by
  rw [Utf8.isText_iff_forall_mem_lines]
  simp only [ownLines, foreignLines, List.mem_filter]
  constructor
  · intro h
    exact ⟨fun line hline => h line hline.1, fun line hline => h line hline.1⟩
  · rintro ⟨hown, hforeign⟩ line hline
    cases hline' : isOwnLine line with
    | true => exact hown line ⟨hline, hline'⟩
    | false => exact hforeign line ⟨hline, by rw [hline', Bool.not_false]⟩

/-! ## Reading -/

/-- A carriage return at the end of a line changes nothing about its path. -/
theorem ownPath?_dropReturn (line : List Char) : ownPath? (Text.dropReturn line) = ownPath? line := by
  have hprefix : sourceName.toList.isPrefixOf (Text.dropReturn line)
      = sourceName.toList.isPrefixOf line := by
    rw [Bool.eq_iff_iff, List.isPrefixOf_iff_prefix, List.isPrefixOf_iff_prefix]
    rcases Text.dropReturn_cases line with h | h
    · rw [h]
    · conv_rhs => rw [h, List.prefix_concat_iff]
      -- the name of our source does not end in a carriage return
      refine ⟨.inr, fun hcases => hcases.resolve_left fun he => ?_⟩
      have hmem : '\r' ∈ sourceName.toList := he ▸ List.mem_append_right _ List.mem_cons_self
      exact absurd hmem (by decide)
  rw [ownPath?, ownPath?, hprefix, Text.words_dropReturn]

/-- The paths of a text are read between its line feeds. -/
theorem entries_eq_filterMap (text : String) :
    entries text = (text.toList.splitOn '\n').filterMap ownPath? := by
  obtain ⟨init, last, hpieces⟩ : ∃ init last, text.toList.splitOn '\n' = init ++ [last] :=
    ⟨_, _, (List.dropLast_concat_getLast (List.splitOn_ne_nil '\n' text.toList)).symm⟩
  have hended : (init.map Text.dropReturn).filterMap ownPath? = init.filterMap ownPath? := by
    rw [List.filterMap_map]
    exact List.filterMap_congr fun line _ => ownPath?_dropReturn line
  have hlast : (if last.isEmpty then [] else [last]).filterMap ownPath?
      = [last].filterMap ownPath? := by
    cases last <;> rfl
  rw [entries, Text.lines, hpieces, List.reverse_append, List.reverse_singleton,
    List.singleton_append]
  simp only [List.map_reverse, List.reverse_reverse, List.filterMap_append, hended, hlast]

/-- The paths of our lines in the bytes of a table. -/
def pathsIn (bytes : List UInt8) : List String :=
  (ownLines bytes).filterMap fun line => ownPath? (decode line)

/-- A line of another has no path of ours, if it is text. -/
theorem ownPath?_decode_of_not_own {line : List UInt8} (htext : IsText line)
    (h : isOwnLine line = false) : ownPath? (decode line) = none := by
  have hprefix : sourceName.toList.isPrefixOf (decode line) = isOwnLine line := by
    rw [isOwnLine, Bool.eq_iff_iff, List.isPrefixOf_iff_prefix, List.isPrefixOf_iff_prefix,
      ← Utf8.encode_prefix_iff, htext]
  rw [ownPath?, hprefix, h, if_neg Bool.false_ne_true]

/-- **The paths of a text** are those of our lines in its bytes. -/
theorem entries_eq_pathsIn (text : String) : entries text = pathsIn text.toUTF8.data.toList := by
  set bytes := text.toUTF8.data.toList
  have htext : IsText bytes := Utf8.isValidUTF8_iff.1 text.isValidUTF8
  have hread : decode bytes = text.toList := Utf8.decode_toUTF8 text
  have hlines : (bytes.splitOn newline).filterMap (fun line => ownPath? (decode line))
      = (Utf8.lines bytes).filterMap fun line => ownPath? (decode line) := by
    rcases Utf8.splitOn_eq_lines bytes with h | h
    · rw [h]
    · rw [h, List.filterMap_append]
      exact List.append_nil _
  rw [entries_eq_filterMap, ← hread, Utf8.splitOn_decode htext, List.filterMap_map, pathsIn, ownLines,
    List.filterMap_filter]
  refine hlines.trans (List.filterMap_congr fun line hline => ?_)
  cases hown : isOwnLine line with
  | true => rfl
  | false =>
    exact ownPath?_decode_of_not_own (Utf8.isText_iff_forall_mem_lines.1 htext line hline) hown

/-- The failure to read a table that is no text. -/
def notText (place : String) : Failure :=
  (Failure.ofOs .invalidText).within s!"failed to read mount table {place}"

/-- **What is listed of a table file**: the paths of our lines if all of it is text, and nothing
otherwise. -/
theorem readTable_of_readBytes {disk : Disk} {place : String} {content : ByteArray}
    (h : disk.readBytes place = .ok content) :
    readTable place disk = if IsText content.data.toList then .ok (pathsIn content.data.toList)
      else .error (notText place) := by
  rw [readTable, Disk.readText, h]
  simp only [String.fromUTF8?]
  by_cases hvalid : content.IsValidUTF8
  · rw [dif_pos hvalid, if_pos (Utf8.isValidUTF8_iff.1 hvalid)]
    exact congrArg Except.ok (entries_eq_pathsIn (String.fromUTF8 content hvalid))
  · rw [dif_neg hvalid, if_neg fun ht => hvalid (Utf8.isValidUTF8_iff.2 ht)]
    rfl

/-! ## Tables that differ in the lines of others -/

/-- The bytes of two tables have the same lines of ours, in the same order, and these are text. The
lines of others, which are from `F`, may be any. -/
structure SameOurs (F : Set (List UInt8)) (bytes bytes' : List UInt8) : Prop where
  ownLines_eq : ownLines bytes = ownLines bytes'
  isText : ∀ line ∈ ownLines bytes, IsText line
  left : ∀ line ∈ foreignLines bytes, line ∈ F
  right : ∀ line ∈ foreignLines bytes', line ∈ F

/-- Two disks have such tables as a file at a path. -/
def SameOursAt (F : Set (List UInt8)) (place : String) (disk disk' : Disk) : Prop :=
  ∃ content content', disk.readBytes place = .ok content ∧ disk'.readBytes place = .ok content' ∧
    SameOurs F content.data.toList content'.data.toList

variable {F : Set (List UInt8)}

/-- If the lines of others are text, the tables are. -/
theorem SameOurs.isText_both {bytes bytes' : List UInt8} (h : SameOurs F bytes bytes')
    (hF : ∀ line ∈ F, IsForeign line → IsText line) : IsText bytes ∧ IsText bytes' := by
  have hleft := fun line hline => hF line (h.left line hline) (isForeign_of_mem hline)
  have hright := fun line hline => hF line (h.right line hline) (isForeign_of_mem hline)
  exact ⟨isText_iff_own_and_foreign.2 ⟨h.isText, hleft⟩,
    isText_iff_own_and_foreign.2 ⟨h.ownLines_eq ▸ h.isText, hright⟩⟩

/-- Tables that differ in lines of text of others are listed alike. -/
theorem readTable_eq_of_sameOursAt {place : String} {disk disk' : Disk}
    (h : SameOursAt F place disk disk') (hF : ∀ line ∈ F, IsForeign line → IsText line) :
    readTable place disk = readTable place disk' := by
  obtain ⟨content, content', hdisk, hdisk', hours⟩ := h
  obtain ⟨htext, htext'⟩ := hours.isText_both hF
  rw [readTable_of_readBytes hdisk, readTable_of_readBytes hdisk', if_pos htext, if_pos htext',
    pathsIn, pathsIn, hours.ownLines_eq]

/-! ## What others cannot do -/

/-- The mounts of a platform are those of a table file on a part of its host. On hosts that `R` relates,
the tables differ in lines of others from `F`, and the parts of the platform, other than the mount
table, do the same. -/
structure Overlooks {σ : Type} (m : SessionManager σ) (part : Part σ Disk) (place : String)
    (F : Set (List UInt8)) (R : σ → σ → Prop) : Prop extends SessionManager.PartsAlike R m where
  mounts_eq : m.books.mounts = (ofFile place).on part
  sameOurs : ∀ s t, R s t → SameOursAt F place (part.get s) (part.get t)
  put_get : ∀ s, part.put (part.get s) s = s

/-- **The mounts of others are passed over**, as long as their lines are from a set: two tables that
differ in such lines are listed alike, and whatever a manager is asked for is answered alike. -/
structure PassesOver (F : Set (List UInt8)) : Prop where
  list : ∀ place disk disk', SameOursAt F place disk disk' →
    ((ofFile place).list.runOn disk).1 = ((ofFile place).list.runOn disk').1
  manager : ∀ {σ : Type} (m : SessionManager σ) (part : Part σ Disk) (place : String)
    (R : σ → σ → Prop), Overlooks m part place F R → m.AnswersAlike R

/-- A platform that overlooks lines of text of others is indifferent to them. -/
theorem Overlooks.indifferent {σ : Type} {m : SessionManager σ} {part : Part σ Disk}
    {place : String} {R : σ → σ → Prop} (h : Overlooks m part place F R)
    (hF : ∀ line ∈ F, IsForeign line → IsText line) : m.Indifferent R where
  toPartsAlike := h.toPartsAlike
  list := by
    rw [h.mounts_eq]
    exact .on h.put_get (fun _ => rfl) fun s t hst =>
      readTable_eq_of_sameOursAt (h.sameOurs s t hst) hF
  isDisconnected key := by
    rw [h.mounts_eq]
    exact .on h.put_get (fun _ => rfl) fun _ _ _ => rfl

/-- A disk with nothing but the bytes of a table. -/
def diskOf (bytes : List UInt8) : Disk where
  nodes := [(["mtab"], .file ⟨bytes.toArray⟩)]

/-- The table of `diskOf bytes` is `bytes`. -/
theorem readBytes_diskOf (bytes : List UInt8) :
    (diskOf bytes).readBytes "/mtab" = .ok ⟨bytes.toArray⟩ := rfl

/-- To list `diskOf bytes` is to list the paths in `bytes`, if these are UTF-8. -/
theorem list_diskOf (bytes : List UInt8) :
    ((ofFile "/mtab").list.runOn (diskOf bytes)).1
      = if IsText bytes then .ok (pathsIn bytes) else .error (notText "/mtab") :=
  readTable_of_readBytes (readBytes_diskOf bytes)

/-! ### A table beside a platform -/

/-- The part of a host that stands beside a table. -/
def besidePart {σ : Type} : Part (σ × List UInt8) σ := ⟨Prod.fst, fun s x => (s, x.2)⟩

/-- A disk with the table that stands beside a host. -/
def tablePart {σ : Type} : Part (σ × List UInt8) Disk := ⟨fun x => diskOf x.2, fun _ x => x⟩

/-- A platform with its mounts in a table that nothing else on the platform looks at. -/
def withTable {σ : Type} (m : SessionManager σ) : SessionManager (σ × List UInt8) where
  surroundings := m.surroundings
  books := {
    registry := m.books.registry.on besidePart
    mounts := (ofFile "/mtab").on tablePart
    unmounter := ⟨fun path lazily => (m.books.unmounter.unmount path lazily).on besidePart⟩
    processes := {
      isAlive := fun pid => (m.books.processes.isAlive pid).on besidePart
      childrenOf := fun pid => (m.books.processes.childrenOf pid).on besidePart
      pidsNamed := fun name => (m.books.processes.pidsNamed name).on besidePart
      terminate := fun pid => (m.books.processes.terminate pid).on besidePart
      kill := fun pid => (m.books.processes.kill pid).on besidePart } }
  supervisor := {
    start := fun session options => (m.supervisor.start session options).on besidePart
    stop := fun session => (m.supervisor.stop session).on besidePart }
  remount := {
    install := fun record => (m.remount.install record).on besidePart
    uninstall := fun key => (m.remount.uninstall key).on besidePart }
  console := ⟨fun line => (m.console.print line).on besidePart⟩
  disk := ⟨fun x => m.disk.get x.1, fun d x => (m.disk.put d x.1, x.2)⟩
  patterns := m.patterns
  self x := m.self x.1

/-- Whatever its other parts are, a platform with a table beside it overlooks the lines of others. -/
theorem overlooks_withTable {σ : Type} (m : SessionManager σ) (F : Set (List UInt8)) :
    Overlooks (withTable m) tablePart "/mtab" F fun x y => x.1 = y.1 ∧ SameOurs F x.2 y.2 := by
  have hbeside {α : Type} (a : Act σ α) :
      Act.Alike (fun x y => x.1 = y.1 ∧ SameOurs F x.2 y.2) (a.on besidePart) := by
    rintro ⟨s, bytes⟩ ⟨t, bytes'⟩ ⟨hst, hours⟩
    obtain rfl : s = t := hst
    exact ⟨rfl, rfl, hours⟩
  exact {
    lookup := fun _ => hbeside _
    unregister := fun _ => hbeside _
    unmount := fun _ _ => hbeside _
    isAlive := fun _ => hbeside _
    start := fun _ _ => hbeside _
    stop := fun _ => hbeside _
    install := fun _ => hbeside _
    uninstall := fun _ => hbeside _
    print := fun _ => hbeside _
    checkDirectory := fun x y hxy options => congrArg
      (fun s => SessionManager.checkDirectory (m.disk.get s) options) hxy.1
    self := fun x y hxy => congrArg m.self hxy.1
    mounts_eq := rfl
    sameOurs := fun x y hxy => ⟨_, _, readBytes_diskOf x.2, readBytes_diskOf y.2, hxy.2⟩
    put_get := fun _ => rfl }

/-! ## The lines that do no harm -/

/-- A line of another that is no text is told from its absence. -/
theorem not_passesOver_of_mem {line : List UInt8} (hmem : line ∈ F) (hforeign : IsForeign line)
    (htext : ¬ IsText line) : ¬ PassesOver F := by
  have hlines : Utf8.lines (line ++ [newline]) = [line] :=
    Utf8.lines_concat_newline hforeign.newline_not_mem
  -- one table has the line and nothing else, the other is empty
  have hours : SameOurs F (line ++ [newline]) [] := by
    have hown : ownLines (line ++ [newline]) = [] := by
      rw [ownLines, hlines, List.filter_singleton, hforeign.not_own]
      rfl
    refine ⟨hown, by simp [hown], fun other hother => ?_, by simp [foreignLines, Utf8.lines]⟩
    have hother' := (List.mem_filter.1 hother).1
    rw [hlines, List.mem_singleton] at hother'
    exact hother' ▸ hmem
  have hnot : ¬ IsText (line ++ [newline]) := by
    rw [Utf8.isText_iff_forall_mem_lines, hlines]
    exact fun h => htext (h line List.mem_cons_self)
  intro h
  have hsame := h.list "/mtab" _ _ ⟨_, _, readBytes_diskOf _, readBytes_diskOf _, hours⟩
  rw [list_diskOf, list_diskOf, if_neg hnot, if_pos Utf8.isText_nil] at hsame
  cases hsame

/-- **Which lines of others do no harm.** The lines of others from a set are passed over if and only if
each of them is text. -/
theorem passesOver_iff (F : Set (List UInt8)) :
    PassesOver F ↔ ∀ line ∈ F, IsForeign line → IsText line := by
  constructor
  · intro h line hmem hforeign
    by_contra htext
    exact not_passesOver_of_mem hmem hforeign htext h
  · intro hF
    exact {
      list := fun place disk disk' h => readTable_eq_of_sameOursAt h hF
      manager := fun m part place R h => (h.indifferent hF).answersAlike }

/-! ## A line that is no text -/

/-- A table with a mount of ours. -/
def ourTable : List UInt8 :=
  encode "cloudfuse /mnt/a fuse rw 0 0\n".toList

/-- The line of a mount of another, on a directory whose name has a byte that starts no character. -/
def unreadableLine : List UInt8 :=
  encode "sshfs /home/eve/".toList ++ 0xFF :: encode " fuse rw 0 0".toList

/-- The line of another that is no text makes the table unreadable that has it. -/
theorem not_passesOver_unreadableLine :
    ((ofFile "/mtab").list.runOn (diskOf ourTable)).1 = .ok ["/mnt/a"] ∧
      ((ofFile "/mtab").list.runOn (diskOf (ourTable ++ unreadableLine ++ [newline]))).1
        = .error (notText "/mtab") ∧
      ¬ PassesOver Set.univ := by
  have htext : IsText ourTable := Utf8.isText_encode _
  have hpaths : pathsIn ourTable = ["/mnt/a"] := by decide +kernel
  have hnot : ¬ IsText (ourTable ++ unreadableLine ++ [newline]) := by decide +kernel
  have hforeign : IsForeign unreadableLine := ⟨by decide +kernel, by decide +kernel⟩
  refine ⟨?_, ?_, not_passesOver_of_mem (Set.mem_univ _) hforeign (by decide +kernel)⟩
  · rw [list_diskOf, if_pos htext, hpaths]
  · rw [list_diskOf, if_neg hnot]

end MountTable

end MountKeeper
