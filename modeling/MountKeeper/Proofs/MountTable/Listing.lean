import MountKeeper.MountTable
import MountKeeper.Proofs.Disk.Directory
import MountKeeper.Proofs.Text.Line
import Mathlib.Data.List.TakeWhile
import Mathlib.Data.Set.Basic

/-! # What is listed of a table that was printed

The writer of a table prints an entry as a line of six words, and writes as octal escapes the
characters of a path that would cut it: the space, the tab, the line feed, the backslash and the hash.
The reader cuts a line at every blank, and there are more blanks than these.

* `MountTable.Entry` is an entry, `Entry.line` its line, and `MountTable.print` the text of a table.
* `unescape_escape`: what was escaped is read back.
* `piece` is what stands in a path between the blanks that are not escaped. It is what the reader
  takes for the path (`Entry.ownPath?_line`).
* `readsBack_iff`: the tables with our paths from a set are all read back if and only if no path of
  the set has a blank that is not escaped. -/

namespace MountKeeper

namespace MountTable

/-! ## Escapes -/

/-- The characters of a path that are written as escapes. -/
def isEscaped (c : Char) : Bool :=
  c == ' ' || c == '\t' || c == '\n' || c == '\\' || c == '#'

/-- The characters that are escaped are the blank, the tab, the line feed, the backslash and the
number sign. -/
theorem isEscaped_iff {c : Char} :
    isEscaped c = true ↔ c = ' ' ∨ c = '\t' ∨ c = '\n' ∨ c = '\\' ∨ c = '#' := by
  simp [isEscaped, or_assoc]

/-- `octalByte?` reads the three digits of a character below `256` as its number. -/
theorem octalByte?_octalDigits {c : Char} (h : c.toNat < 256) :
    octalByte? (Nat.digitChar (c.toNat / 64)) (Nat.digitChar (c.toNat / 8 % 8))
      (Nat.digitChar (c.toNat % 8)) = some c.toNat := by
  have hall : ∀ n < 256, octalByte? (Nat.digitChar (n / 64)) (Nat.digitChar (n / 8 % 8))
      (Nat.digitChar (n % 8)) = some n := by decide +kernel
  exact hall _ h

/-- `escape special (c :: cs)` is what is written for `c`, and `escape special cs`. -/
theorem escape_cons (special : Char → Bool) (c : Char) (cs : List Char) :
    escape special (c :: cs) = (if special c then '\\' :: octalDigits c else [c]) ++ escape special cs :=
  List.flatMap_cons

/-- `escape special (cs ++ ds) = escape special cs ++ escape special ds`. -/
theorem escape_append (special : Char → Bool) (cs ds : List Char) :
    escape special (cs ++ ds) = escape special cs ++ escape special ds :=
  List.flatMap_append

/-- `escape` writes something for every text but the empty one. -/
theorem escape_ne_nil {special : Char → Bool} {cs : List Char} (h : cs ≠ []) :
    escape special cs ≠ [] := by
  cases cs with
  | nil => exact absurd rfl h
  | cons c cs =>
    rw [escape_cons]
    split <;> simp

/-- `unescape (c :: rest)` for a `c` that is no backslash: it is read as it is. -/
theorem unescape_cons {c : Char} (h : c ≠ '\\') (rest : List Char) :
    unescape (c :: rest) = c :: unescape rest := by
  rw [unescape]
  rintro _ _ _ _ rfl
  exact absurd rfl h

/-- `'\\' :: octalDigits c` is read as `c`, as long as its code fits into three octal digits. -/
theorem unescape_octalDigits {c : Char} (h : c.toNat < 256) (rest : List Char) :
    unescape ('\\' :: octalDigits c ++ rest) = c :: unescape rest := by
  have hdigits := octalByte?_octalDigits h
  simp only [octalDigits, List.cons_append, List.nil_append]
  rw [unescape, hdigits]
  simp only [Char.ofNat_toNat]

/-- A text without backslashes is read as it is. -/
theorem unescape_of_not_mem {cs : List Char} (h : '\\' ∉ cs) : unescape cs = cs := by
  induction cs with
  | nil => rfl
  | cons c cs ih =>
    have hne : c ≠ '\\' := fun hc => h (hc ▸ List.mem_cons_self)
    rw [unescape_cons hne, ih fun hmem => h (List.mem_cons_of_mem c hmem)]

/-- **What was escaped is read back**: `unescape (escape special cs) = cs`, when the escapes fit a
byte and the backslash is one of them. -/
theorem unescape_escape {special : Char → Bool} (hbyte : ∀ c, special c = true → c.toNat < 256)
    (hmark : special '\\' = true) (cs : List Char) : unescape (escape special cs) = cs := by
  induction cs with
  | nil => rfl
  | cons c cs ih =>
    rw [escape_cons]
    by_cases hc : special c = true
    · rw [if_pos hc, unescape_octalDigits (hbyte c hc), ih]
    · have hne : c ≠ '\\' := fun h => hc (h ▸ hmark)
      rw [if_neg hc, List.singleton_append, unescape_cons hne, ih]

/-- `unescape` undoes `escape isEscaped`, since every character that a table escapes has a code
below 256. -/
theorem unescape_escape_isEscaped (cs : List Char) : unescape (escape isEscaped cs) = cs := by
  refine unescape_escape (fun c hc => ?_) (by decide) cs
  rcases isEscaped_iff.1 hc with rfl | rfl | rfl | rfl | rfl <;> decide

/-! ## The blanks that stay -/

/-- A blank that is written as it is. -/
def isRaw (c : Char) : Bool :=
  Text.isBlank c && !isEscaped c

/-- A character of `escape isEscaped cs` is one of `cs` that stands for itself, or belongs to an
escape, and those have no blanks. -/
theorem mem_escape {cs : List Char} {d : Char} (h : d ∈ escape isEscaped cs) :
    (d ∈ cs ∧ isEscaped d = false) ∨ Text.isBlank d = false := by
  obtain ⟨c, hc, hd⟩ := List.mem_flatMap.1 h
  cases hesc : isEscaped c with
  | true =>
    have hnone : ('\\' :: octalDigits c).any Text.isBlank = false := by
      rcases isEscaped_iff.1 hesc with rfl | rfl | rfl | rfl | rfl <;> decide
    rw [if_pos hesc] at hd
    exact .inr (Text.isBlank_of_any hnone d hd)
  | false =>
    rw [hesc, if_neg Bool.false_ne_true, List.mem_singleton] at hd
    exact .inl ⟨hd ▸ hc, hd ▸ hesc⟩

/-- Where no character of `cs` `isRaw`, what is written for `cs` has no blank at all. -/
theorem isBlank_of_mem_escape {cs : List Char} (h : ∀ c ∈ cs, isRaw c = false) :
    ∀ d ∈ escape isEscaped cs, Text.isBlank d = false := by
  intro d hd
  rcases mem_escape hd with ⟨hmem, hesc⟩ | hblank
  · have hraw := h d hmem
    rwa [isRaw, hesc, Bool.not_false, Bool.and_true] at hraw
  · exact hblank

/-- `escape isEscaped (c :: cs)` for a blank `c` that stays: it is written as it is. -/
theorem escape_cons_of_isRaw {c : Char} (h : isRaw c = true) (cs : List Char) :
    escape isEscaped (c :: cs) = c :: escape isEscaped cs := by
  have hesc : ¬ isEscaped c = true := by
    have := (Bool.and_eq_true_iff.1 h).2
    simpa using this
  rw [escape_cons, if_neg hesc]
  rfl

/-- The first piece of a path that stands between the blanks that stay. -/
def piece (cs : List Char) : List Char :=
  (cs.dropWhile isRaw).takeWhile fun c => !isRaw c

/-- `piece` passes over the blanks that stay at the start. -/
theorem piece_cons_of_isRaw {c : Char} (h : isRaw c = true) (cs : List Char) :
    piece (c :: cs) = piece cs := by
  rw [piece, List.dropWhile_cons_of_pos h, piece]

/-- `piece` ends in front of the next of them. -/
theorem piece_cons_of_not_isRaw {c : Char} (h : isRaw c = false) (cs : List Char) :
    piece (c :: cs) = (c :: cs).takeWhile fun c => !isRaw c := by
  rw [piece, List.dropWhile_cons_of_neg (by simp [h])]

/-- No character of `piece cs` is a blank that stays. -/
theorem isRaw_of_mem_piece {cs : List Char} {c : Char} (h : c ∈ piece cs) : isRaw c = false := by
  simpa using List.mem_takeWhile_imp h

/-- `piece cs = cs` for a path without blanks that stay. -/
theorem piece_eq_self {cs : List Char} (h : ∀ c ∈ cs, isRaw c = false) : piece cs = cs := by
  cases cs with
  | nil => rfl
  | cons c cs =>
    rw [piece_cons_of_not_isRaw (h c List.mem_cons_self), List.takeWhile_eq_self_iff]
    intro d hd
    rw [h d hd, Bool.not_false]

/-- `piece cs = []` only where `cs` is nothing but blanks that stay. -/
theorem isRaw_of_piece_eq_nil {cs : List Char} (h : piece cs = []) : ∀ c ∈ cs, isRaw c = true := by
  induction cs with
  | nil => intro c hc; simp at hc
  | cons c cs ih =>
    cases hc : isRaw c with
    | true =>
      rw [piece_cons_of_isRaw hc] at h
      simpa [hc] using ih h
    | false =>
      rw [piece_cons_of_not_isRaw hc, List.takeWhile_cons_of_pos (by simp [hc])] at h
      exact absurd h (List.cons_ne_nil _ _)

/-! ## Words -/

/-- **The first word of a written path** is what is written for its `piece`: the words are cut at
the blanks that stay. -/
theorem head?_words_escape {path : List Char} (h : piece path ≠ []) (rest : List Char) :
    (Text.words (escape isEscaped path ++ ' ' :: rest)).head? = some (escape isEscaped (piece path)) := by
  have hword : ∀ d ∈ escape isEscaped (piece path), Text.isBlank d = false :=
    isBlank_of_mem_escape fun c hc => isRaw_of_mem_piece hc
  induction path with
  | nil => exact absurd rfl h
  | cons c cs ih =>
    cases hc : isRaw c with
    | true =>
      have hblank : Text.isBlank c = true := (Bool.and_eq_true_iff.1 hc).1
      rw [piece_cons_of_isRaw hc] at h hword ⊢
      rw [escape_cons_of_isRaw hc, List.cons_append, Text.words_blank_cons hblank, ih h hword]
    | false =>
      have hsplit := List.takeWhile_append_dropWhile (p := fun c => !isRaw c) (l := c :: cs)
      rw [← piece_cons_of_not_isRaw hc] at hsplit
      -- behind the piece stands a blank of the path, or the one that ends the path
      rw [← hsplit, escape_append, hsplit]
      cases hback : (c :: cs).dropWhile fun c => !isRaw c with
      | nil =>
        rw [show escape isEscaped [] = [] from rfl, List.append_nil,
          Text.words_append_blank hword (escape_ne_nil h) (by decide)]
        rfl
      | cons b back =>
        have hb : isRaw b = true := by
          have := List.head?_dropWhile_not (fun c => !isRaw c) (c :: cs)
          rw [hback] at this
          simpa using this
        rw [escape_cons_of_isRaw hb, List.append_assoc, List.cons_append,
          Text.words_append_blank hword (escape_ne_nil h) (Bool.and_eq_true_iff.1 hb).1]
        rfl

/-- Where a path is nothing but blanks that stay, `words` reads what is behind it. -/
theorem words_escape_of_isRaw {path : List Char} (h : ∀ c ∈ path, isRaw c = true)
    (rest : List Char) : Text.words (escape isEscaped path ++ ' ' :: rest) = Text.words rest := by
  induction path with
  | nil => exact Text.words_blank_cons (by decide) rest
  | cons c cs ih =>
    have hc : isRaw c = true := h c List.mem_cons_self
    rw [escape_cons_of_isRaw hc, List.cons_append,
      Text.words_blank_cons (Bool.and_eq_true_iff.1 hc).1, ih fun d hd => h d (List.mem_cons_of_mem c hd)]

/-! ## Entries -/

/-- An entry of a table. -/
structure Entry where
  /-- What is mounted. -/
  source : String
  /-- Where it is mounted. -/
  path : String
  /-- The kind of file system. -/
  kind : String
  /-- The mount options. -/
  options : String
  source_blankFree : ∀ c ∈ source.toList, Text.isBlank c = false
  path_ne_empty : path ≠ ""
  newline_not_mem_kind : '\n' ∉ kind.toList
  newline_not_mem_options : '\n' ∉ options.toList

namespace Entry

/-- Whether an entry is one of ours. -/
def isOwn (e : Entry) : Bool :=
  Text.startsWith sourceName e.source

/-- What stands in a line behind the path. -/
def tail (e : Entry) : List Char :=
  e.kind.toList ++ ' ' :: (e.options.toList ++ " 0 0".toList)

/-- The line of an entry. -/
def line (e : Entry) : List Char :=
  e.source.toList ++ ' ' :: (escape isEscaped e.path.toList ++ ' ' :: e.tail)

variable (e : Entry)

/-- `e.line` has no line feed: those of the path are escaped, and the other fields have none. -/
theorem newline_not_mem_line : '\n' ∉ e.line := by
  have hsource : '\n' ∉ e.source.toList := fun h =>
    absurd (e.source_blankFree _ h) (by decide)
  have hpath : '\n' ∉ escape isEscaped e.path.toList := by
    intro h
    rcases mem_escape h with ⟨-, hesc⟩ | hblank
    · exact absurd hesc (by decide)
    · exact absurd hblank (by decide)
  have hends : '\n' ∉ " 0 0".toList := by decide
  simp only [line, tail, List.mem_append, List.mem_cons, not_or]
  exact ⟨hsource, by decide, hpath, by decide, e.newline_not_mem_kind, by decide,
    e.newline_not_mem_options, hends⟩

/-- `e.line` ends in a digit, so that it has no carriage return to lose. -/
theorem dropReturn_line : Text.dropReturn e.line = e.line := by
  have hend : ∃ front, e.line = front ++ ['0'] :=
    ⟨e.source.toList ++ ' ' :: (escape isEscaped e.path.toList ++ ' ' ::
      (e.kind.toList ++ ' ' :: (e.options.toList ++ [' ', '0', ' ']))), by simp [line, tail]⟩
  obtain ⟨front, hfront⟩ := hend
  rw [hfront, Text.dropReturn, List.reverse_concat]
  rfl

/-- `sourceName` begins `e.line` if and only if `e.isOwn`. -/
theorem isPrefixOf_line : sourceName.toList.isPrefixOf e.line = e.isOwn := by
  rw [isOwn, Text.startsWith, Bool.eq_iff_iff, List.isPrefixOf_iff_prefix, List.isPrefixOf_iff_prefix]
  refine ⟨fun h => ?_, fun h => h.trans (List.prefix_append _ _)⟩
  rcases List.prefix_or_prefix_of_prefix h (List.prefix_append _ _) with hname | ⟨back, hback⟩
  · exact hname
  -- a name that goes on behind the source would go on with a space
  · rw [← hback, line, List.prefix_append_right_inj] at h
    cases back with
    | nil =>
      rw [List.append_nil] at hback
      exact hback ▸ List.prefix_rfl
    | cons b back =>
      have hspace : ' ' ∈ sourceName.toList := by
        rw [← hback, (List.cons_prefix_cons.1 h).1]
        simp
      exact absurd hspace (by decide)

/-- The words of a line of ours are `e.source`, and then those of the written path and of the tail.
-/
theorem words_line (h : e.isOwn = true) : Text.words e.line
    = e.source.toList :: Text.words (escape isEscaped e.path.toList ++ ' ' :: e.tail) := by
  have hne : e.source.toList ≠ [] := by
    intro hnil
    rw [isOwn, Text.startsWith, hnil] at h
    exact absurd h (by decide)
  exact Text.words_append_blank e.source_blankFree hne (by decide) _

/-- `ownPath?` reads nothing of an entry that is not ours. -/
theorem ownPath?_line_of_not_isOwn (h : e.isOwn = false) : ownPath? e.line = none := by
  rw [ownPath?, isPrefixOf_line, h]
  rfl

/-- **What is read of one of our entries** is the `piece` of its path, if there is one. -/
theorem ownPath?_line (h : e.isOwn = true) (hpiece : piece e.path.toList ≠ []) :
    ownPath? e.line = some (String.ofList (piece e.path.toList)) := by
  have hhead := head?_words_escape hpiece e.tail
  rw [ownPath?, isPrefixOf_line, h, if_pos rfl, words_line e h]
  obtain ⟨ws, hws⟩ := List.head?_eq_some_iff.1 hhead
  rw [hws]
  simp only [unescape_escape_isEscaped]

/-- A kind of file system as systems have them: one word without backslashes. -/
structure HasPlainKind : Prop where
  ne_empty : e.kind ≠ ""
  blankFree : ∀ c ∈ e.kind.toList, Text.isBlank c = false
  backslash_not_mem : '\\' ∉ e.kind.toList

variable {e}

/-- Where the path has no piece, `e.kind` is taken for it: it is the next word. -/
theorem ownPath?_line_of_piece_eq_nil (h : e.isOwn = true) (hpiece : piece e.path.toList = [])
    (hkind : e.HasPlainKind) : ownPath? e.line = some e.kind := by
  have hne : e.kind.toList ≠ [] := by simpa using hkind.ne_empty
  have hwords : Text.words (escape isEscaped e.path.toList ++ ' ' :: e.tail)
      = e.kind.toList :: Text.words (e.options.toList ++ " 0 0".toList) := by
    rw [words_escape_of_isRaw (isRaw_of_piece_eq_nil hpiece)]
    exact Text.words_append_blank hkind.blankFree hne (by decide) _
  rw [ownPath?, isPrefixOf_line, h, if_pos rfl, words_line e h, hwords]
  simp only [unescape_of_not_mem hkind.backslash_not_mem, String.ofList_toList]

/-- `ownPath? e.line = some e.path` for a path without blanks that stay. -/
theorem ownPath?_line_of_forall (h : e.isOwn = true) (hraw : ∀ c ∈ e.path.toList, isRaw c = false) :
    ownPath? e.line = some e.path := by
  have hpiece := piece_eq_self hraw
  have hne : piece e.path.toList ≠ [] := by simpa [hpiece] using e.path_ne_empty
  rw [ownPath?_line e h hne, hpiece, String.ofList_toList]

/-- **The path of one of our entries is read** if and only if it has no blank that stays. -/
theorem ownPath?_line_eq_path_iff (h : e.isOwn = true) (hkind : e.HasPlainKind) :
    ownPath? e.line = some e.path ↔ ∀ c ∈ e.path.toList, isRaw c = false := by
  refine ⟨fun hread c hc => ?_, ownPath?_line_of_forall h⟩
  by_cases hpiece : piece e.path.toList = []
  · rw [ownPath?_line_of_piece_eq_nil h hpiece hkind, Option.some.injEq] at hread
    rw [isRaw, hkind.blankFree c (hread ▸ hc), Bool.false_and]
  · rw [ownPath?_line e h hpiece, Option.some.injEq] at hread
    have hself : piece e.path.toList = e.path.toList := by
      rw [← String.toList_ofList (l := piece e.path.toList), hread]
    exact isRaw_of_mem_piece (hself ▸ hc)

end Entry

/-! ## Tables -/

/-- The text of a table. -/
def print (es : List Entry) : String :=
  String.ofList (es.flatMap fun e => e.line ++ ['\n'])

/-- The paths of our entries, in order. -/
def ownPaths (es : List Entry) : List String :=
  (es.filter Entry.isOwn).map Entry.path

/-- **A printed table is read entry by entry**: the lines of `print es` are those that were printed,
as no line has a line feed in it. -/
theorem entries_print (es : List Entry) :
    entries (print es) = es.filterMap fun e => ownPath? e.line := by
  have hlines : Text.lines (es.flatMap fun e => e.line ++ ['\n']) = es.map Entry.line := by
    have hended : ∀ line ∈ es.map Entry.line, '\n' ∉ line :=
      List.forall_mem_map.2 fun e _ => e.newline_not_mem_line
    have hwritten : es.flatMap (fun e => e.line ++ ['\n'])
        = (es.map Entry.line).flatMap fun line => line ++ ['\n'] := by
      rw [List.flatMap_map]
    rw [hwritten, Text.lines_flatMap_newline hended, List.map_map]
    exact List.map_congr_left fun e _ => e.dropReturn_line
  rw [entries, print, String.toList_ofList, hlines, List.filterMap_map]
  rfl

/-- `entries (print es) = ownPaths es` when our paths have no blanks that stay. -/
theorem entries_print_of_forall {es : List Entry}
    (h : ∀ e ∈ es, e.isOwn = true → ∀ c ∈ e.path.toList, isRaw c = false) :
    entries (print es) = ownPaths es := by
  rw [entries_print]
  induction es with
  | nil => rfl
  | cons e es ih =>
    have htail := ih fun e' he' => h e' (List.mem_cons_of_mem e he')
    unfold ownPaths at htail ⊢
    cases hown : e.isOwn with
    | true =>
      have hread := Entry.ownPath?_line_of_forall hown (h e List.mem_cons_self hown)
      rw [List.filterMap_cons, hread, htail, List.filter_cons_of_pos hown, List.map_cons]
    | false =>
      have hread := Entry.ownPath?_line_of_not_isOwn e hown
      rw [List.filterMap_cons, hread, htail, List.filter_cons_of_neg (by simp [hown])]

/-! ## Table files -/

/-- `(ofFile place).list` answers with the entries of the text that stands at `place`. -/
theorem runOn_list_ofFile {disk : Disk} {place text : String}
    (h : disk.readText place = .ok text) :
    (ofFile place).list.runOn disk = (.ok (entries text), disk) := by
  show (readTable place disk, disk) = _
  rw [readTable, h]

/-- `ReadsBack S`, **the format of the table** for our paths from a set: what is listed of a table
file that was printed are our paths, unchanged and in order. -/
def ReadsBack (S : Set String) : Prop :=
  ∀ es : List Entry, (∀ e ∈ es, e.isOwn = true → e.path ∈ S) →
    ∀ (disk : Disk) (place : String), disk.readText place = .ok (print es) →
      ((ofFile place).list.runOn disk).1 = .ok (ownPaths es)

/-- An entry of ours for a path. -/
def ownEntry (path : String) (h : path ≠ "") : Entry where
  source := sourceName
  path := path
  kind := "fuse"
  options := "rw"
  source_blankFree := Text.isBlank_of_any (by decide)
  path_ne_empty := h
  newline_not_mem_kind := by decide
  newline_not_mem_options := by decide

/-- The kind of such an entry is `fuse`, a plain word. -/
theorem hasPlainKind_ownEntry (path : String) (h : path ≠ "") : (ownEntry path h).HasPlainKind where
  ne_empty := (by decide : "fuse" ≠ "")
  blankFree := Text.isBlank_of_any (by decide : "fuse".toList.any Text.isBlank = false)
  backslash_not_mem := (by decide : '\\' ∉ "fuse".toList)

/-- A disk with nothing but a table file. -/
def diskWith (text : String) : Disk where
  nodes := [(["mtab"], .file text.toUTF8)]

/-- The table file of `diskWith text` has the text in it. -/
theorem readText_diskWith (text : String) : (diskWith text).readText "/mtab" = .ok text :=
  Disk.readText_of_find rfl

/-- **Which paths the format carries.** `ReadsBack S` holds if and only if the paths of `S` have no
blanks but those that are written as escapes. A path with another one is listed up to it. -/
theorem readsBack_iff (S : Set String) :
    ReadsBack S ↔ ∀ p ∈ S, ∀ c ∈ p.toList, Text.isBlank c = true → isEscaped c = true := by
  have hraw (c : Char) : isRaw c = false ↔ (Text.isBlank c = true → isEscaped c = true) := by
    rw [isRaw]
    cases Text.isBlank c <;> simp
  simp only [← hraw]
  constructor
  · intro hback p hp c hc
    have hne : p ≠ "" := by rintro rfl; simp at hc
    have hown : (ownEntry p hne).isOwn = true :=
      (by decide : Text.startsWith sourceName sourceName = true)
    -- conversely, a table with the one entry of `p` has to give `p` back
    have hlist := hback [ownEntry p hne] (by simpa [ownEntry] using fun _ => hp) _ _
      (readText_diskWith _)
    rw [runOn_list_ofFile (readText_diskWith _), entries_print, Except.ok.injEq] at hlist
    have hread : ownPath? (ownEntry p hne).line = some p := by
      rw [ownPaths, List.filter_cons_of_pos hown, List.filterMap_cons] at hlist
      cases hline : ownPath? (ownEntry p hne).line with
      | none => simp [hline] at hlist
      | some path =>
        have hpath : path = (ownEntry p hne).path := by simpa [hline] using hlist
        rw [hpath]
        rfl
    exact (Entry.ownPath?_line_eq_path_iff hown (hasPlainKind_ownEntry p hne)).1 hread c hc
  · intro hS es hes disk place htext
    rw [runOn_list_ofFile htext, entries_print_of_forall fun e he hown => hS _ (hes e he hown)]

/-- The no-break space is such a blank: `/mnt/a\u00a0b` is listed as `/mnt/a`. -/
theorem not_readsBack_noBreakSpace :
    ((ofFile "/mtab").list.runOn
        (diskWith (print [ownEntry "/mnt/a\u00a0b" (by decide)]))).1 = .ok ["/mnt/a"] ∧
      ¬ ReadsBack {p | p ≠ "" ∧ '\x00' ∉ p.toList} := by
  have hlist : ((ofFile "/mtab").list.runOn
      (diskWith (print [ownEntry "/mnt/a\u00a0b" (by decide)]))).1 = .ok ["/mnt/a"] := by
    rw [runOn_list_ofFile (readText_diskWith _)]
    decide +kernel
  refine ⟨hlist, fun hback => ?_⟩
  have hright := hback [ownEntry "/mnt/a\u00a0b" (by decide)] (by decide +kernel) _ _
    (readText_diskWith _)
  rw [hlist] at hright
  exact absurd hright (by decide +kernel)

end MountTable

end MountKeeper
