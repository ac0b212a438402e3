import MountKeeper.Proofs.Path
import MountKeeper.Proofs.SessionKey
import MountKeeper.Proofs.Text.Line
import MountKeeper.Remount.Unit
import Mathlib.Data.List.DropRight

/-! # Units as the service manager reads them

A unit is read line by line. A line that has an equals sign sets something, and the command that is
set is cut into words at its blanks. The record of a mount is put into the text of its unit as it
is, so that it is read back only when it has none of the characters that cut the text.

* `UnitText.settings` are the values that a text sets, `UnitText.words` the words of a command.
* `UnitText.words_unwords` and `UnitText.settings_unlines`: words without blanks and lines without
  newlines are read as they were written.
* `RemountUnit.StartsOwn`: a unit starts the mount that it was made for. `RemountUnit.startsOwn_iff`
  is the exact condition on the record. -/

namespace MountKeeper

/-! ## Reading -/

namespace UnitText

/-- The characters that separate words. There are blanks that do not. -/
def isSeparator (c : Char) : Bool :=
  c == ' ' || c == '\t' || c == '\n' || c == '\r'

/-- A text without separators at its ends. -/
def strip (cs : List Char) : List Char :=
  (cs.dropWhile isSeparator).rdropWhile isSeparator

/-- The value that a line sets for a key: what stands behind the first equals sign, when the key
stands before it. -/
def setting? (key : String) (line : List Char) : Option (List Char) :=
  (Text.cutAt? '=' line).bind fun sides =>
    if strip sides.1 = key.toList then some (strip sides.2) else none

/-- The values that the lines of a text set for a key, in order. -/
def settings (key text : String) : List String :=
  ((text.toList.splitOn '\n').filterMap (setting? key)).map String.ofList

/-- The words of a command without quotes. -/
def words (command : String) : List String :=
  ((command.toList.splitOnP isSeparator).filter fun w => !w.isEmpty).map String.ofList

/-- A text in which no separator stands. -/
def Solid (s : String) : Prop :=
  ∀ c ∈ s.toList, isSeparator c = false

/-- A text that can be the value of a line. -/
def OneValue (s : String) : Prop :=
  '\n' ∉ s.toList ∧ strip s.toList = s.toList

instance (s : String) : Decidable (Solid s) :=
  List.decidableBAll (fun c => isSeparator c = false) s.toList

instance (s : String) : Decidable (OneValue s) :=
  inferInstanceAs (Decidable (_ ∧ _))

/-- A `Solid` text has no line break, since a line break is a separator. -/
theorem Solid.no_newline {s : String} (h : Solid s) : '\n' ∉ s.toList :=
  fun hmem => absurd (h '\n' hmem) (by decide)

/-! ## What is read is cut -/

/-- The words of a command are `Solid`: `words` cuts at every separator and drops the empty pieces.
-/
theorem solid_of_mem_words {command w : String} (h : w ∈ words command) : Solid w := by
  obtain ⟨piece, hpiece, rfl⟩ := List.mem_map.1 h
  intro c hc
  rw [String.toList_ofList] at hc
  exact Text.eq_false_of_mem_splitOnP (List.mem_of_mem_filter hpiece) c hc

/-- `strip cs` is a prefix of `cs` without its leading separators. -/
theorem strip_isPrefix (cs : List Char) : strip cs <+: cs.dropWhile isSeparator :=
  List.rdropWhile_prefix ..

/-- `strip` is idempotent. -/
theorem strip_strip (cs : List Char) : strip (strip cs) = strip cs := by
  have hhead : (strip cs).dropWhile isSeparator = strip cs := by
    refine List.dropWhile_eq_self_iff.2 fun hpos => ?_
    rw [(strip_isPrefix cs).getElem hpos]
    exact List.dropWhile_get_zero_not _ _ _
  conv_lhs => rw [strip, hhead]
  exact List.rdropWhile_idempotent _ _

/-- `strip cs = cs` for a text without separators at its ends. -/
theorem strip_eq_self {cs : List Char} (hhead : ∀ c ∈ cs.head?, isSeparator c = false)
    (hlast : ∀ c ∈ cs.getLast?, isSeparator c = false) : strip cs = cs := by
  have hstart : cs.dropWhile isSeparator = cs := by
    cases cs with
    | nil => rfl
    | cons c cs => rw [List.dropWhile_cons, hhead c rfl, if_neg (by decide)]
  rw [strip, hstart]
  refine List.rdropWhile_eq_self_iff.2 fun hne => ?_
  rw [hlast _ (List.getLast?_eq_some_getLast hne)]
  decide

/-- Whatever `settings` reads is `OneValue`: one line, without separators at its ends. -/
theorem oneValue_of_mem_settings {key text s : String} (h : s ∈ settings key text) :
    OneValue s := by
  obtain ⟨value, hvalue, rfl⟩ := List.mem_map.1 h
  obtain ⟨line, hline, hset⟩ := List.mem_filterMap.1 hvalue
  obtain ⟨⟨front, back⟩, hcut, hset⟩ := Option.bind_eq_some_iff.1 hset
  split at hset
  · obtain rfl := Option.some.inj hset
    refine ⟨fun hmem => ?_, ?_⟩
    · -- a newline in the value would be one of its line, and lines hold none
      rw [String.toList_ofList] at hmem
      have hback : '\n' ∈ back :=
        (List.dropWhile_suffix _).subset ((strip_isPrefix back).subset hmem)
      have hnewline : '\n' ∈ line := by
        rw [(Text.cutAt?_eq_some hcut).1]
        exact List.mem_append_right _ (List.mem_cons_of_mem _ hback)
      exact absurd (Text.eq_false_of_mem_splitOnP hline '\n' hnewline) (by decide)
    · rw [String.toList_ofList]
      exact strip_strip back
  · cases hset

/-! ## What was written is read -/

/-- Pieces that are not empty and hold no separator, joined by blanks and cut at the separators, are
the pieces again. No empty piece appears, so the filter takes nothing away. -/
theorem filter_splitOnP_intercalate {pieces : List (List Char)}
    (h : ∀ piece ∈ pieces, piece ≠ [] ∧ ∀ c ∈ piece, isSeparator c = false) :
    (([' '].intercalate pieces).splitOnP isSeparator).filter (fun w => !w.isEmpty) = pieces := by
  induction pieces with
  | nil => rfl
  | cons piece rest ih =>
    obtain ⟨hne, hsolid⟩ := h piece List.mem_cons_self
    cases rest with
    | nil =>
      rw [List.intercalate_singleton, List.splitOnP_eq_singleton hsolid,
        List.filter_cons_of_pos (by simpa using hne), List.filter_nil]
    | cons next rest =>
      rw [List.intercalate_cons_cons, List.append_assoc, List.singleton_append,
        List.splitOnP_append_cons_of_forall_mem hsolid ' ' (by decide),
        List.filter_cons_of_pos (by simpa using hne),
        ih fun p hp => h p (List.mem_cons_of_mem _ hp)]

/-- **Words that are solid** are read as they were written: `words` undoes `" ".intercalate`. -/
theorem words_unwords {ws : List String} (h : ∀ w ∈ ws, w ≠ "" ∧ Solid w) :
    words (" ".intercalate ws) = ws := by
  have hpieces : ∀ piece ∈ ws.map String.toList,
      piece ≠ [] ∧ ∀ c ∈ piece, isSeparator c = false := by
    intro piece hpiece
    obtain ⟨w, hw, rfl⟩ := List.mem_map.1 hpiece
    exact ⟨fun hnil => (h w hw).1 (String.toList_eq_nil_iff.1 hnil), (h w hw).2⟩
  have hspace : " ".toList = [' '] := rfl
  rw [words, String.toList_intercalate, hspace, filter_splitOnP_intercalate hpieces, List.map_map]
  simp [Function.comp_def]

/-- `(line ++ '\n' :: rest).splitOn '\n'`: a line is read when it has come to its end. -/
theorem splitOn_line {line : List Char} (h : '\n' ∉ line) (rest : List Char) :
    (line ++ '\n' :: rest).splitOn '\n' = line :: rest.splitOn '\n' := by
  rw [List.splitOn_append_cons_self, List.splitOn_eq_singleton h, List.singleton_append]

/-- **Lines without newlines** are read as they were written: `settings key` reads `setting? key` of
each. -/
theorem settings_unlines (key : String) {ls : List String} (h : ∀ l ∈ ls, '\n' ∉ l.toList) :
    settings key (String.join (ls.map (· ++ "\n")))
      = (ls.filterMap fun l => setting? key l.toList).map String.ofList := by
  rw [settings]
  congr 1
  induction ls with
  | nil => rfl
  | cons l rest ih =>
    have htext : (String.join ((l :: rest).map (· ++ "\n"))).toList
        = l.toList ++ '\n' :: (String.join (rest.map (· ++ "\n"))).toList := by
      simp [String.toList_join]
    rw [htext, splitOn_line (h l List.mem_cons_self), List.filterMap_cons, List.filterMap_cons,
      ih fun l' hl => h l' (List.mem_cons_of_mem _ hl)]

/-- A line that sets a key to a value. -/
def setLine (key value : String) : String :=
  key ++ "=" ++ value

/-- `setting?` of `setLine front value`: it sets the key `front`, with the value stripped, and no
other one. -/
theorem setting?_setLine {front : String} (h : '=' ∉ front.toList) (key value : String) :
    setting? key (setLine front value).toList
      = if strip front.toList = key.toList then some (strip value.toList) else none := by
  have hline : (setLine front value).toList = front.toList ++ '=' :: value.toList := by
    simp [setLine]
  rw [hline, setting?, Path.cutAt?_append h, Option.bind_some]

end UnitText

/-! ## Units -/

namespace RemountUnit

open UnitText

/-- **A unit starts the mount that it was made for**: it has one command, whose words mount the path
of the record with its configuration, and one account, which is that of the record. -/
structure StartsOwn (binary : String) (record : RemountRecord) : Prop where
  command : ∃ command, settings "ExecStart" (render binary record) = [command] ∧
    words command = [binary, "mount", record.key.text, "--config-file=" ++ record.configPath, "-o",
      "allow_other"]
  account : settings "User" (render binary record) = [record.runAs]

variable {binary : String} {record : RemountRecord}

/-- `StartsOwn binary record` needs the record uncut: a path that is not `Solid` gives words that
are, and so others. -/
theorem StartsOwn.uncut (h : StartsOwn binary record) :
    Solid record.key.text ∧ Solid record.configPath ∧ OneValue record.runAs := by
  obtain ⟨command, -, hwords⟩ := h.command
  -- the mount path is one of the words, the path of the configuration the end of another one, and
  -- a word has no separators
  have hsolid : ∀ w ∈ [binary, "mount", record.key.text, "--config-file=" ++ record.configPath,
      "-o", "allow_other"], Solid w := by
    rw [← hwords]
    exact fun w hw => solid_of_mem_words hw
  have haccount : record.runAs ∈ settings "User" (render binary record) := by
    rw [h.account]
    exact List.mem_singleton_self _
  refine ⟨hsolid _ (by simp), fun c hc => ?_, oneValue_of_mem_settings haccount⟩
  refine hsolid ("--config-file=" ++ record.configPath) (by simp) c ?_
  rw [String.toList_append]
  exact List.mem_append_right _ hc

/-- `startCommand` as one list of words joined by blanks, the form in which `words` reads it back.
-/
theorem startCommand_eq (binary : String) (record : RemountRecord) :
    startCommand binary record = " ".intercalate [binary, "mount", record.key.text,
      "--config-file=" ++ record.configPath, "-o", "allow_other"] := by
  rw [← String.toList_inj]
  simp [startCommand, toString]

/-- The keys that a unit sets, with their values. -/
def entries (binary : String) (record : RemountRecord) : List (String × String) := [
  ("Description", "Cloudfuse mount of " ++ record.key.text),
  ("After", "network-online.target"),
  ("Requires", "network-online.target"),
  ("User", record.runAs),
  ("Type", "forking"),
  ("ExecStart", startCommand binary record),
  ("ExecStop", "/usr/bin/fusermount -u " ++ record.key.text ++ " -z"),
  ("WantedBy", "multi-user.target")]

/-- The lines of a unit, in the order in which `render` writes them. -/
theorem lines_eq (binary : String) (record : RemountRecord) :
    lines binary record = [
      "[Unit]",
      setLine "Description" ("Cloudfuse mount of " ++ record.key.text),
      setLine "After" "network-online.target",
      setLine "Requires" "network-online.target",
      "",
      "[Service]",
      setLine "User" record.runAs,
      setLine "Type" "forking",
      setLine "ExecStart" (startCommand binary record),
      setLine "ExecStop" ("/usr/bin/fusermount -u " ++ record.key.text ++ " -z"),
      "",
      "[Install]",
      setLine "WantedBy" "multi-user.target"] := by
  simp [lines, setLine, ← String.toList_inj, toString]

/-- What the `lines` of a unit set for a key are the `entries` with that key. -/
theorem filterMap_lines (key binary : String) (record : RemountRecord) :
    ((lines binary record).filterMap fun l => setting? key l.toList)
      = (entries binary record).filterMap fun e =>
        if e.1 = key then some (strip e.2.toList) else none := by
  -- headings and empty lines have no equals sign, and set nothing
  have hheading : ∀ line ∈ ["[Unit]", "", "[Service]", "[Install]"],
      setting? key line.toList = none := by
    intro line hline
    have hcut : ∀ line ∈ ["[Unit]", "", "[Service]", "[Install]"],
        Text.cutAt? '=' line.toList = none := by decide
    rw [setting?, hcut line hline, Option.bind_none]
  -- in the other lines the key stands in front of the first equals sign, whatever the value is
  have hset : ∀ front ∈ ["Description", "After", "Requires", "User", "Type", "ExecStart",
      "ExecStop", "WantedBy"], ∀ value, setting? key (setLine front value).toList
        = if front = key then some (strip value.toList) else none := by
    intro front hfront value
    have hfronts : ∀ front ∈ ["Description", "After", "Requires", "User", "Type", "ExecStart",
        "ExecStop", "WantedBy"], '=' ∉ front.toList ∧ strip front.toList = front.toList := by decide
    obtain ⟨hmark, hstrip⟩ := hfronts front hfront
    rw [setting?_setLine hmark, hstrip]
    simp only [String.toList_inj]
  simp only [List.forall_mem_cons] at hheading hset
  obtain ⟨hunit, hempty, hservice, hinstall, -⟩ := hheading
  obtain ⟨hdescription, hafter, hrequires, huser, htype, hstart, hstop, hwanted, -⟩ := hset
  rw [lines_eq, entries]
  simp only [List.filterMap_cons, hunit, hempty, hservice, hinstall, hdescription, hafter,
    hrequires, huser, htype, hstart, hstop, hwanted]
  rfl

/-- A unit sets `ExecStart` once, to its start command. -/
theorem filterMap_lines_execStart (binary : String) (record : RemountRecord) :
    ((lines binary record).filterMap fun l => setting? "ExecStart" l.toList)
      = [strip (startCommand binary record).toList] := by
  rw [filterMap_lines]
  simp [entries]

/-- A unit sets `User` once, to the account. -/
theorem filterMap_lines_user (binary : String) (record : RemountRecord) :
    ((lines binary record).filterMap fun l => setting? "User" l.toList)
      = [strip record.runAs.toList] := by
  rw [filterMap_lines]
  simp [entries]

/-- `startCommand` has no separator at its ends: it begins with the program and ends with an option.
-/
theorem strip_startCommand (hne : binary ≠ "") (hbinary : Solid binary) :
    strip (startCommand binary record).toList = (startCommand binary record).toList := by
  have hchars : (startCommand binary record).toList = binary.toList
      ++ (" mount " ++ record.key.text ++ " --config-file=" ++ record.configPath ++ " -o ").toList
      ++ "allow_other".toList := by
    simp [startCommand, toString]
  have hfirst : binary.toList ≠ [] := fun hnil => hne (String.toList_eq_nil_iff.1 hnil)
  refine strip_eq_self (fun c hc => ?_) fun c hc => ?_
  · rw [hchars, List.append_assoc, List.head?_append_of_ne_nil _ hfirst] at hc
    exact hbinary c (List.mem_of_mem_head? hc)
  · rw [hchars, List.getLast?_append] at hc
    obtain rfl : 'r' = c := Option.some.inj hc
    decide

section

variable (hne : binary ≠ "") (hbinary : Solid binary) (hkey : '\n' ∉ record.key.text.toList)
  (hconfig : '\n' ∉ record.configPath.toList) (haccount : '\n' ∉ record.runAs.toList)

include hbinary hkey hconfig haccount

/-- Where the record has no newlines, `settings key` reads the lines of a unit one by one. -/
theorem settings_render (key : String) : settings key (render binary record)
    = ((lines binary record).filterMap fun l => setting? key l.toList).map String.ofList := by
  refine settings_unlines key ?_
  simp [lines, startCommand, toString, hbinary.no_newline, hkey, hconfig, haccount]

/-- `settings "User"` of a written unit is the account, stripped of separators at its ends. -/
theorem settings_user :
    settings "User" (render binary record) = [String.ofList (strip record.runAs.toList)] := by
  rw [settings_render hbinary hkey hconfig haccount, filterMap_lines_user, List.map_singleton]

include hne

/-- `settings "ExecStart"` of a written unit is the start command as it was put together. -/
theorem settings_execStart :
    settings "ExecStart" (render binary record) = [startCommand binary record] := by
  rw [settings_render hbinary hkey hconfig haccount, filterMap_lines_execStart,
    strip_startCommand hne hbinary, List.map_singleton, String.ofList_toList]

end

/-- The words of `startCommand`, where its parts are `Solid`. -/
theorem words_startCommand (hne : binary ≠ "") (hbinary : Solid binary)
    (hkey : Solid record.key.text) (hconfig : Solid record.configPath) :
    words (startCommand binary record) = [binary, "mount", record.key.text,
      "--config-file=" ++ record.configPath, "-o", "allow_other"] := by
  have hoption : Solid ("--config-file=" ++ record.configPath) := by
    intro c hc
    rw [String.toList_append] at hc
    rcases List.mem_append.1 hc with hc | hc
    · exact (by decide : Solid "--config-file=") c hc
    · exact hconfig c hc
  rw [startCommand_eq]
  refine words_unwords ?_
  simp only [List.forall_mem_cons]
  exact ⟨⟨hne, hbinary⟩, ⟨by decide, by decide⟩, ⟨record.key.text_ne_empty, hkey⟩,
    ⟨by simp, hoption⟩, ⟨by decide, by decide⟩, ⟨by decide, by decide⟩, nofun⟩

/-- Where nothing in the record cuts the text, `StartsOwn binary record`. -/
theorem startsOwn_of_uncut (hne : binary ≠ "") (hbinary : Solid binary)
    (hkey : Solid record.key.text) (hconfig : Solid record.configPath)
    (haccount : OneValue record.runAs) : StartsOwn binary record where
  command := ⟨startCommand binary record,
    settings_execStart hne hbinary hkey.no_newline hconfig.no_newline haccount.1,
    words_startCommand hne hbinary hkey hconfig⟩
  account := by
    rw [settings_user hbinary hkey.no_newline hconfig.no_newline haccount.1, haccount.2,
      String.ofList_toList]

/-- **The exact condition.** `StartsOwn binary record` if and only if no separator stands in the
mount path or in the path of the configuration, and no newline in the name of the account, nor a
separator at its ends. -/
theorem startsOwn_iff (hne : binary ≠ "") (hbinary : Solid binary) :
    StartsOwn binary record ↔
      Solid record.key.text ∧ Solid record.configPath ∧ OneValue record.runAs :=
  ⟨StartsOwn.uncut, fun ⟨hkey, hconfig, haccount⟩ =>
    startsOwn_of_uncut hne hbinary hkey hconfig haccount⟩

/-- `startsOwn_iff` for the default program and an ordinary record. -/
theorem startsOwn_iff_data :
    "/usr/bin/cloudfuse" ≠ "" ∧ Solid "/usr/bin/cloudfuse" ∧
    (StartsOwn "/usr/bin/cloudfuse" ⟨.ofPath "/mnt/data", "/etc/data.yaml", "cloudfuse"⟩ ↔
      Solid (SessionKey.ofPath "/mnt/data").text ∧ Solid "/etc/data.yaml" ∧ OneValue "cloudfuse") :=
  ⟨by decide, by decide, startsOwn_iff (by decide) (by decide)⟩

/-- **A blank in the mount path** makes two words of it: a unit for `/mnt/a b` mounts `/mnt/a`, with
an argument more. -/
theorem not_startsOwn_blank :
    (settings "ExecStart" (render "/usr/bin/cloudfuse" ⟨.ofPath "/mnt/a b", "/c", "cloudfuse"⟩)).map
        words = [["/usr/bin/cloudfuse", "mount", "/mnt/a", "b", "--config-file=/c", "-o",
          "allow_other"]] ∧
      ¬ StartsOwn "/usr/bin/cloudfuse" ⟨.ofPath "/mnt/a b", "/c", "cloudfuse"⟩ := by
  have hkey : ¬ Solid (SessionKey.ofPath "/mnt/a b").text := by decide +kernel
  have hline : '\n' ∉ (SessionKey.ofPath "/mnt/a b").text.toList := by decide +kernel
  refine ⟨?_, fun h => hkey h.uncut.1⟩
  rw [settings_execStart (by decide) (by decide) hline (by decide) (by decide)]
  decide +kernel

end RemountUnit

end MountKeeper
