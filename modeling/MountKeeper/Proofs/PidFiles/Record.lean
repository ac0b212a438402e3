import MountKeeper.PidFiles
import MountKeeper.Proofs.Disk.Directory
import MountKeeper.Proofs.SessionKey
import MountKeeper.Proofs.Text.Line

/-! # What a PID file says

* `PidRecord.heard_eq_self_iff`: the texts that are read back as they were written.
* `PidRecord.read_write_of_line`: a record whose key stands on one line is read back.
* `PidFiles.plain_fileName`: every key has a name that a file can have;
  `PidFiles.splitName_fileName`: the name is recognised as that of a record. -/

namespace MountKeeper

namespace PidRecord

/-- A text as a line of a record, if there is one. -/
def lineOf (text : Option String) : String :=
  match text with
  | some t => t ++ "\n"
  | none => ""

/-- What is read of a configuration path that was written: its first line, without the blanks
around it. -/
def heard (config : Option String) : Option String :=
  filled? ((Text.lines (lineOf config).toList).map Text.trim).head?

/-- The first line of `line ++ '\n' :: rest`, trimmed, is that of `line`. -/
theorem head?_lines_append {line : List Char} (hline : '\n' ∉ line) (rest : List Char) :
    ((Text.lines (line ++ '\n' :: rest)).map Text.trim).head?
      = some (Text.trim (Text.dropReturn line)) := by
  rw [Text.lines_append_newline hline, List.map_cons, List.head?_cons]

/-- `lineOf (some text)` is the text and a line feed. -/
theorem toList_lineOf (text : String) : (lineOf (some text)).toList = text.toList ++ '\n' :: [] := by
  simp [lineOf, String.toList_append]

/-- `heard (some text)` of a text on one line is the text without the blanks around it. -/
theorem heard_of_line {text : String} (hline : '\n' ∉ text.toList) :
    heard (some text) = filled? (some (Text.trim (Text.dropReturn text.toList))) := by
  unfold heard
  rw [toList_lineOf, head?_lines_append hline]

/-- `filled? (some cs)` is the text of the characters, if there are any. -/
theorem filled?_eq_some_iff {cs : List Char} {text : String} :
    filled? (some cs) = some text ↔ text ≠ "" ∧ cs = text.toList := by
  unfold filled?
  cases cs with
  | nil =>
    simp only [List.isEmpty_nil, if_true]
    refine ⟨nofun, fun h => ?_⟩
    exact absurd (String.toList_eq_nil_iff.1 h.2.symm) h.1
  | cons c cs =>
    simp only [List.isEmpty_cons, Bool.false_eq_true, if_false, Option.some.injEq]
    constructor
    · rintro rfl
      exact ⟨by simp, by simp⟩
    · rintro ⟨-, hcs⟩
      rw [hcs, String.ofList_toList]

/-- `heard (some config) = some config` for a path that is not empty, on one line and `Trimmed`. -/
theorem heard_of_trimmed {config : String} (hne : config ≠ "") (hline : '\n' ∉ config.toList)
    (htrimmed : Text.Trimmed config.toList) : heard (some config) = some config := by
  rw [heard_of_line hline, filled?_eq_some_iff, Text.dropReturn_of_trimmed htrimmed]
  exact ⟨hne, htrimmed⟩

/-- **What is heard as it is**: `heard (some text) = some text` for the texts that are not empty,
stand on one line, and have no blanks around them. -/
theorem heard_eq_self_iff {text : String} : heard (some text) = some text ↔
    text ≠ "" ∧ '\n' ∉ text.toList ∧ Text.Trimmed text.toList := by
  constructor
  · intro h
    by_cases hline : '\n' ∈ text.toList
    · -- only what stands before the first line feed would be heard, which has none
      obtain ⟨front, back, htext, hfront⟩ := List.eq_append_cons_of_mem hline
      have hcut : heard (some text) = filled? (some (Text.trim (Text.dropReturn front))) := by
        unfold heard
        rw [toList_lineOf, htext, List.append_assoc, List.cons_append, head?_lines_append hfront]
      have hheard := (filled?_eq_some_iff.1 (hcut.symm.trans h)).2
      rw [← hheard] at hline
      exact absurd (Text.mem_of_mem_dropReturn (Text.mem_of_mem_trim hline)) hfront
    · rw [heard_of_line hline, filled?_eq_some_iff] at h
      refine ⟨h.1, hline, ?_⟩
      rw [← h.2]
      exact Text.trimmed_trim _
  · rintro ⟨hne, hline, htrimmed⟩
    exact heard_of_trimmed hne hline htrimmed

/-- **A record whose key stands on one line is read back** by `read (write …)`: its process id, and
what can be heard of its key and of its configuration path. -/
theorem read_write_of_line (pid : UInt32) {key : String} (config : Option String)
    (hline : '\n' ∉ key.toList) :
    read (write ⟨pid, some key, config⟩) = .ok ⟨pid, heard (some key), heard config⟩ := by
  have hdigits : ∀ c ∈ (Numeral.decimal pid.toNat).toList, c.isDigit = true :=
    fun c hc => Numeral.isDigit_of_mem_decimal hc
  have hpidTrimmed : Text.Trimmed (Numeral.decimal pid.toNat).toList :=
    Text.trimmed_of_forall fun c hc => Numeral.isBlank_of_isDigit (hdigits c hc)
  have hpidLine : '\n' ∉ (Numeral.decimal pid.toNat).toList :=
    fun hmem => absurd (hdigits _ hmem) (by decide)
  have htext : (write ⟨pid, some key, config⟩).toList
      = (Numeral.decimal pid.toNat).toList ++ '\n' :: (key.toList ++ '\n' ::
        (lineOf config).toList) := by
    simp only [write, String.toList_append]
    cases config <;> simp [lineOf, String.toList_append]
  -- the id and the key are a line each, and the rest is what is heard of the configuration
  have hlines : (Text.lines (write ⟨pid, some key, config⟩).toList).map Text.trim
      = (Numeral.decimal pid.toNat).toList :: Text.trim (Text.dropReturn key.toList) ::
        (Text.lines (lineOf config).toList).map Text.trim := by
    rw [htext, Text.lines_append_newline hpidLine, Text.lines_append_newline hline,
      Text.dropReturn_of_trimmed hpidTrimmed, List.map_cons, List.map_cons,
      show Text.trim _ = _ from hpidTrimmed]
  unfold read
  rw [hlines, heard_of_line hline]
  simp only [List.headD_cons, String.ofList_toList, Numeral.readWord?_decimal]
  simp [heard, List.head?_eq_getElem?]

/-- **A record whose key has no blanks around it** is read back by `read (write …)` with its key. -/
theorem read_write (pid : UInt32) {key : String} (config : Option String) (hne : key ≠ "")
    (hline : '\n' ∉ key.toList) (htrimmed : Text.Trimmed key.toList) :
    read (write ⟨pid, some key, config⟩) = .ok ⟨pid, some key, heard config⟩ := by
  rw [read_write_of_line pid config hline, heard_of_trimmed hne hline htrimmed]

end PidRecord

namespace PidFiles

/-! ## File names -/

/-- **Every key has a name that a file can have**: `fileName k` is `Plain`. -/
theorem plain_fileName (k : SessionKey) : Path.Plain (fileName k) := by
  have htoList : (fileName k).toList = (k.fileStem '_').toList ++ ['.', 'p', 'i', 'd'] := by
    simp [fileName, extension, String.toList_append]
  have hlast : (fileName k).toList.getLast? = some 'd' := by
    rw [htoList]
    simp
  refine Path.plain_of_getLast? hlast (by decide) ?_
  rw [htoList, List.mem_append, not_or]
  exact ⟨k.slash_not_mem_fileStem (by decide), by decide⟩

/-- `splitName (fileName k)`: the name of a key's file is recognised as that of a record. -/
theorem splitName_fileName (k : SessionKey) :
    Path.splitName (fileName k) = (k.fileStem '_', some extension) :=
  Path.splitName_extension (k.fileStem_ne_empty '_') (by decide)

/-- `fileName k = fileName k'` when their stems are the same. -/
theorem fileName_eq_iff {k k' : SessionKey} :
    fileName k = fileName k' ↔ k.fileStem '_' = k'.fileStem '_' := by
  unfold fileName
  constructor
  · intro h
    have := congrArg String.toList h
    simp only [String.toList_append, List.append_assoc, List.append_cancel_right_eq] at this
    exact String.toList_inj.1 this
  · intro h
    rw [h]

/-! ## What stands in a file -/

section Reading

variable {dir : String} {d : Disk} {key : SessionKey} {r : PidRecord}

/-- `readRecord` of the file of a key is what `PidRecord.read` reads of its text. -/
theorem readRecord_of_find {text : String} (h : d.find (pathOf dir key) = .ok (.file text.toUTF8))
    (hread : PidRecord.read text = .ok r) : readRecord d (pathOf dir key) = .ok r := by
  unfold readRecord
  rw [Disk.readText_of_find h]
  simp only [hread]
  rfl

/-- A file with a record is there: `pathExists`. -/
theorem pathExists_of_readRecord {path : String} (h : readRecord d path = .ok r) :
    d.pathExists path = true := by
  unfold readRecord at h
  cases htext : d.readText path with
  | error e =>
    rw [htext] at h
    exact absurd h nofun
  | ok text =>
    have hfile := Disk.isFile_of_readText htext
    unfold Disk.isFile at hfile
    unfold Disk.pathExists
    cases hfind : d.find path with
    | error e => simp [hfind] at hfile
    | ok node => rfl

/-- `lookup key` answers with the record in the file of the key. -/
theorem runOn_lookup_of_readRecord (h : readRecord d (pathOf dir key) = .ok r) :
    ((registry dir).lookup key).runOn d = (.ok (some (sessionOf key r)), d) := by
  show (lookup dir d key, d) = _
  unfold lookup
  dsimp only
  rw [if_pos (pathExists_of_readRecord h), h]
  rfl

/-- `sessionIn?` of a record that says its key is listed under that key. -/
theorem sessionIn?_of_readRecord (h : readRecord d (pathOf dir key) = .ok r)
    (hkey : r.keyText = some key.text) :
    sessionIn? dir d (fileName key) = some (sessionOf key r) := by
  unfold sessionIn?
  rw [splitName_fileName]
  simp only [beq_self_eq_true, if_true]
  rw [← pathOf, h]
  simp only [hkey, Option.getD_some, SessionKey.ofPath_text]

/-- **A session that is listed from the file of its key** is found by `lookup` at that key. -/
theorem runOn_lookup_of_sessionIn? {session : Session}
    (h : sessionIn? dir d (fileName session.key) = some session) :
    ((registry dir).lookup session.key).runOn d = (.ok (some session), d) := by
  unfold sessionIn? at h
  rw [splitName_fileName] at h
  simp only [beq_self_eq_true, if_true] at h
  cases hread : readRecord d (Path.join dir (fileName session.key)) with
  | error f =>
    rw [hread] at h
    exact absurd h nofun
  | ok r =>
    rw [hread] at h
    have hsession := Option.some.inj h
    rw [runOn_lookup_of_readRecord hread]
    -- the session is that of the record under its own key
    have hself : sessionOf session.key r = session := by
      rw [← hsession]
      rfl
    rw [hself]

end Reading

end PidFiles

end MountKeeper
