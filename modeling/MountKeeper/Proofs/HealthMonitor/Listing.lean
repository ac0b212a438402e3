import MountKeeper.HealthMonitor.Locator
import MountKeeper.Proofs.Act
import MountKeeper.Proofs.Text.Piece
import MountKeeper.Rehearsal.System
import Mathlib.Tactic.IntervalCases

/-! # Monitors in a listing of processes

The monitor of a process is looked for in the listing that a program prints, one row for each process.

* `ProcessRow` is such a row: the user, the process id, and whatever columns come behind it.
* `ProcessRow.IsMonitorOf`: the row names the monitor and has the argument with the watched process as
  a word of its own. `isMonitorLine_iff` is that the lines that are looked for are these rows.
* `ProcessRow.pidOf_line`: what is read off a row is its process id.
* `MonitorLocator.find_listing`: which process is found in a listing, and when none is. -/

namespace MountKeeper

open Text (isBlank isDecimalDigit isWordCharacter IsWordOf)

/-! ## Numbers between blanks -/

namespace Text

/-- A blank stands neither in numbers nor in words. -/
theorem not_word_of_isBlank {c : Char} (h : isBlank c = true) :
    isDecimalDigit c = false ∧ isWordCharacter c = false := by
  rw [← Char.ofNat_toNat c]
  rw [isBlank] at h
  simp only [Bool.or_eq_true, Bool.and_eq_true, decide_eq_true_eq, beq_iff_eq] at h
  generalize c.toNat = n at h ⊢
  rcases h with (((((((((h | rfl) | rfl) | rfl) | rfl) | h) | rfl) | rfl) | rfl) | rfl) | rfl
  case inl.inl.inl.inl.inl.inl.inl.inl.inl.inl =>
    obtain ⟨hlow, hhigh⟩ := h
    interval_cases n <;> decide +kernel
  case inl.inl.inl.inl.inl.inr =>
    obtain ⟨hlow, hhigh⟩ := h
    interval_cases n <;> decide +kernel
  all_goals decide +kernel

end Text

namespace MonitorLocator

/-- Blanks in front of a number are passed over. -/
theorem firstNumber?_append_of_blank {blanks : List Char} (h : ∀ c ∈ blanks, isBlank c = true)
    (cs : List Char) : firstNumber? true (blanks ++ cs) = firstNumber? true cs := by
  induction blanks with
  | nil => rfl
  | cons b blanks ih =>
    obtain ⟨hdigit, hword⟩ := Text.not_word_of_isBlank (h b List.mem_cons_self)
    rw [List.cons_append, firstNumber?, hdigit, hword, Bool.and_false, if_neg (by decide)]
    exact ih fun c hc => h c (List.mem_cons_of_mem b hc)

/-- A number is read to its end where a blank or nothing stands behind it. -/
theorem firstNumber?_append {digits back : List Char} (hne : digits ≠ [])
    (hdigits : ∀ c ∈ digits, c.isDigit = true) (hback : ∀ c ∈ back.head?, isBlank c = true) :
    firstNumber? true (digits ++ back) = some digits := by
  have hall : ∀ c ∈ digits, isDecimalDigit c = true := fun c hc =>
    Text.isDecimalDigit_of_isDigit (hdigits c hc)
  have hstop : back.takeWhile isDecimalDigit = [] ∧ back.dropWhile isDecimalDigit = back := by
    cases back with
    | nil => exact ⟨rfl, rfl⟩
    | cons b back =>
      have hb := (Text.not_word_of_isBlank (hback b rfl)).1
      rw [List.takeWhile_cons, List.dropWhile_cons, hb]
      exact ⟨rfl, rfl⟩
  have hcut : (digits ++ back).takeWhile isDecimalDigit = digits ∧
      (digits ++ back).dropWhile isDecimalDigit = back := by
    rw [List.takeWhile_append_of_pos hall, List.dropWhile_append_of_pos hall, hstop.1, hstop.2,
      List.append_nil]
    exact ⟨rfl, rfl⟩
  -- a number inside a word does not count, so the blank after the digits is what lets them stand
  have hend : (back.head?.any isWordCharacter) = false := by
    cases back with
    | nil => rfl
    | cons b back => exact (Text.not_word_of_isBlank (hback b rfl)).2
  obtain ⟨d, rest, rfl⟩ := List.exists_cons_of_ne_nil hne
  rw [List.cons_append] at hcut ⊢
  rw [firstNumber?, hall d List.mem_cons_self, Bool.and_true, if_pos rfl]
  simp only [hcut.1, hcut.2, hend]
  rfl

/-- A number does not become less by the digits behind it. -/
theorem le_ofDigitChars (value : Nat) (cs : List Char) : value ≤ Nat.ofDigitChars 10 cs value := by
  induction cs generalizing value with
  | nil => exact Nat.le_refl value
  | cons c cs ih =>
    rw [Nat.ofDigitChars_cons]
    exact Nat.le_trans (by omega) (ih _)

/-- Digits whose value fits are read as their value. -/
theorem readPid_of_isDigit {cs : List Char} {value : Nat} (h : ∀ c ∈ cs, c.isDigit = true)
    (hfits : Nat.ofDigitChars 10 cs value < UInt32.size) :
    readPid value cs = .ok (UInt32.ofNat (Nat.ofDigitChars 10 cs value)) := by
  induction cs generalizing value with
  | nil => simp [readPid]
  | cons c cs ih =>
    rw [Nat.ofDigitChars_cons] at hfits ⊢
    -- what has been read so far fits as well
    have hnext := Nat.lt_of_le_of_lt (le_ofDigitChars _ cs) hfits
    rw [readPid, if_pos (h c List.mem_cons_self)]
    simp only [if_pos hnext]
    exact ih (fun d hd => h d (List.mem_cons_of_mem c hd)) hfits

/-- A process id that was written in decimal is read back. -/
theorem readPid_decimal (pid : UInt32) :
    readPid 0 (Numeral.decimal pid.toNat).toList = .ok pid := by
  have hvalue : Nat.ofDigitChars 10 (Numeral.decimal pid.toNat).toList 0 = pid.toNat := by
    rw [Numeral.decimal, String.toList_ofList, Nat.ofDigitChars_toDigits (by decide) (by decide)]
  have hfits : Nat.ofDigitChars 10 (Numeral.decimal pid.toNat).toList 0 < UInt32.size := by
    rw [hvalue]
    exact pid.toNat_lt_size
  rw [readPid_of_isDigit (fun c => Numeral.isDigit_of_mem_decimal) hfits, hvalue,
    UInt32.ofNat_toNat]

end MonitorLocator

/-! ## Rows -/

/-- A row of a listing of processes. -/
structure ProcessRow where
  user : List Char
  /-- The blanks between the user and the process id. -/
  gap : List Char
  pid : UInt32
  /-- The blank behind the process id. -/
  edge : Char
  /-- The further columns and the command. -/
  rest : List Char
  solid : ∀ c ∈ user, isBlank c = false
  gap_ne_nil : gap ≠ []
  blank_of_mem_gap : ∀ c ∈ gap, isBlank c = true
  blank_edge : isBlank edge = true
  /-- A row is printed on one line. -/
  oneLine : '\n' ∉ gap ++ edge :: rest

namespace ProcessRow

/-- The text of a row. -/
def line (row : ProcessRow) : List Char :=
  row.user ++ (row.gap ++ ((Numeral.decimal row.pid.toNat).toList ++ row.edge :: row.rest))

/-- The row is that of the monitor of a process: it names the monitor, and has the argument with the
process as a word of its own. -/
def IsMonitorOf (owner : UInt32) (row : ProcessRow) : Prop :=
  "cfusemon".toList <:+: row.line ∧
    IsWordOf ("--pid=" ++ Numeral.decimal owner.toNat).toList row.line

/-- What a program prints as a listing: a header, and the rows on lines of their own. -/
def printed (header : List Char) (rows : List ProcessRow) : String :=
  String.ofList (header ++ '\n' :: rows.flatMap fun row => row.line ++ ['\n'])

variable (row : ProcessRow) {owner owner' : UInt32}

/-- A printed row is one line. -/
theorem newline_notMem_line : '\n' ∉ row.line := by
  have hline := row.oneLine
  rw [List.mem_append, not_or] at hline
  rw [line, List.mem_append, List.mem_append, List.mem_append, not_or, not_or, not_or]
  refine ⟨fun h => ?_, hline.1, fun h => ?_, hline.2⟩
  · exact absurd (row.solid '\n' h) (by decide)
  · exact absurd (Numeral.isDigit_of_mem_decimal h) (by decide)

/-- The lines of a listing are those of its rows, behind that of the header. -/
theorem lines_printed {header : List Char} (hheader : '\n' ∉ header) (rows : List ProcessRow) :
    Text.lines (printed header rows).toList
      = Text.dropReturn header :: rows.map fun row => Text.dropReturn row.line := by
  rw [printed, String.toList_ofList, Text.lines_append_newline hheader]
  congr 1
  induction rows with
  | nil => rfl
  | cons row rows ih =>
    rw [List.flatMap_cons, List.append_assoc, List.singleton_append,
      Text.lines_append_newline row.newline_notMem_line, ih, List.map_cons]

/-- **The lines that are looked for** are the rows of the monitor of the process. -/
theorem isMonitorLine_iff :
    MonitorLocator.isMonitorLine owner (Text.dropReturn row.line) = true ↔ row.IsMonitorOf owner := by
  rw [MonitorLocator.isMonitorLine, Bool.and_eq_true, Text.occursIn_iff, List.contains_iff_mem,
    Text.words_dropReturn, Text.mem_words_iff, Text.infix_dropReturn_iff (by decide), IsMonitorOf,
    MonitorCommand.program, MonitorCommand.ownerArgument]

/-- **What is read off a row** is its process id, whatever digits there are in the user's name and in
the columns behind. -/
theorem pidOf_line : MonitorLocator.pidOf (Text.dropReturn row.line) = .ok row.pid := by
  obtain ⟨b, gap, hgap⟩ := List.exists_cons_of_ne_nil row.gap_ne_nil
  have hblank := row.blank_of_mem_gap
  rw [hgap] at hblank
  have hb := hblank b List.mem_cons_self
  -- the columns behind the user are those behind the first blank
  have hcolumns : MonitorLocator.afterUser (Text.dropReturn row.line) = gap
      ++ ((Numeral.decimal row.pid.toNat).toList ++ Text.dropReturn (row.edge :: row.rest)) := by
    have huser : ∀ c ∈ row.user, (!isBlank c) = true := fun c hc => by rw [row.solid c hc]; rfl
    rw [line, Text.dropReturn_append _ (by simp), Text.dropReturn_append _ (by simp),
      Text.dropReturn_append _ (by simp), hgap, MonitorLocator.afterUser,
      List.dropWhile_append_of_pos huser, List.cons_append, List.dropWhile_cons, hb,
      if_neg (by decide), List.drop_one, List.tail_cons]
  have hback : ∀ c ∈ (Text.dropReturn (row.edge :: row.rest)).head?, isBlank c = true := by
    intro c hc
    rcases Text.dropReturn_cases (row.edge :: row.rest) with h | h
    · rw [h] at hc
      exact Option.some.inj hc ▸ row.blank_edge
    · cases hdrop : Text.dropReturn (row.edge :: row.rest) with
      | nil =>
        rw [hdrop] at hc
        cases hc
      | cons d rest =>
        rw [hdrop, List.cons_append, List.cons.injEq] at h
        rw [hdrop] at hc
        rw [← Option.some.inj hc, ← h.1]
        exact row.blank_edge
  have hne : (Numeral.decimal row.pid.toNat).toList ≠ [] := by
    simp [Numeral.decimal, Nat.toDigits_ne_nil]
  rw [MonitorLocator.pidOf, hcolumns, MonitorLocator.firstNumber?_append_of_blank
    fun c hc => hblank c (List.mem_cons_of_mem b hc), MonitorLocator.firstNumber?_append hne
      (fun c => Numeral.isDigit_of_mem_decimal) hback]
  exact MonitorLocator.readPid_decimal row.pid

/-- A row of which the argument names one process is not that of the monitor of another one, even if the
number of the one starts with that of the other. -/
theorem not_isMonitorOf (hne : owner' ≠ owner)
    (h : ∀ w, IsWordOf w row.line → "--pid=".toList <+: w →
      w = ("--pid=" ++ Numeral.decimal owner'.toNat).toList) : ¬ row.IsMonitorOf owner := by
  rintro ⟨-, hword⟩
  have heq := h _ hword (by rw [String.toList_append]; exact List.prefix_append _ _)
  rw [String.toList_append, String.toList_append, List.append_cancel_left_eq] at heq
  refine hne (Option.some.inj ?_)
  rw [← Numeral.readWord?_decimal, ← Numeral.readWord?_decimal, String.toList_inj.1 heq]

end ProcessRow

/-! ## Listings -/

namespace MonitorLocator

variable {σ : Type} {runner : CommandRunner σ} {header : List Char} {rows : List ProcessRow}
  {owner : UInt32}

/-- `inListing` of a printed listing finds the first row of the owner and reads its process id, and
fails if there is none. -/
theorem inListing_printed (hheader : '\n' ∉ header) (hname : ¬ "cfusemon".toList <:+: header) :
    inListing owner (ProcessRow.printed header rows)
      = (rows.find? fun row => isMonitorLine owner (Text.dropReturn row.line)).elim
          (.error (notFound owner)) fun row => .ok row.pid := by
  have hskip : isMonitorLine owner (Text.dropReturn header) = false := by
    rw [isMonitorLine, Bool.and_eq_false_iff]
    refine .inl (Bool.eq_false_iff.2 fun h => hname ?_)
    exact (Text.infix_dropReturn_iff (by decide)).1 (Text.occursIn_iff.1 h)
  rw [inListing, ProcessRow.lines_printed hheader, List.find?_cons, hskip, List.find?_map]
  change _ = ((rows.find? (isMonitorLine owner ∘ fun row => Text.dropReturn row.line)).elim
    (Except.error (notFound owner)) fun row => .ok row.pid)
  cases rows.find? (isMonitorLine owner ∘ fun row => Text.dropReturn row.line) with
  | none => rfl
  | some row => exact row.pidOf_line

/-- **The monitor that is found** in a listing is that of the first row that names the monitor and has
the argument with the watched process as a word of its own; where there is no such row, none is
found. The row of a monitor that watches another process is no such row. -/
theorem find_listing {s s' : σ} {output : CommandOutput}
    (hrun : (runner.run "ps" ["aux"]).runOn s = (.ok output, s'))
    (hprinted : output.stdout = ProcessRow.printed header rows) (hheader : '\n' ∉ header)
    (hname : ¬ "cfusemon".toList <:+: header) (owner : UInt32) :
    (∀ before row after, rows = before ++ row :: after →
      (∀ other ∈ before, ¬ other.IsMonitorOf owner) → row.IsMonitorOf owner →
        ((listing runner).find owner).runOn s = (.ok row.pid, s')) ∧
    ((∀ row ∈ rows, ¬ row.IsMonitorOf owner) →
      ((listing runner).find owner).runOn s = (.error (notFound owner), s')) ∧
    ∀ row ∈ rows, ∀ owner' ≠ owner, (∀ w, IsWordOf w row.line → "--pid=".toList <+: w →
      w = ("--pid=" ++ Numeral.decimal owner'.toNat).toList) → ¬ row.IsMonitorOf owner := by
  have hfind : ((listing runner).find owner).runOn s
      = (inListing owner (ProcessRow.printed header rows), s') := by
    dsimp only [listing]
    rw [Act.runOn_bind, hrun, ← hprinted]
    dsimp only
    cases inListing owner output.stdout <;> rfl
  have hother : ∀ row : ProcessRow, ¬ row.IsMonitorOf owner →
      isMonitorLine owner (Text.dropReturn row.line) = false := fun row hrow =>
    Bool.eq_false_iff.2 fun h => hrow (row.isMonitorLine_iff.1 h)
  rw [hfind, inListing_printed hheader hname]
  refine ⟨?_, fun hnone => ?_, fun row _ owner' hne h => row.not_isMonitorOf hne h⟩
  · rintro before row after rfl hbefore hrow
    -- the line is found by the test of the code, which `isMonitorLine_iff` turns into the words of
    -- the row
    have hfirst : (before ++ row :: after).find?
        (fun row => isMonitorLine owner (Text.dropReturn row.line)) = some row := by
      refine List.find?_eq_some_iff_append.2 ⟨row.isMonitorLine_iff.2 hrow, before, after, rfl, ?_⟩
      intro other hmem
      rw [hother other (hbefore other hmem)]
      rfl
    rw [hfirst, Option.elim_some]
  · have hno : rows.find? (fun row => isMonitorLine owner (Text.dropReturn row.line)) = none := by
      refine List.find?_eq_none.2 fun row hmem => ?_
      rw [hother row (hnone row hmem)]
      exact Bool.false_ne_true
    rw [hno, Option.elim_none]

end MonitorLocator

/-! ### A listing of three rows -/

namespace Rehearsal.Host

/-- A row with two blanks in front of the process id and one behind it. -/
def rowOf (user : String) (pid : UInt32) (rest : String) (huser : user.toList.any isBlank = false)
    (hrest : rest.toList.contains '\n' = false) : ProcessRow where
  user := user.toList
  gap := [' ', ' ']
  pid := pid
  edge := ' '
  rest := rest.toList
  solid := Text.isBlank_of_any huser
  gap_ne_nil := List.cons_ne_nil _ _
  blank_of_mem_gap := List.all_eq_true.1 (by decide)
  blank_edge := by decide
  oneLine := by
    have hnewline : '\n' ∉ rest.toList := fun h => by
      rw [List.contains_iff_mem.2 h] at hrest
      cases hrest
    simpa using hnewline

/-- A process that is not a monitor, though it has the argument. -/
def servingRow : ProcessRow :=
  rowOf "user1" 2001 " 0.0  2000 cloudfuse mount /mnt/data --pid=2001" (by decide) (by decide)

/-- The monitor of a process with a number that starts with that of the first one. -/
def longerRow : ProcessRow :=
  rowOf "user1" 2002 " 0.0  2000 cfusemon --pid=20011" (by decide) (by decide)

/-- The monitor of the first process, run by a user with digits in the name. -/
def monitorRow : ProcessRow :=
  rowOf "2001" 2003 " 0.0  2000 cfusemon --pid=2001 --cache-path=/tmp" (by decide) (by decide)

/-- The header of a listing. -/
def listingHeader : List Char := "USER PID %CPU RSS COMMAND".toList

/-- A host on which the three processes are listed. -/
def listedHost : Host where
  surroundings := ⟨"/root", "/"⟩
  programs := { rules := [("ps aux",
    .succeeds (ProcessRow.printed listingHeader [servingRow, longerRow, monitorRow]))] }

/-- The monitor of the first process is found behind the two other rows. -/
theorem find_listing_threeRows :
    ∃ h', (runner.run "ps" ["aux"]).runOn listedHost
        = (.ok ⟨ProcessRow.printed listingHeader [servingRow, longerRow, monitorRow], ""⟩, h') ∧
      '\n' ∉ listingHeader ∧ ¬ "cfusemon".toList <:+: listingHeader ∧
      ((MonitorLocator.listing runner).find 2001).runOn listedHost = (.ok 2003, h') := by
  have hrun := Act.runOn_of_toOption (a := runner.run "ps" ["aux"]) (s := listedHost)
    (x := ⟨ProcessRow.printed listingHeader [servingRow, longerRow, monitorRow], ""⟩)
    (by decide +kernel)
  have hheader : '\n' ∉ listingHeader := by decide
  have hname : ¬ "cfusemon".toList <:+: listingHeader :=
    mt Text.occursIn_iff.2 (by decide +kernel)
  have hlines : ∀ row : ProcessRow, ∀ found,
      MonitorLocator.isMonitorLine 2001 (Text.dropReturn row.line) = found →
        (row.IsMonitorOf 2001 ↔ found = true) := by
    rintro row found rfl
    exact row.isMonitorLine_iff.symm
  have hserving := hlines servingRow false (by decide +kernel)
  have hlonger := hlines longerRow false (by decide +kernel)
  have hmonitor := hlines monitorRow true (by decide +kernel)
  refine ⟨_, hrun, hheader, hname, (MonitorLocator.find_listing hrun rfl hheader hname 2001).1
    [servingRow, longerRow] monitorRow [] rfl (fun other hother => ?_) (hmonitor.2 rfl)⟩
  rcases List.mem_cons.1 hother with rfl | hother
  · exact mt hserving.1 Bool.false_ne_true
  · rw [List.mem_singleton.1 hother]
    exact mt hlonger.1 Bool.false_ne_true

end Rehearsal.Host

end MountKeeper
