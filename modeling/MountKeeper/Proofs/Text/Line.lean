import MountKeeper.Text.Numeral
import Mathlib.Data.List.Basic

/-! # Lines that are written and read

* `eq_false_of_mem_splitOnP`: the pieces of a list that was cut have nothing of what it was cut at.
* `lines_append_newline`: a line that was ended is read as one line, whatever follows it.
* `words_append_blank`: a word is cut off at the blank behind it.
* `Trimmed` texts have no blanks at their ends; as a line they lose nothing.
* `Numeral.readWord?_decimal`: a 32-bit number written in decimal is read back. -/

namespace MountKeeper

namespace Text

/-! ## Blanks at the ends -/

/-- A text without blanks at its ends. -/
def Trimmed (cs : List Char) : Prop :=
  trim cs = cs

instance (cs : List Char) : Decidable (Trimmed cs) :=
  inferInstanceAs (Decidable (trim cs = cs))

/-- `trim cs` does not end in a blank. -/
theorem isBlank_of_getLast?_trim {cs : List Char} {c : Char} (h : (trim cs).getLast? = some c) :
    isBlank c = false := by
  rw [trim, trimEnd, List.getLast?_reverse] at h
  have := List.head?_dropWhile_not isBlank (trimStart cs).reverse
  rw [h] at this
  simpa using this

/-- A text in which no blank is found has none. -/
theorem isBlank_of_any {cs : List Char} (h : cs.any isBlank = false) :
    ∀ c ∈ cs, isBlank c = false :=
  fun c hc => Bool.eq_false_iff.2 (List.any_eq_false.1 h c hc)

/-- `cs.dropWhile isBlank = cs` where there are no blanks. -/
theorem dropWhile_isBlank {cs : List Char} (h : ∀ c ∈ cs, isBlank c = false) :
    cs.dropWhile isBlank = cs := by
  cases cs with
  | nil => rfl
  | cons c cs => rw [List.dropWhile_cons, h c List.mem_cons_self, if_neg (by simp)]

/-- A text without blanks is `Trimmed`. -/
theorem trimmed_of_forall {cs : List Char} (h : ∀ c ∈ cs, isBlank c = false) : Trimmed cs := by
  have hreverse : ∀ c ∈ cs.reverse, isBlank c = false := fun c hc => h c (List.mem_reverse.1 hc)
  rw [Trimmed, trim, trimStart, dropWhile_isBlank h, trimEnd, dropWhile_isBlank hreverse,
    List.reverse_reverse]

/-- A text with no blank at either end is `Trimmed`. -/
theorem trimmed_of_ends {cs : List Char} (hhead : ∀ c ∈ cs.head?, isBlank c = false)
    (hlast : ∀ c ∈ cs.getLast?, isBlank c = false) : Trimmed cs := by
  have hkept : ∀ ds : List Char, (∀ c ∈ ds.head?, isBlank c = false) →
      ds.dropWhile isBlank = ds := by
    intro ds hds
    cases ds with
    | nil => rfl
    | cons c ds => rw [List.dropWhile_cons, hds c rfl, if_neg (by decide)]
  have hreverse : ∀ c ∈ cs.reverse.head?, isBlank c = false := by
    rwa [List.head?_reverse]
  rw [Trimmed, trim, trimStart, hkept cs hhead, trimEnd, hkept cs.reverse hreverse,
    List.reverse_reverse]

/-- `trim cs` does not start with a blank. -/
theorem isBlank_of_head?_trim {cs : List Char} {c : Char} (h : (trim cs).head? = some c) :
    isBlank c = false := by
  -- what was cut off at the end leaves a front part of what was cut at the start
  have hfront : trim cs <+: trimStart cs := by
    have hback := List.dropWhile_suffix (l := (trimStart cs).reverse) isBlank
    have hprefix := List.reverse_prefix.2 hback
    rwa [List.reverse_reverse] at hprefix
  obtain ⟨rest, hrest⟩ := hfront
  have hhead : (trimStart cs).head? = some c := by
    rw [← hrest, List.head?_append, h]
    rfl
  have hblank := List.head?_dropWhile_not isBlank cs
  unfold trimStart at hhead
  rw [hhead] at hblank
  simpa using hblank

/-- `trim cs` is `Trimmed`. -/
theorem trimmed_trim (cs : List Char) : Trimmed (trim cs) :=
  trimmed_of_ends (fun _ hc => isBlank_of_head?_trim hc) fun _ hc => isBlank_of_getLast?_trim hc

/-- `trim` adds no characters. -/
theorem mem_of_mem_trim {cs : List Char} {c : Char} (h : c ∈ trim cs) : c ∈ cs := by
  have hstart : c ∈ trimStart cs :=
    List.mem_reverse.1 ((List.dropWhile_suffix isBlank).subset (List.mem_reverse.1 h))
  exact (List.dropWhile_suffix isBlank).subset hstart

/-- `dropReturn cs = cs` for a `Trimmed` line: it has no carriage return to lose. -/
theorem dropReturn_of_trimmed {cs : List Char} (h : Trimmed cs) : dropReturn cs = cs := by
  unfold dropReturn
  split
  · next rest hrest =>
    -- the carriage return would be a blank at the end
    -- the carriage return would be a blank at the end
    have hlast : (trim cs).getLast? = some '\r' := by
      rw [h, ← List.head?_reverse, hrest, List.head?_cons]
    exact absurd (isBlank_of_getLast?_trim hlast) (by decide)
  · rfl

/-- `dropReturn` adds no characters. -/
theorem mem_of_mem_dropReturn {cs : List Char} {c : Char} (h : c ∈ dropReturn cs) : c ∈ cs := by
  unfold dropReturn at h
  split at h
  · next rest hrest =>
    refine List.mem_reverse.1 ?_
    rw [hrest]
    exact List.mem_cons_of_mem _ (List.mem_reverse.1 h)
  · exact h

/-! ## Cuts -/

/-- A piece of `xs.splitOnP p` has nothing with `p`. -/
theorem eq_false_of_mem_splitOnP {α : Type} {p : α → Bool} {xs piece : List α}
    (h : piece ∈ xs.splitOnP p) : ∀ x ∈ piece, p x = false := by
  induction xs generalizing piece with
  | nil =>
    rw [List.splitOnP_nil, List.mem_singleton] at h
    subst h
    nofun
  | cons x xs ih =>
    rw [List.splitOnP_cons_eq_if_modifyHead] at h
    split at h
    · rcases List.mem_cons.1 h with rfl | h
      · nofun
      · exact ih h
    · next hx =>
      -- the first piece has one element more, and the others are as they were
      obtain ⟨front, rest, hcut⟩ := List.exists_cons_of_ne_nil (List.splitOnP_ne_nil p xs)
      rw [hcut, List.modifyHead_cons] at h
      rw [hcut] at ih
      rcases List.mem_cons.1 h with rfl | h
      · intro y hy
        rcases List.mem_cons.1 hy with rfl | hy
        · exact Bool.eq_false_iff.2 hx
        · exact ih List.mem_cons_self y hy
      · exact ih (List.mem_cons_of_mem _ h)

/-! ## Lines -/

/-- `lines (line ++ '\n' :: rest)`: a line that was ended is read as one line, whatever follows it.
-/
theorem lines_append_newline {line : List Char} (h : '\n' ∉ line) (rest : List Char) :
    lines (line ++ '\n' :: rest) = dropReturn line :: lines rest := by
  -- the last piece of `rest`, which is no line if it is empty, is the last piece of the whole
  -- the last piece of `rest`, which is no line if it is empty, is the last piece of the whole
  obtain ⟨init, last, hlast⟩ : ∃ init last, rest.splitOn '\n' = init ++ [last] :=
    ⟨_, _, (List.dropLast_concat_getLast (List.splitOn_ne_nil '\n' rest)).symm⟩
  unfold lines
  rw [List.splitOn_append_cons_self, List.splitOn_eq_singleton h, hlast]
  simp

/-- There is no line feed in a member of `lines cs`. -/
theorem newline_not_mem_of_mem_lines {cs line : List Char} (h : line ∈ lines cs) : '\n' ∉ line := by
  -- a line is a piece of the cut, which may have lost a carriage return
  have hpiece : ∃ piece ∈ cs.splitOn '\n', line = piece ∨ line = dropReturn piece := by
    unfold lines at h
    cases hcut : (cs.splitOn '\n').reverse with
    | nil => simp [hcut] at h
    | cons last ended =>
      have hcut' : cs.splitOn '\n' = ended.reverse ++ [last] := by
        rw [← List.reverse_reverse (cs.splitOn '\n'), hcut, List.reverse_cons]
      rw [hcut']
      rw [hcut, List.mem_append, List.mem_reverse, List.mem_map] at h
      rcases h with ⟨piece, hmem, rfl⟩ | h
      · exact ⟨piece, List.mem_append_left _ (List.mem_reverse.2 hmem), .inr rfl⟩
      · split at h
        · exact absurd h List.not_mem_nil
        · exact ⟨last, List.mem_append_right _ (List.mem_singleton_self _),
            .inl (List.mem_singleton.1 h)⟩
  obtain ⟨piece, hmem, hline⟩ := hpiece
  have hno : '\n' ∉ piece := fun hc => by
    have hfalse := eq_false_of_mem_splitOnP hmem _ hc
    simp at hfalse
  rcases hline with rfl | rfl
  · exact hno
  · exact fun hc => hno (mem_of_mem_dropReturn hc)

/-- `lines (pieces.flatMap (· ++ ['\n'])) = pieces.map dropReturn`: lines that are written one after
the other are read one after the other. -/
theorem lines_flatMap_newline {pieces : List (List Char)} (h : ∀ piece ∈ pieces, '\n' ∉ piece) :
    lines (pieces.flatMap fun piece => piece ++ ['\n']) = pieces.map dropReturn := by
  induction pieces with
  | nil => rfl
  | cons piece rest ih =>
    rw [List.flatMap_cons, List.append_assoc, List.singleton_append,
      lines_append_newline (h piece List.mem_cons_self),
      ih fun p hp => h p (List.mem_cons_of_mem _ hp), List.map_cons]

/-! ## Words -/

/-- `words (b :: rest) = words rest` for a blank `b`. -/
theorem words_blank_cons {b : Char} (hb : isBlank b = true) (rest : List Char) :
    words (b :: rest) = words rest := by
  rw [words, words, List.splitOnP_cons_eq_if_modifyHead, if_pos hb]
  rfl

/-- `words (word ++ b :: rest)`: a word is cut off at the blank behind it. -/
theorem words_append_blank {word : List Char} (hword : ∀ c ∈ word, isBlank c = false)
    (hne : word ≠ []) {b : Char} (hb : isBlank b = true) (rest : List Char) :
    words (word ++ b :: rest) = word :: words rest := by
  rw [words, words, List.splitOnP_append_cons_of_forall_mem hword b hb,
    List.filter_cons_of_pos (by simpa using hne)]

end Text

namespace Numeral

/-! ## Numbers -/

/-- A digit is no blank. -/
theorem isBlank_of_isDigit {c : Char} (h : c.isDigit = true) : Text.isBlank c = false := by
  have hrange : 48 ≤ c.toNat ∧ c.toNat ≤ 57 := Char.isDigit_iff_toNat.1 h
  unfold Text.isBlank
  simp only [Bool.or_eq_false_iff, Bool.and_eq_false_iff, decide_eq_false_iff_not,
    beq_eq_false_iff_ne]
  omega

/-- `readOn? 10` reads decimal digits as the number that they make, `Nat.ofDigitChars 10`. -/
theorem readOn?_of_isDigit {cs : List Char} (h : ∀ c ∈ cs, c.isDigit = true) (value : Nat) :
    readOn? 10 value cs = some (Nat.ofDigitChars 10 cs value) := by
  induction cs generalizing value with
  | nil => simp [readOn?]
  | cons c cs ih =>
    have hc := h c List.mem_cons_self
    have hrange : 48 ≤ c.toNat ∧ c.toNat ≤ 57 := Char.isDigit_iff_toNat.1 hc
    have hvalue : digitValue? c = some (c.toNat - '0'.toNat) := by
      rw [digitValue?, if_pos hc]
    have hlt : c.toNat - '0'.toNat < 10 := by
      have : '0'.toNat = 48 := rfl
      omega
    rw [readOn?, hvalue, Nat.ofDigitChars_cons]
    simp only [if_pos hlt]
    exact ih (fun d hd => h d (List.mem_cons_of_mem c hd)) _

/-- The characters of `decimal n` are digits. -/
theorem isDigit_of_mem_decimal {n : Nat} {c : Char} (h : c ∈ (decimal n).toList) :
    c.isDigit = true := by
  rw [decimal, String.toList_ofList] at h
  exact Nat.isDigit_of_mem_toDigits (by decide) (by decide) h

/-- `readWord?` of digits without a sign in front is their value, if it fits. -/
theorem readWord?_of_head {base : Nat} {cs : List Char} {c : Char} {n : Nat} (hc : c ≠ '+')
    (hread : readDigits? base (c :: cs) = some n) (hn : n < UInt32.size) :
    readWord? base (String.ofList (c :: cs)) = some (UInt32.ofNat n) := by
  unfold readWord?
  rw [String.toList_ofList]
  simp [hc, hread, hn]

/-- **A 32-bit number written in decimal is read back**: `readWord? 10` undoes `decimal`. -/
theorem readWord?_decimal (n : UInt32) : readWord? 10 (decimal n.toNat) = some n := by
  have hdigits : ∀ c ∈ Nat.toDigits 10 n.toNat, c.isDigit = true :=
    fun c hc => Nat.isDigit_of_mem_toDigits (by decide) (by decide) hc
  have hread : readDigits? 10 (Nat.toDigits 10 n.toNat) = some n.toNat := by
    rw [readDigits?, if_neg (by simp [Nat.toDigits_ne_nil]), readOn?_of_isDigit hdigits,
      Nat.ofDigitChars_toDigits (by decide) (by decide)]
  obtain ⟨c, cs, hcs⟩ := List.exists_cons_of_ne_nil (Nat.toDigits_ne_nil (n := n.toNat) (b := 10))
  -- a numeral starts with a digit, so that there is no sign to skip
  -- a numeral starts with a digit, so that there is no sign to skip
  have hsign : c ≠ '+' := by
    rintro rfl
    exact absurd (hdigits '+' (hcs ▸ List.mem_cons_self)) (by decide)
  rw [hcs] at hread
  rw [decimal, hcs, readWord?_of_head hsign hread n.toNat_lt_size, UInt32.ofNat_toNat]

end Numeral

end MountKeeper
