import MountKeeper.Proofs.Expansion
import MountKeeper.Proofs.Text.Piece
import Mathlib.Data.Set.Basic

/-! # Where a typed path leads

A typed path that is no bare drive letter becomes absolute, and one that is absolute stays as it is.
One that starts in the home directory is the rest of it seen from there; but a rest that is absolute
itself leads away from the home directory, wherever that is.

* `Path.parts_join_of_relative`: a relative path that is seen from a directory leads below it.
* `Path.expand_underHome`: what stands behind `~/` or `$HOME/` is seen from the home directory.
* `Path.Anchored` says of a set of rests what typed paths lead to; `Path.anchored_iff`: it holds just
  when no rest of the set is absolute. -/

namespace MountKeeper

namespace Text

variable {cs : List Char}

/-- In front of a text without blanks nothing is trimmed, and behind it the end of the text is. -/
theorem trim_append_of_solid (hne : cs ≠ []) (h : ∀ c ∈ cs, isBlank c = false) (back : List Char) :
    trim (cs ++ back) = cs ++ trimEnd back := by
  have hstart : trimStart (cs ++ back) = cs ++ back := by
    obtain ⟨c, rest, rfl⟩ := List.exists_cons_of_ne_nil hne
    exact trimStart_append_cons (h c List.mem_cons_self) [] (rest ++ back)
  have hend : trimEnd cs = cs := by
    rw [trimEnd, dropWhile_isBlank fun c hc => h c (List.mem_reverse.1 hc), List.reverse_reverse]
  rw [trim, hstart]
  by_cases hback : ∃ c ∈ back, isBlank c = false
  · exact trimEnd_append hback cs
  · have hblank : ∀ c ∈ back, isBlank c = true := fun c hc =>
      Bool.not_eq_false _ ▸ fun hc' => hback ⟨c, hc, hc'⟩
    have hnil : trimEnd back = [] := trimEnd_append_of_blank hblank []
    rw [trimEnd_append_of_blank hblank, hend, hnil, List.append_nil]

end Text

namespace Path

variable {env : Surroundings} {dir rest typed : String}

/-! ## Below a directory -/

/-- **A relative path that is seen from a directory** leads below it, by its own names. -/
theorem parts_join_of_relative (h : isAbsolute rest = false) :
    parts (join dir rest) = parts dir ++ parts rest := by
  refine parts_join_of_head? fun hhead => ?_
  rw [isAbsolute_iff.2 hhead] at h
  cases h

/-! ## Typed paths -/

/-- What is no drive letter becomes absolute. -/
theorem isAbsolute_expand (hcurrent : isAbsolute env.currentDir = true)
    (htyped : isDriveLetter (Text.trim typed.toList) = false) :
    isAbsolute (expand env typed) = true := by
  rw [isAbsolute_iff, expand, String.toList_ofList, expandChars, if_neg (by simp [htyped])]
  exact head?_joinChars (isAbsolute_iff.1 hcurrent)

/-- What is absolute stays as it is, without the blanks around it. -/
theorem expand_of_absolute (h : isAbsolute (Text.trimmed typed) = true) :
    expand env typed = Text.trimmed typed := by
  have hhead : (Text.trim typed.toList).head? = some '/' := by
    simpa [Text.trimmed] using isAbsolute_iff.1 h
  have hletter : isDriveLetter (Text.trim typed.toList) = false := by
    refine Bool.eq_false_iff.2 fun hletter => ?_
    obtain ⟨letter, hchars, halpha⟩ := eq_of_isDriveLetter hletter
    rw [hchars, List.head?_cons, Option.some.injEq] at hhead
    subst hhead
    exact absurd halpha (by decide)
  rw [expand, expandChars, if_neg (by simp [hletter]),
    withHome_of_head? hhead (by decide) (by decide), joinChars_of_absolute hhead, Text.trimmed]

/-- What stands for the home directory in front of a path. -/
def homeMarks : List String := ["~/", "$HOME/"]

/-- **What stands behind a mark of the home directory** is seen from there. -/
theorem expand_underHome (hhome : isAbsolute env.home = true) {mark : String}
    (hmark : mark ∈ homeMarks) (rest : String) :
    expand env (mark ++ rest) = join env.home (Text.trimmedEnd rest) := by
  -- the mark starts with no blank, so trimming reaches the rest only, and only at its end
  have htrim : Text.trim (mark ++ rest).toList = mark.toList ++ Text.trimEnd rest.toList := by
    rw [String.toList_append]
    refine Text.trim_append_of_solid ?_ (Text.isBlank_of_any ?_) _
    · rintro hnil
      rcases List.mem_pair.1 hmark with rfl | rfl <;> exact absurd hnil (by decide)
    · rcases List.mem_pair.1 hmark with rfl | rfl <;> decide
  -- neither mark is a drive letter nor the lone tilde: the branch taken is the one under the home
  -- directory
  have hletter : isDriveLetter (mark.toList ++ Text.trimEnd rest.toList) = false := by
    rcases List.mem_pair.1 hmark with rfl | rfl <;> simp [isDriveLetter]
  have hhomeless : mark.toList ++ Text.trimEnd rest.toList ≠ ['~'] := by
    rcases List.mem_pair.1 hmark with rfl | rfl <;> simp
  have hunder : underHome? (mark.toList ++ Text.trimEnd rest.toList)
      = some (Text.trimEnd rest.toList) := by
    rcases List.mem_pair.1 hmark with rfl | rfl <;> simp [underHome?, Text.dropFront?]
  have hwith : withHome env (mark.toList ++ Text.trimEnd rest.toList)
      = joinChars env.home.toList (Text.trimEnd rest.toList) := by
    rw [withHome, if_neg hhomeless, hunder]
  have habsolute : (joinChars env.home.toList (Text.trimEnd rest.toList)).head? = some '/' :=
    head?_joinChars (isAbsolute_iff.1 hhome)
  rw [expand, htrim, expandChars, if_neg (by simp [hletter]), hwith,
    joinChars_of_absolute habsolute, join, Text.trimmedEnd, String.toList_ofList]

/-- Trimming the end leaves a relative path relative, and an absolute one absolute. -/
theorem isAbsolute_trimmedEnd (rest : String) :
    isAbsolute (Text.trimmedEnd rest) = isAbsolute rest := by
  obtain ⟨back, hback⟩ := Text.trimEnd_isPrefix rest.toList
  rw [Bool.eq_iff_iff, isAbsolute_iff, isAbsolute_iff, Text.trimmedEnd, String.toList_ofList]
  constructor
  · intro h
    rw [← hback, List.head?_append, h]
    rfl
  · intro h
    obtain ⟨tail, htail⟩ := List.head?_eq_some_iff.1 h
    rw [htail, ← List.singleton_append]
    -- a slash in front is no blank, so that it stays
    have hkept : Text.trim (['/'] ++ tail) = ['/'] ++ Text.trimEnd tail :=
      Text.trim_append_of_solid (by simp) (Text.isBlank_of_any (by decide)) tail
    have hstart : Text.trimStart (['/'] ++ tail) = ['/'] ++ tail :=
      Text.trimStart_append_cons (by decide) [] tail
    rw [Text.trim, hstart] at hkept
    rw [hkept]
    rfl

/-! ## Which rests stay in the home directory -/

/-- A path is a directory or lies below it, by names of a rest. -/
def LeadsBelow (dir rest path : String) : Prop :=
  ∃ names, parts path = parts dir ++ names ∧ ∀ name ∈ names, name ∈ parts rest

/-- **Where typed paths lead** in some surroundings, with rests from a set behind a mark of the home
directory. -/
structure Leads (env : Surroundings) (S : Set String) : Prop where
  /-- What is no bare drive letter becomes absolute. -/
  absolute : ∀ typed : String, isDriveLetter (Text.trim typed.toList) = false →
    isAbsolute (expand env typed) = true
  /-- What stands behind a mark of the home directory leads there or below. -/
  below_home : ∀ rest ∈ S, ∀ mark ∈ homeMarks,
    LeadsBelow env.home (Text.trimmedEnd rest) (expand env (mark ++ rest))
  /-- What is absolute stays as it is, without the blanks around it. -/
  unchanged : ∀ typed : String, isAbsolute (Text.trimmed typed) = true →
    expand env typed = Text.trimmed typed

/-- So it is wherever the home directory and the current directory are. -/
def Anchored (S : Set String) : Prop :=
  ∀ env : Surroundings, isAbsolute env.home = true → isAbsolute env.currentDir = true → Leads env S

/-- A relative rest stays in the home directory. -/
theorem leadsBelow_of_relative (hhome : isAbsolute env.home = true) {mark : String}
    (hmark : mark ∈ homeMarks) (hrest : isAbsolute rest = false) :
    LeadsBelow env.home (Text.trimmedEnd rest) (expand env (mark ++ rest)) := by
  rw [← isAbsolute_trimmedEnd] at hrest
  refine ⟨parts (Text.trimmedEnd rest), ?_, fun name hname => hname⟩
  rw [expand_underHome hhome hmark, parts_join_of_relative hrest]

/-- An absolute rest leads to the same place from every home directory. -/
theorem expand_of_absolute_rest (env : Surroundings) (hhome : isAbsolute env.home = true)
    {mark : String} (hmark : mark ∈ homeMarks) (hrest : isAbsolute rest = true) :
    expand env (mark ++ rest) = Text.trimmedEnd rest := by
  rw [← isAbsolute_trimmedEnd] at hrest
  rw [expand_underHome hhome hmark, join, joinChars_of_absolute (isAbsolute_iff.1 hrest),
    String.ofList_toList]

/-- No rest that stays where it was told is absolute. -/
theorem relative_of_anchored {S : Set String} (h : Anchored S) (hrest : rest ∈ S) :
    isAbsolute rest = false := by
  refine Bool.eq_false_iff.2 fun habsolute => ?_
  -- it would lead below two directories that have nothing in common
  have hbelow (home name : String) (hhome : isAbsolute home = true) (hparts : parts home = [name]) :
      ∃ names, parts (Text.trimmedEnd rest) = name :: names := by
    have hmark : "~/" ∈ homeMarks := List.mem_cons_self
    have hroot : isAbsolute "/" = true := by decide
    obtain ⟨names, hnames, -⟩ := (h ⟨home, "/"⟩ hhome hroot).below_home rest hrest "~/" hmark
    rw [expand_of_absolute_rest ⟨home, "/"⟩ hhome hmark habsolute, hparts,
      List.singleton_append] at hnames
    exact ⟨names, hnames⟩
  obtain ⟨names, hnames⟩ := hbelow "/a" "a" (by decide) (by decide +kernel)
  obtain ⟨names', hnames'⟩ := hbelow "/b" "b" (by decide) (by decide +kernel)
  rw [hnames] at hnames'
  exact absurd (List.cons.inj hnames').1 (by decide)

/-- **Which rests stay where they were told.** Typed paths lead where they should, for all home
directories and all rests from a set, if and only if no rest of the set is absolute. -/
theorem anchored_iff (S : Set String) : Anchored S ↔ ∀ rest ∈ S, isAbsolute rest = false := by
  refine ⟨fun h rest hrest => relative_of_anchored h hrest, fun h env hhome hcurrent => ?_⟩
  exact {
    absolute := fun typed htyped => isAbsolute_expand hcurrent htyped
    below_home := fun rest hrest mark hmark => leadsBelow_of_relative hhome hmark (h rest hrest)
    unchanged := fun typed htyped => expand_of_absolute htyped }

/-- A second slash behind the mark of the home directory leads to the root. -/
theorem not_anchored_doubleSlash :
    expand ⟨"/home/u", "/tmp"⟩ "~//abs" = "/abs" ∧ ¬ Anchored Set.univ := by
  refine ⟨?_, fun h => ?_⟩
  · have htyped : "~//abs" = "~/" ++ "/abs" := by decide
    rw [htyped, expand_of_absolute_rest _ (by decide) List.mem_cons_self (by decide)]
    decide +kernel
  · have hrelative : isAbsolute "/abs" = false := relative_of_anchored h trivial
    exact absurd hrelative (by decide)

end Path

end MountKeeper
