import MountKeeper.Proofs.Path
import MountKeeper.Proofs.Text.Line

/-! # What a typed path means

* `Path.Rooted` paths are absolute or a bare drive letter; `Path.rooted_expand`: what a typed path
  means is one of them.
* `Path.expand_join`: a file of a rooted directory, typed once more, is seen from the current
  directory. `Path.expand_join_eq_iff`: it means itself when the directory is absolute, and never
  below a drive letter. -/

namespace MountKeeper

namespace Text

/-- A letter is no blank. -/
theorem isBlank_of_isAlpha {c : Char} (h : c.isAlpha = true) : isBlank c = false := by
  have hcase : c.isUpper = true ∨ c.isLower = true := (Bool.or_eq_true _ _).mp h
  have hrange : (65 ≤ c.toNat ∧ c.toNat ≤ 90) ∨ (97 ≤ c.toNat ∧ c.toNat ≤ 122) := by
    refine hcase.imp (fun hupper => ?_) fun hlower => ?_
    · exact of_decide_eq_true hupper
    · have hends := (Bool.and_eq_true _ _).mp hlower
      exact ⟨of_decide_eq_true hends.1, of_decide_eq_true hends.2⟩
  unfold isBlank
  simp only [Bool.or_eq_false_iff, Bool.and_eq_false_iff, decide_eq_false_iff_not,
    beq_eq_false_iff_ne]
  omega

end Text

namespace Path

variable {env : Surroundings} {dir name : String}

/-! ## Rooted paths -/

/-- That a path is absolute or a bare drive letter. -/
def Rooted (p : String) : Prop :=
  isAbsolute p = true ∨ isDriveLetter p.toList = true

/-- A path is absolute if and only if it begins with a slash. -/
theorem isAbsolute_iff {p : String} : isAbsolute p = true ↔ p.toList.head? = some '/' := by
  rw [isAbsolute, beq_iff_eq]

/-- A drive letter is a letter and a colon. -/
theorem eq_of_isDriveLetter {cs : List Char} (h : isDriveLetter cs = true) :
    ∃ letter, cs = [letter, ':'] ∧ letter.isAlpha = true := by
  unfold isDriveLetter at h
  split at h
  · next letter => exact ⟨letter, rfl, h⟩
  · exact absurd h (by decide)

/-- Everything that is seen from an absolute path is absolute. -/
theorem head?_joinChars {base p : List Char} (h : base.head? = some '/') :
    (joinChars base p).head? = some '/' := by
  have hne : base ≠ [] := fun he => absurd (he ▸ h) (by decide)
  unfold joinChars
  split
  · assumption
  · split <;> rw [List.head?_append_of_ne_nil _ hne, h]

/-- What is joined to an absolute directory is absolute, whatever `name` is. -/
theorem isAbsolute_join_of_absolute (h : isAbsolute dir = true) :
    isAbsolute (join dir name) = true := by
  rw [isAbsolute_iff, join, String.toList_ofList]
  exact head?_joinChars (isAbsolute_iff.1 h)

/-- **What a typed path means** is rooted. -/
theorem rooted_expand (h : isAbsolute env.currentDir = true) (typed : String) :
    Rooted (expand env typed) := by
  rw [expand, expandChars]
  split
  · next hletter => exact .inr (by rwa [String.toList_ofList])
  · refine .inl (isAbsolute_iff.2 ?_)
    rw [String.toList_ofList]
    exact head?_joinChars (isAbsolute_iff.1 h)

/-! ## Files of a rooted directory -/

/-- A file of a rooted directory starts with a slash or a letter. -/
theorem head?_join (hdir : Rooted dir) (h : Plain name) :
    ∃ c, (join dir name).toList.head? = some c ∧ (c = '/' ∨ c.isAlpha = true) := by
  rcases hdir with habsolute | hletter
  · exact ⟨'/', isAbsolute_iff.1 (isAbsolute_join_of_absolute habsolute), .inl rfl⟩
  · obtain ⟨letter, hchars, halpha⟩ := eq_of_isDriveLetter hletter
    refine ⟨letter, ?_, .inr halpha⟩
    rw [toList_join h, hchars]
    simp

/-- A rooted directory and a plain name are joined by a slash. -/
theorem slash_mem_join (hdir : Rooted dir) (h : Plain name) : '/' ∈ (join dir name).toList := by
  rcases hdir with habsolute | hletter
  · exact List.mem_of_mem_head? (isAbsolute_iff.1 (isAbsolute_join_of_absolute habsolute))
  · obtain ⟨letter, hchars, -⟩ := eq_of_isDriveLetter hletter
    rw [toList_join h, hchars]
    simp

/-- The last character of `join dir name` is that of `name`. -/
theorem getLast?_join (h : Plain name) :
    (join dir name).toList.getLast? = name.toList.getLast? := by
  have hne : name.toList ≠ [] := fun he => h.ne_empty (String.toList_eq_nil_iff.1 he)
  rw [toList_join h]
  split
  · exact List.getLast?_append_of_ne_nil _ hne
  · rw [List.getLast?_append_of_ne_nil _ (by simp), List.getLast?_cons_of_ne_nil hne]

/-- What starts with neither a tilde nor a dollar sign has no home directory in front. -/
theorem withHome_of_head? {cs : List Char} {c : Char} (h : cs.head? = some c) (htilde : c ≠ '~')
    (hdollar : c ≠ '$') : withHome env cs = cs := by
  obtain ⟨rest, rfl⟩ : ∃ rest, cs = c :: rest := by
    cases cs with
    | nil => simp at h
    | cons d rest => exact ⟨rest, by rw [Option.some.inj h]⟩
  have hunder : underHome? (c :: rest) = none := by
    simp [underHome?, Text.dropFront?, Ne.symm htilde, Ne.symm hdollar]
  rw [withHome, if_neg (by simp [htilde]), hunder]

/-- **A file of a rooted directory**, typed once more, is seen from the current directory. -/
theorem expand_join (hdir : Rooted dir) (h : Plain name)
    (hlast : ∀ c ∈ name.toList.getLast?, Text.isBlank c = false) :
    expand env (join dir name) = join env.currentDir (join dir name) := by
  obtain ⟨c, hhead, hc⟩ := head?_join hdir h
  have hblank : Text.isBlank c = false := by
    rcases hc with rfl | halpha
    · decide
    · exact Text.isBlank_of_isAlpha halpha
  have htrimmed : Text.Trimmed (join dir name).toList := by
    refine Text.trimmed_of_ends (fun d hd => ?_) ?_
    · obtain rfl : c = d := Option.some.inj (hhead.symm.trans hd)
      exact hblank
    · rwa [getLast?_join h]
  have hletter : isDriveLetter (join dir name).toList = false := by
    -- a drive letter has no slash
    refine Bool.eq_false_iff.2 fun hletter => ?_
    obtain ⟨letter, hchars, halpha⟩ := eq_of_isDriveLetter hletter
    have hslash := slash_mem_join hdir h
    rw [hchars] at hslash
    simp at hslash
    subst hslash
    exact absurd halpha (by decide)
  have hhome : withHome env (join dir name).toList = (join dir name).toList := by
    refine withHome_of_head? hhead ?_ ?_ <;> rintro rfl <;> exact absurd hc (by decide)
  rw [expand, htrimmed, expandChars, if_neg (by simp [hletter]), hhome]
  rfl

/-- A file means itself when its directory is absolute. -/
theorem expand_join_of_absolute (hdir : isAbsolute dir = true) (h : Plain name)
    (hlast : ∀ c ∈ name.toList.getLast?, Text.isBlank c = false) :
    expand env (join dir name) = join dir name := by
  rw [expand_join (.inl hdir) h hlast, join,
    joinChars_of_absolute (isAbsolute_iff.1 (isAbsolute_join_of_absolute hdir)),
    String.ofList_toList]

/-- **A file means itself** when its directory is absolute, and never below a drive letter. -/
theorem expand_join_eq_iff (henv : isAbsolute env.currentDir = true) (hdir : Rooted dir)
    (h : Plain name) (hlast : ∀ c ∈ name.toList.getLast?, Text.isBlank c = false) :
    expand env (join dir name) = join dir name ↔ isAbsolute dir = true := by
  constructor
  · intro hself
    rw [← isAbsolute_join h, ← hself, expand_join hdir h hlast]
    exact isAbsolute_join_of_absolute henv
  · exact fun habsolute => expand_join_of_absolute habsolute h hlast

end Path

end MountKeeper
