import MountKeeper.Path
import Mathlib.Data.List.Basic

/-! # Names in a directory

A plain name is one that a file of a directory can have: it is not empty, has no slash, and is not
one of the two names that mean a directory.

* `Path.parts_join`, `Path.isAbsolute_join`: the way to such a file is the way to the directory and
  then the name.
* `Path.splitName_extension`: a name that was put together from a stem and an extension is taken
  apart there. `Path.withExtension_join`: the file with another extension stands beside it. -/

namespace MountKeeper.Path

/-- A name that a file of a directory can have. -/
structure Plain (name : String) : Prop where
  ne_empty : name ≠ ""
  no_slash : '/' ∉ name.toList
  ne_dot : name ≠ "."
  ne_up : name ≠ ".."

variable {dir name : String}

namespace Plain

/-- A `Plain` name does not begin with a slash. -/
theorem head?_ne (h : Plain name) : name.toList.head? ≠ some '/' := by
  intro hhead
  exact h.no_slash (List.mem_of_mem_head? hhead)

/-- A `Plain` name is one part. -/
theorem splitOn_eq (h : Plain name) : name.toList.splitOn '/' = [name.toList] :=
  List.splitOn_eq_singleton h.no_slash

end Plain

/-- A name without slashes that does not end in a dot is `Plain`. -/
theorem plain_of_getLast? {c : Char} (hlast : name.toList.getLast? = some c) (hdot : c ≠ '.')
    (hslash : '/' ∉ name.toList) : Plain name := by
  have hne : ∀ other : String, other.toList.getLast? ≠ some c → name ≠ other := by
    rintro other hother rfl
    exact hother hlast
  have hend : ∀ other : String, other.toList.getLast? = some '.' → other.toList.getLast? ≠ some c := by
    intro other hother h
    rw [hother, Option.some.injEq] at h
    exact hdot h.symm
  exact ⟨hne "" (by simp), hslash, hne "." (hend _ (by decide)), hne ".." (hend _ (by decide))⟩

/-! ## The way to a file -/

/-- `join dir name`: the directory, with a slash at its end unless it is empty or has one, and then
the name. -/
theorem toList_join (h : Plain name) :
    (join dir name).toList
      = if dir.toList = [] ∨ dir.toList.getLast? = some '/' then dir.toList ++ name.toList
        else dir.toList ++ '/' :: name.toList := by
  rw [join, String.toList_ofList, joinChars, if_neg h.head?_ne]

/-- `parts (front ++ "/" ++ back)`: the names on the way through two texts with a slash between
them. -/
theorem parts_append_slash (front back : List Char) :
    parts (String.ofList (front ++ '/' :: back))
      = parts (String.ofList front) ++ parts (String.ofList back) := by
  simp only [parts, String.toList_ofList, List.splitOn_append_cons_self, List.map_append,
    List.filter_append]

/-- **The way to what is seen from a directory**: `parts (join dir rest) = parts dir ++ parts rest`.
-/
theorem parts_join_of_head? {rest : String} (h : rest.toList.head? ≠ some '/') :
    parts (join dir rest) = parts dir ++ parts rest := by
  rw [join, joinChars, if_neg h]
  by_cases hnil : dir.toList = []
  · have hdir : parts dir = [] := by
      rw [parts, hnil]
      simp
    rw [if_pos (Or.inl hnil), hnil, List.nil_append, String.ofList_toList, hdir, List.nil_append]
  · by_cases hlast : dir.toList.getLast? = some '/'
    · -- the slash at the end of the directory is the one between the two
      obtain ⟨front, hfront⟩ := List.getLast?_eq_some_iff.1 hlast
      have hdir : parts dir = parts (String.ofList front) := by
        have hslash := parts_append_slash front []
        rw [← hfront, String.ofList_toList] at hslash
        simpa [parts] using hslash
      rw [if_pos (Or.inr hlast), hfront, List.append_assoc, List.singleton_append,
        parts_append_slash, hdir, String.ofList_toList]
    · rw [if_neg (by simp [hnil, hlast]), parts_append_slash, String.ofList_toList,
        String.ofList_toList]

/-- **The way to a file**: `parts (join dir name) = parts dir ++ [name]`. -/
theorem parts_join (h : Plain name) : parts (join dir name) = parts dir ++ [name] := by
  have hname : parts name = [name] := by
    rw [parts, h.splitOn_eq, List.map_singleton, String.ofList_toList]
    simp [h.ne_empty, h.ne_dot]
  rw [parts_join_of_head? h.head?_ne, hname]

/-- `join dir name` is absolute if and only if `dir` is. -/
theorem isAbsolute_join (h : Plain name) : isAbsolute (join dir name) = isAbsolute dir := by
  unfold isAbsolute
  rw [toList_join h]
  cases hdir : dir.toList with
  | nil =>
    rw [if_pos (Or.inl rfl), List.nil_append]
    have := h.head?_ne
    simp [this]
  | cons c cs =>
    split <;> simp

/-- `join dir name` ends in `name`, behind its last slash. -/
theorem getLast?_splitOn_join (h : Plain name) :
    ((join dir name).toList.splitOn '/').getLast? = some name.toList := by
  have hbehind (front : List Char) :
      ((front ++ '/' :: name.toList).splitOn '/').getLast? = some name.toList := by
    rw [List.splitOn_append_cons_self, h.splitOn_eq, List.getLast?_concat]
  rw [toList_join h]
  split
  · next hends =>
    rcases hends with hnil | hlast
    · rw [hnil, List.nil_append, h.splitOn_eq]
      rfl
    · -- the slash at the end of the directory is the one before the name
      obtain ⟨front, hfront⟩ := List.getLast?_eq_some_iff.1 hlast
      rw [hfront, List.append_assoc]
      exact hbehind front
  · exact hbehind dir.toList

/-- `join dir name` does not end in a slash, so it does not ask for a directory. -/
theorem wantsDirectory_join (h : Plain name) : wantsDirectory (join dir name) = false := by
  have hnil : name.toList ≠ [] := fun he => h.ne_empty (String.toList_eq_nil_iff.1 he)
  have hdot : name.toList ≠ ['.'] := fun he => h.ne_dot (String.toList_inj.1 he)
  unfold wantsDirectory
  rw [getLast?_splitOn_join h]
  simp [hnil, hdot]

/-- `join dir name` is not the empty path. -/
theorem join_ne_empty (h : Plain name) : join dir name ≠ "" := by
  intro he
  have hnil := congrArg String.toList he
  rw [toList_join h] at hnil
  have hname : name.toList ≠ [] := fun hn => h.ne_empty (String.toList_eq_nil_iff.1 hn)
  split at hnil <;> simp [hname] at hnil

/-- A character of `join dir name` stands in the directory or in the name, or is a slash. -/
theorem mem_join (h : Plain name) {c : Char} (hc : c ∈ (join dir name).toList) :
    c ∈ dir.toList ∨ c = '/' ∨ c ∈ name.toList := by
  rw [toList_join h] at hc
  split at hc
  · rcases List.mem_append.1 hc with hc | hc
    · exact .inl hc
    · exact .inr (.inr hc)
  · rcases List.mem_append.1 hc with hc | hc
    · exact .inl hc
    · rcases List.mem_cons.1 hc with hc | hc
      · exact .inr (.inl hc)
      · exact .inr (.inr hc)

/-- `join dir name` starts with `dir`. -/
theorem exists_join_eq (h : Plain name) (dir : String) :
    ∃ rest : String, join dir name = dir ++ rest := by
  have hjoin : (join dir name).toList = _ := toList_join h
  split at hjoin
  · refine ⟨name, String.toList_inj.1 ?_⟩
    rw [hjoin, String.toList_append]
  · refine ⟨String.ofList ('/' :: name.toList), String.toList_inj.1 ?_⟩
    rw [hjoin, String.toList_append, String.toList_ofList]

/-! ## Stems and extensions -/

/-- `cutAt? mark` cuts a text where the character first occurs. -/
theorem cutAt?_append {mark : Char} {front : List Char} (h : mark ∉ front) (back : List Char) :
    Text.cutAt? mark (front ++ mark :: back) = some (front, back) := by
  induction front with
  | nil => simp [Text.cutAt?]
  | cons c cs ih =>
    rw [List.mem_cons, not_or] at h
    rw [List.cons_append, Text.cutAt?, if_neg (Ne.symm h.1), ih h.2]
    rfl

/-- `splitName` takes a name apart that was put together from a stem and an extension. -/
theorem splitName_extension {stem ext : String} (hstem : stem ≠ "") (hext : '.' ∉ ext.toList) :
    splitName (stem ++ "." ++ ext) = (stem, some ext) := by
  have hreverse : (stem ++ "." ++ ext).toList.reverse
      = ext.toList.reverse ++ '.' :: stem.toList.reverse := by
    simp [String.toList_append]
  have hnil : stem.toList ≠ [] := fun he => hstem (String.toList_eq_nil_iff.1 he)
  unfold splitName
  rw [hreverse, cutAt?_append (by simpa using hext)]
  simp [hnil]

/-- `fileName? (join dir name) = some name`. -/
theorem fileName?_join (h : Plain name) : fileName? (join dir name) = some name := by
  rw [fileName?, parts_join h, List.getLast?_concat]
  simp [h.ne_up]

/-- **A file with another extension** stands in the same directory: `withExtension` changes the name
only. -/
theorem withExtension_join {stem ext : String} (h : Plain name) (hnew : Plain (stem ++ "." ++ ext))
    (hstem : (splitName name).1 = stem) :
    withExtension (join dir name) ext = join dir (stem ++ "." ++ ext) := by
  have hnil : name.toList ≠ [] := fun he => h.ne_empty (String.toList_eq_nil_iff.1 he)
  -- the name stands at the end, and no slash behind it
  obtain ⟨front, hjoin, hjoin'⟩ : ∃ front : List Char, (join dir name).toList = front ++ name.toList ∧
      (join dir (stem ++ "." ++ ext)).toList = front ++ (stem ++ "." ++ ext).toList := by
    rw [toList_join h, toList_join hnew]
    split
    · exact ⟨_, rfl, rfl⟩
    · exact ⟨dir.toList ++ ['/'], by simp, by simp⟩
  have hkept : (name.toList.reverse ++ front.reverse).dropWhile (· == '/')
      = name.toList.reverse ++ front.reverse := by
    obtain ⟨c, cs, hcs⟩ := List.exists_cons_of_ne_nil (List.reverse_ne_nil_iff.2 hnil)
    have hc : c ≠ '/' := by
      rintro rfl
      exact h.no_slash (List.mem_reverse.1 (hcs ▸ List.mem_cons_self))
    rw [hcs, List.cons_append, List.dropWhile_cons_of_neg (by simpa using hc)]
  have hbefore : (((join dir name).toList.reverse.dropWhile (· == '/')).drop name.length).reverse
      = front := by
    rw [hjoin, List.reverse_append, hkept, ← String.length_toList, ← List.length_reverse,
      List.drop_left, List.reverse_reverse]
  unfold withExtension
  rw [fileName?_join h]
  dsimp only
  rw [hbefore, hstem, ← String.toList_inj, hjoin']
  simp [String.toList_append]
end MountKeeper.Path
