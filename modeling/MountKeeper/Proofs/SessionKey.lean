import MountKeeper.SessionKey
import Mathlib.Data.Set.Function

/-! # Keys in file names

The stem of a key's file name has another character for the slashes of the key. A key without that
character is read back off its stem, so keys without it have different stems; keys with it may
share theirs. -/

namespace MountKeeper.SessionKey

/-- A key is not empty. -/
theorem text_ne_empty (k : SessionKey) : k.text ≠ "" := by
  rw [← k.canonical_text]
  have hne : canonicalChars k.text.toList ≠ [] := by
    unfold canonicalChars
    dsimp only
    split
    · simp
    · assumption
  intro h
  have hnil := congrArg String.toList h
  rw [canonical, String.toList_ofList] at hnil
  exact hne hnil

variable {mark : Char} (k : SessionKey)

/-- `fileStem mark` replaces each slash by `mark`. -/
theorem toList_fileStem (mark : Char) :
    (k.fileStem mark).toList = k.text.toList.map fun c => if c = '/' then mark else c := by
  rw [fileStem, Text.replaceChar, String.toList_ofList]

/-- No key has an empty file stem, since the text of a key is not empty. -/
theorem fileStem_ne_empty (mark : Char) : k.fileStem mark ≠ "" := by
  intro h
  have hnil := congrArg String.toList h
  rw [toList_fileStem] at hnil
  exact k.text_ne_empty (String.toList_eq_nil_iff.1 (List.map_eq_nil_iff.1 hnil))

/-- A stem has no slash. -/
theorem slash_not_mem_fileStem (h : mark ≠ '/') : '/' ∉ (k.fileStem mark).toList := by
  rw [toList_fileStem, List.mem_map]
  rintro ⟨c, -, hc⟩
  split at hc
  · exact h hc
  · next hne => exact hne hc

/-- A stem has no other characters than its key, the mark aside. -/
theorem mem_of_mem_fileStem {c : Char} (h : c ∈ (k.fileStem mark).toList) :
    c = mark ∨ c ∈ k.text.toList := by
  rw [toList_fileStem, List.mem_map] at h
  obtain ⟨c', hc', rfl⟩ := h
  split
  · exact .inl rfl
  · exact .inr hc'

variable {k}

/-- A key without the mark is read back off its stem. -/
theorem replaceChar_fileStem (h : mark ∉ k.text.toList) :
    Text.replaceChar mark '/' (k.fileStem mark) = k.text := by
  have hback : ∀ c ∈ k.text.toList,
      ((fun c => if c = mark then '/' else c) ∘ fun c => if c = '/' then mark else c) c = id c := by
    intro c hc
    show (if (if c = '/' then mark else c) = mark then '/' else if c = '/' then mark else c) = c
    by_cases hslash : c = '/'
    · rw [if_pos hslash, if_pos rfl, hslash]
    · have hmark : c ≠ mark := fun he => h (he ▸ hc)
      rw [if_neg hslash, if_neg hmark]
  rw [Text.replaceChar, toList_fileStem, List.map_map, List.map_congr_left hback,
    List.map_id, String.ofList_toList]

/-- **Keys without the mark have different stems.** -/
theorem fileStem_injOn (mark : Char) :
    Set.InjOn (fun k : SessionKey => k.fileStem mark) {k | mark ∉ k.text.toList} := by
  intro k hk k' hk' hstem
  have hback := congrArg (Text.replaceChar mark '/') hstem
  dsimp only at hback
  rw [replaceChar_fileStem hk, replaceChar_fileStem hk'] at hback
  exact SessionKey.ext hback

end MountKeeper.SessionKey
