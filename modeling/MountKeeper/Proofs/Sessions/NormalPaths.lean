import MountKeeper.Proofs.SessionKey
import MountKeeper.Proofs.Sessions.Separation
import MountKeeper.Proofs.Text.Utf8

/-! # Paths in normal form

The texts of keys are the paths in normal form: not empty, without a backslash, and without a slash at
the end but for that of the root. The canonical form of a path is the one among them that is spelled
like the path.

* `SessionKey.IsNormal` says without keys what normal form is, and
  `SessionKey.canonical_eq_self_iff` that these are the texts that stay as they are.
* `SessionKey.canonical_eq_iff`: the canonical form is the only text in normal form that is spelled
  like the path.
* `SessionKey.ofPath_append_separators` and `SessionKey.ofBytes_append_separators`: separators behind a
  path do not change its key. -/

namespace MountKeeper.SessionKey

/-! ## Normal form -/

/-- A path in normal form. -/
structure IsNormal (text : String) : Prop where
  ne_empty : text ≠ ""
  backslash_not_mem : '\\' ∉ text.toList
  /-- Only the root ends in a slash. -/
  eq_root : text.toList.getLast? = some '/' → text = "/"

/-- `forward` gives no backslash. -/
theorem forward_ne_backslash (c : Char) : forward c ≠ '\\' := by
  unfold forward
  split
  · decide
  · assumption

/-- `canonical` without the `String`. -/
theorem toList_canonical (path : String) : (canonical path).toList = canonicalChars path.toList :=
  String.toList_ofList

/-- A canonical text ends in a slash only as the root. -/
theorem canonicalChars_eq_of_getLast? {cs : List Char}
    (h : (canonicalChars cs).getLast? = some '/') : canonicalChars cs = ['/'] := by
  unfold canonicalChars at h ⊢
  dsimp only at h ⊢
  split
  · rfl
  · next hkept =>
    rw [if_neg hkept] at h
    exact absurd h (getLast?_dropSlashes _)

/-- **The canonical form** of a path is in normal form. -/
theorem isNormal_canonical (path : String) : IsNormal (canonical path) where
  ne_empty := (ofPath path).text_ne_empty
  backslash_not_mem hmem := by
    -- every character of a canonical form has been read as a forward one
    rw [toList_canonical, ← map_forward_canonicalChars, List.mem_map] at hmem
    obtain ⟨c, -, hc⟩ := hmem
    exact forward_ne_backslash c hc
  eq_root hlast := by
    rw [toList_canonical] at hlast
    rw [canonical, canonicalChars_eq_of_getLast? hlast]

/-- A text in normal form is its own canonical form. -/
theorem IsNormal.canonical_eq {text : String} (h : IsNormal text) : canonical text = text := by
  by_cases hlast : text.toList.getLast? = some '/'
  · -- only the root loses its slash, and gets it back
    rw [h.eq_root hlast]
    decide +kernel
  · have hforward : text.toList.map forward = text.toList := by
      refine (List.map_congr_left fun c hc => ?_).trans (List.map_id _)
      have hc' : c ≠ '\\' := fun heq => h.backslash_not_mem (heq ▸ hc)
      exact if_neg hc'
    have hkept : text.toList ≠ [] := fun hnil => h.ne_empty (String.toList_eq_nil_iff.1 hnil)
    unfold canonical canonicalChars
    rw [hforward, dropSlashes_of_getLast? hlast]
    dsimp only
    rw [if_neg hkept, String.ofList_toList]

/-- **The texts that stay as they are** are those in normal form. -/
theorem canonical_eq_self_iff {text : String} : canonical text = text ↔ IsNormal text :=
  ⟨fun h => h ▸ isNormal_canonical text, IsNormal.canonical_eq⟩

instance (text : String) : Decidable (IsNormal text) :=
  decidable_of_iff (canonical text = text) canonical_eq_self_iff

/-- The texts of keys are those in normal form. -/
theorem exists_text_eq_iff {text : String} :
    (∃ key : SessionKey, key.text = text) ↔ IsNormal text := by
  rw [← canonical_eq_self_iff]
  constructor
  · rintro ⟨key, rfl⟩
    exact key.canonical_text
  · intro h
    exact ⟨⟨text, h⟩, rfl⟩

/-- **One normal form**: of the texts that are spelled like a path, the canonical form is the one in
normal form. -/
theorem canonical_eq_iff {path text : String} :
    canonical path = text ↔ IsNormal text ∧ SpelledAlike text path := by
  rw [← canonical_eq_self_iff, ← ofPath_eq_iff, SessionKey.ext_iff, text_ofPath, text_ofPath]
  constructor
  · rintro rfl
    exact ⟨canonical_canonical path, canonical_canonical path⟩
  · rintro ⟨hself, halike⟩
    rw [← halike, hself]

example : canonical "/mnt/data/" = "/mnt/data" ∧ canonical "/" = "/" ∧
    canonical "C:\\mounts\\data\\" = "C:/mounts/data" := by
  decide +kernel

/-- The key of a canonical form is that of the path. -/
theorem ofPath_canonical (path : String) : ofPath (canonical path) = ofPath path :=
  ofPath_text (ofPath path)

/-! ## Separators behind a path -/

/-- A separator of either kind. -/
def IsSeparator (c : Char) : Prop := c = '/' ∨ c = '\\'

/-- Either separator is turned into a slash. -/
theorem IsSeparator.forward_eq {c : Char} (h : IsSeparator c) : forward c = '/' := by
  rcases h with rfl | rfl <;> rfl

/-- **Separators behind a path**, of either kind and any number, do not change its key. -/
theorem ofPath_append_separators (path : String) {seps : List Char}
    (h : ∀ c ∈ seps, IsSeparator c) : ofPath (path ++ String.ofList seps) = ofPath path := by
  have hseps : seps.map forward = List.replicate seps.length '/' := by
    refine List.eq_replicate_iff.2 ⟨List.length_map _, fun c hc => ?_⟩
    obtain ⟨d, hd, rfl⟩ := List.mem_map.1 hc
    exact (h d hd).forward_eq
  refine ofPath_eq_iff.2 ⟨path.toList.map forward, seps.length, 0, ?_, ?_⟩
  · rw [String.toList_append, String.toList_ofList, List.map_append, hseps]
  · rw [List.replicate_zero, List.append_nil]

/-- The bytes of the separators are not part of any longer sequence. -/
theorem ofBytes_append_separators (raw : List UInt8) {seps : List UInt8}
    (h : ∀ b ∈ seps, b = 0x2F ∨ b = 0x5C) : ofBytes (raw ++ seps) = ofBytes raw := by
  have hsmall : ∀ b ∈ seps, b < 0x80 := by
    intro b hb
    rcases h b hb with rfl | rfl <;> decide
  have hseps : ∀ c ∈ seps.map fun b => Char.ofNat b.toNat, IsSeparator c := by
    intro c hc
    obtain ⟨b, hb, rfl⟩ := List.mem_map.1 hc
    rcases h b hb with rfl | rfl
    · exact .inl rfl
    · exact .inr rfl
  rw [ofBytes, ofBytes, Utf8.decode_append_small raw hsmall, String.ofList_append,
    ofPath_append_separators _ hseps]

end MountKeeper.SessionKey
