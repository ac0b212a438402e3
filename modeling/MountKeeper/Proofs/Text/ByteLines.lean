import MountKeeper.Proofs.Text.Line
import MountKeeper.Proofs.Text.Utf8
import Mathlib.Data.List.Basic
import Mathlib.Data.List.Infix

/-! # Lines of bytes

Bytes may be cut at line feeds before or after they are read as text. Where they are text, that is the
same; and they are text if and only if each of their lines is.

* `encode_prefix_iff`: what is written starts with what its text starts with.
* `Utf8.IsText`: the bytes were written. `isValidUTF8_iff`: these are the bytes that have a string.
* `newline_mem_encode`: the byte of a line feed is written for a line feed only.
* `splitOn_encode`: what was written is cut where the text is cut.
* `isText_iff_forall_mem_lines`: bytes are text line by line. -/

namespace MountKeeper.Utf8

/-! ## From one mark to the next -/

/-- **Induction on the pieces of a list**: what holds where there is no `mark`, and holds in front
of one if it holds behind it, holds of all lists. -/
theorem cut_induction {α : Type} [DecidableEq α] (mark : α) {P : List α → Prop}
    (last : ∀ xs, mark ∉ xs → P xs)
    (step : ∀ front back, mark ∉ front → P back → P (front ++ mark :: back)) (xs : List α) :
    P xs := by
  induction hn : xs.length using Nat.strong_induction_on generalizing xs with
  | _ n ih =>
    subst hn
    by_cases hmem : mark ∈ xs
    · obtain ⟨front, back, rfl, hfront⟩ := List.eq_append_cons_of_mem hmem
      exact step front back hfront (ih back.length (by simp; omega) back rfl)
    · exact last xs hmem

/-! ## Fronts -/

/-- `encode cs <+: encode ds ↔ cs <+: ds`: UTF-8 starts with what its text starts with. -/
theorem encode_prefix_iff {cs ds : List Char} : encode cs <+: encode ds ↔ cs <+: ds := by
  constructor
  · rintro ⟨rest, h⟩
    have hread : cs ++ decode rest = ds := by
      rw [← decode_encode_append, h, decode_encode]
    exact ⟨decode rest, hread⟩
  · rintro ⟨rest, rfl⟩
    rw [encode_append]
    exact List.prefix_append _ _

/-! ## Bytes that are text -/

/-- The bytes are what their characters are written as. -/
def IsText (bs : List UInt8) : Prop :=
  encode (decode bs) = bs

instance (bs : List UInt8) : Decidable (IsText bs) :=
  inferInstanceAs (Decidable (encode (decode bs) = bs))

/-- `encode cs` is the UTF-8 form of a text. -/
theorem isText_encode (cs : List Char) : IsText (encode cs) := by
  rw [IsText, decode_encode]

/-- `IsText []`, as the form of the empty text. -/
theorem isText_nil : IsText [] := rfl

/-- Bytes are a text if and only if `encode` reaches them. -/
theorem isText_iff_exists {bs : List UInt8} : IsText bs ↔ ∃ cs, encode cs = bs := by
  constructor
  · intro h
    exact ⟨decode bs, h⟩
  · rintro ⟨cs, rfl⟩
    exact isText_encode cs

/-- **The bytes that have a string**, `IsValidUTF8`, are those that are `IsText`. -/
theorem isValidUTF8_iff {content : ByteArray} :
    content.IsValidUTF8 ↔ IsText content.data.toList := by
  rw [isText_iff_exists]
  constructor
  · rintro ⟨cs, rfl⟩
    exact ⟨cs, (toList_utf8Encode cs).symm⟩
  · rintro ⟨cs, h⟩
    refine ⟨cs, ByteArray.ext (Array.toList_inj.1 ?_)⟩
    rw [toList_utf8Encode, h]

/-! ## Line feeds -/

/-- The line feed is a byte. -/
def newline : UInt8 := 10

/-- `encode ('\n' :: cs)`: a line break is one byte in UTF-8. -/
theorem encode_newline_cons (cs : List Char) : encode ('\n' :: cs) = newline :: encode cs := rfl

/-- The bytes of other characters are no line feeds, as they are at least `0x80` or the character
itself. -/
theorem newline_not_mem_encodeChar {c : Char} (h : c ≠ '\n') :
    newline ∉ String.utf8EncodeChar c := by
  have hvalue : c.val.toNat ≠ 10 := fun he => h (Char.ext (UInt32.toNat_inj.1 he))
  -- a byte of several has its mark, which is more than the line feed
  have hmarked {n mark : Nat} (hlt : n + mark < 256) (hmark : 128 ≤ mark) :
      newline ≠ UInt8.ofNat (n + mark) := by
    intro he
    have hbyte := congrArg UInt8.toNat he
    rw [toNat_ofNat_add hlt] at hbyte
    have hnewline : newline.toNat = 10 := rfl
    omega
  unfold String.utf8EncodeChar
  dsimp only
  split
  · intro hmem
    have hbyte := congrArg UInt8.toNat (List.mem_singleton.1 hmem)
    rw [UInt8.toNat_ofNat', Nat.mod_eq_of_lt (by omega)] at hbyte
    exact hvalue hbyte.symm
  · split
    · simp only [List.mem_cons, List.not_mem_nil, or_false, not_or]
      exact ⟨hmarked (by omega) (by decide), hmarked (by omega) (by decide)⟩
    · split
      · simp only [List.mem_cons, List.not_mem_nil, or_false, not_or]
        exact ⟨hmarked (by omega) (by decide), hmarked (by omega) (by decide),
          hmarked (by omega) (by decide)⟩
      · simp only [List.mem_cons, List.not_mem_nil, or_false, not_or]
        exact ⟨hmarked (by omega) (by decide), hmarked (by omega) (by decide),
          hmarked (by omega) (by decide), hmarked (by omega) (by decide)⟩

/-- **The byte of a line feed** is in `encode cs` for a line feed only. -/
theorem newline_mem_encode {cs : List Char} : newline ∈ encode cs ↔ '\n' ∈ cs := by
  constructor
  · intro h
    obtain ⟨c, hc, hbyte⟩ := List.mem_flatMap.1 h
    by_contra hnot
    exact newline_not_mem_encodeChar (fun he => hnot (he ▸ hc)) hbyte
  · intro h
    exact List.mem_flatMap.2 ⟨'\n', h, List.mem_cons_self⟩

/-- **What was written is cut where the text is cut**: `splitOn newline` of `encode cs` are the
encoded pieces. -/
theorem splitOn_encode (cs : List Char) :
    (encode cs).splitOn newline = (cs.splitOn '\n').map encode := by
  have hpiece {cs : List Char} (h : '\n' ∉ cs) : (encode cs).splitOn newline = [encode cs] :=
    List.splitOn_eq_singleton fun hmem => h (newline_mem_encode.1 hmem)
  induction cs using cut_induction '\n' with
  | last cs hcs => rw [hpiece hcs, List.splitOn_eq_singleton hcs, List.map_singleton]
  | step front back hfront ih =>
    rw [encode_append, encode_newline_cons, List.splitOn_append_cons_self,
      List.splitOn_append_cons_self, hpiece hfront, List.splitOn_eq_singleton hfront, ih,
      List.map_append, List.map_singleton]

/-- `decode` and `splitOn` commute on bytes that are text. -/
theorem splitOn_decode {bs : List UInt8} (h : IsText bs) :
    (decode bs).splitOn '\n' = (bs.splitOn newline).map decode := by
  have hpieces := splitOn_encode (decode bs)
  rw [h] at hpieces
  rw [hpieces, List.map_map]
  simp [Function.comp_def]

/-- `IsText bs` if and only if the pieces between their line feeds are. -/
theorem isText_iff_forall_mem_splitOn {bs : List UInt8} :
    IsText bs ↔ ∀ piece ∈ bs.splitOn newline, IsText piece := by
  constructor
  · intro h piece hpiece
    rw [← h, splitOn_encode] at hpiece
    obtain ⟨cs, -, rfl⟩ := List.mem_map.1 hpiece
    exact isText_encode cs
  · intro h
    induction bs using cut_induction newline with
    | last bs hbs =>
      rw [List.splitOn_eq_singleton hbs] at h
      exact h bs List.mem_cons_self
    | step front back hfront ih =>
      -- the newline is a character by itself, so texts on both sides of it make a text
      rw [List.splitOn_append_cons_self, List.splitOn_eq_singleton hfront] at h
      have hfirst : IsText front := h front (List.mem_append_left _ List.mem_cons_self)
      have hrest : IsText back := ih fun piece hp => h piece (List.mem_append_right _ hp)
      refine isText_iff_exists.2 ⟨decode front ++ '\n' :: decode back, ?_⟩
      rw [encode_append, encode_newline_cons, hfirst, hrest]

/-! ## Lines -/

/-- The lines of bytes: what stands between the line feeds. Nothing stands behind the last of them
unless a byte does. -/
def lines (bs : List UInt8) : List (List UInt8) :=
  if (bs.splitOn newline).getLast? = some [] then (bs.splitOn newline).dropLast
  else bs.splitOn newline

/-- `bs.splitOn newline` are the `lines`, but for an empty last piece. -/
theorem splitOn_eq_lines (bs : List UInt8) :
    bs.splitOn newline = lines bs ∨ bs.splitOn newline = lines bs ++ [[]] := by
  unfold lines
  split
  · next h =>
    obtain ⟨front, hfront⟩ := List.getLast?_eq_some_iff.1 h
    right
    rw [hfront, List.dropLast_concat]
  · exact .inl rfl

/-- `lines (line ++ [newline]) = [line]`. -/
theorem lines_concat_newline {line : List UInt8} (h : newline ∉ line) :
    lines (line ++ [newline]) = [line] := by
  have hpieces : (line ++ [newline]).splitOn newline = [line] ++ [[]] := by
    rw [List.splitOn_append_cons_self, List.splitOn_eq_singleton h, List.splitOn_nil]
  rw [lines, hpieces, if_pos List.getLast?_concat, List.dropLast_concat]

/-- There is no line feed in a member of `lines bs`. -/
theorem newline_not_mem_of_mem_lines {bs line : List UInt8} (h : line ∈ lines bs) :
    newline ∉ line := by
  have hpiece : line ∈ bs.splitOn newline := by
    rcases splitOn_eq_lines bs with hpieces | hpieces
    · rwa [hpieces]
    · rw [hpieces]
      exact List.mem_append_left _ h
  intro hmem
  exact absurd (Text.eq_false_of_mem_splitOnP hpiece newline hmem) (by decide)

/-- **Bytes are text line by line**: `IsText bs` if and only if each of `lines bs` is. -/
theorem isText_iff_forall_mem_lines {bs : List UInt8} :
    IsText bs ↔ ∀ line ∈ lines bs, IsText line := by
  rw [isText_iff_forall_mem_splitOn]
  rcases splitOn_eq_lines bs with h | h
  · rw [h]
  · rw [h, List.forall_mem_append]
    exact and_iff_left fun piece hp => List.mem_singleton.1 hp ▸ isText_nil

end MountKeeper.Utf8
