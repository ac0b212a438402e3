import MountKeeper.Text.Utf16
import Mathlib.Data.List.Basic

/-! # Reading written 16-bit units

`Utf16.decode` undoes `Utf16.encode` on every text, and the zero unit is written for the character
NUL and for no other.

* `encodeChar_cases`: a character is one unit that is no surrogate, or a pair of surrogates.
* `decode_encode_append`: units read on behind a written text give the text and what follows.
* `count_zero_encode`: as many zero units are written as there are NUL characters. -/

namespace MountKeeper.Utf16

/-! ## Units -/

/-- A unit below `0xD800` or from `0xE000` on is neither half of a pair. -/
theorem not_surrogate_ofNat {n : Nat} (h : n < 0xD800 ∨ 0xE000 ≤ n) (hn : n < 0x10000) :
    isHigh (UInt16.ofNat n) = false ∧ isLow (UInt16.ofNat n) = false := by
  have hmod : n % 2 ^ 16 = n := Nat.mod_eq_of_lt hn
  simp only [isHigh, isLow, Bool.and_eq_false_iff, decide_eq_false_iff_not, UInt16.le_iff_toNat_le,
    UInt16.lt_iff_toNat_lt, UInt16.toNat_ofNat', hmod, UInt16.reduceToNat]
  omega

/-- `0xD800 + n` with `n < 0x400` is a first half. -/
theorem isHigh_ofNat {n : Nat} (h : n < 0x400) : isHigh (UInt16.ofNat (0xD800 + n)) = true := by
  have hmod : (0xD800 + n) % 2 ^ 16 = 0xD800 + n := Nat.mod_eq_of_lt (by omega)
  simp only [isHigh, Bool.and_eq_true, decide_eq_true_eq, UInt16.le_iff_toNat_le,
    UInt16.lt_iff_toNat_lt, UInt16.toNat_ofNat', hmod, UInt16.reduceToNat]
  omega

/-- `0xDC00 + n` with `n < 0x400` is a second half. -/
theorem isLow_ofNat {n : Nat} (h : n < 0x400) : isLow (UInt16.ofNat (0xDC00 + n)) = true := by
  have hmod : (0xDC00 + n) % 2 ^ 16 = 0xDC00 + n := Nat.mod_eq_of_lt (by omega)
  simp only [isLow, Bool.and_eq_true, decide_eq_true_eq, UInt16.le_iff_toNat_le,
    UInt16.lt_iff_toNat_lt, UInt16.toNat_ofNat', hmod, UInt16.reduceToNat]
  omega

/-- A pair that was written for a number beyond `U+FFFF` reads as that number's character. -/
theorem pairChar_ofNat {m : Nat} (h : m < 0x100000) :
    pairChar (UInt16.ofNat (0xD800 + m / 0x400)) (UInt16.ofNat (0xDC00 + m % 0x400))
      = Char.ofNat (0x10000 + m) := by
  have hhigh : (0xD800 + m / 0x400) % 2 ^ 16 = 0xD800 + m / 0x400 := Nat.mod_eq_of_lt (by omega)
  have hlow : (0xDC00 + m % 0x400) % 2 ^ 16 = 0xDC00 + m % 0x400 := Nat.mod_eq_of_lt (by omega)
  have hsum : 0x10000 + (0xD800 + m / 0x400 - 0xD800) * 0x400 + (0xDC00 + m % 0x400 - 0xDC00)
      = 0x10000 + m := by omega
  rw [pairChar, UInt16.toNat_ofNat', UInt16.toNat_ofNat', hhigh, hlow, hsum]

/-- `c.toNat` is no surrogate. -/
theorem toNat_not_surrogate (c : Char) : c.toNat < 0xD800 ∨ 0xE000 ≤ c.toNat := by
  have hc := c.valid
  simp only [UInt32.isValidChar, Nat.isValidChar] at hc
  have hval : c.val.toNat = c.toNat := rfl
  omega

/-- The number of a character is at most `U+10FFFF`. -/
theorem toNat_lt (c : Char) : c.toNat < 0x110000 := by
  have hc := c.valid
  simp only [UInt32.isValidChar, Nat.isValidChar] at hc
  have hval : c.val.toNat = c.toNat := rfl
  omega

/-- **The written forms of a character**: `encodeChar c` is one unit that is no surrogate and stands
for the character, or the two halves of a pair that stands for it. -/
theorem encodeChar_cases (c : Char) :
    (∃ u, encodeChar c = [u] ∧ isHigh u = false ∧ loneChar u = c ∧ (u = 0 ↔ c = '\x00')) ∨
    (∃ u v, encodeChar c = [u, v] ∧ isHigh u = true ∧ isLow v = true ∧ pairChar u v = c ∧
      u ≠ 0 ∧ v ≠ 0 ∧ c ≠ '\x00') := by
  -- one unit is enough up to `U+FFFF`; beyond it there are twenty bits, ten for each half of a pair
  -- one unit is enough up to `U+FFFF`; beyond it there are twenty bits, ten for each half of a pair
  by_cases hc : c.toNat < 0x10000
  · obtain ⟨hhigh, hlow⟩ := not_surrogate_ofNat (toNat_not_surrogate c) hc
    have hmod : c.toNat % 2 ^ 16 = c.toNat := Nat.mod_eq_of_lt hc
    refine Or.inl ⟨UInt16.ofNat c.toNat, by simp [encodeChar, hc], hhigh, ?_, ?_⟩
    · simp only [loneChar, hhigh, hlow, Bool.or_self, Bool.false_eq_true, if_false]
      rw [UInt16.toNat_ofNat', hmod, Char.ofNat_toNat]
    · rw [← UInt16.toNat_inj, UInt16.toNat_ofNat', hmod, ← Char.toNat_inj]
      rfl
  · have hlt := toNat_lt c
    have hhigh : (c.toNat - 0x10000) / 0x400 < 0x400 := by omega
    have hlow : (c.toNat - 0x10000) % 0x400 < 0x400 := by omega
    have hnul : c ≠ '\x00' := by
      rintro rfl
      exact hc (by decide)
    refine Or.inr ⟨_, _, by simp only [encodeChar, if_neg hc], isHigh_ofNat hhigh,
      isLow_ofNat hlow, ?_, ?_, ?_, hnul⟩
    · rw [pairChar_ofNat (by omega), Nat.add_sub_cancel' (by omega), Char.ofNat_toNat]
    · rw [ne_eq, ← UInt16.toNat_inj, UInt16.toNat_ofNat', Nat.mod_eq_of_lt (by omega)]
      simp
    · rw [ne_eq, ← UInt16.toNat_inj, UInt16.toNat_ofNat', Nat.mod_eq_of_lt (by omega)]
      simp

/-! ## Texts -/

/-- `encode (c :: cs)`: UTF-16 is written character by character. -/
@[simp] theorem encode_cons (c : Char) (cs : List Char) :
    encode (c :: cs) = encodeChar c ++ encode cs := rfl

/-- `decode (u :: us)` for a unit that is no first half: it is read by itself, `loneChar u`. -/
theorem decode_cons_of_not_isHigh {u : UInt16} (h : isHigh u = false) (us : List UInt16) :
    decode (u :: us) = loneChar u :: decode us := by
  cases us with
  | nil => rfl
  | cons v us => simp [decode, h]

/-- `decode (u :: v :: us)` for the two halves of a pair: they are read together, `pairChar u v`. -/
theorem decode_pair {u v : UInt16} (hu : isHigh u = true) (hv : isLow v = true)
    (us : List UInt16) : decode (u :: v :: us) = pairChar u v :: decode us := by
  simp [decode, hu, hv]

/-- `decode (encodeChar c ++ us)`: a written character is read back, whatever follows it. -/
theorem decode_encodeChar_append (c : Char) (us : List UInt16) :
    decode (encodeChar c ++ us) = c :: decode us := by
  rcases encodeChar_cases c with ⟨u, he, hu, hc, -⟩ | ⟨u, v, he, hu, hv, hc, -⟩
  · rw [he, List.cons_append, List.nil_append, decode_cons_of_not_isHigh hu, hc]
  · rw [he, List.cons_append, List.cons_append, List.nil_append, decode_pair hu hv, hc]

/-- `decode (encode cs ++ us)`: a written text is read back, whatever follows it. -/
theorem decode_encode_append (cs : List Char) (us : List UInt16) :
    decode (encode cs ++ us) = cs ++ decode us := by
  induction cs with
  | nil => rfl
  | cons c cs ih =>
    rw [encode_cons, List.append_assoc, decode_encodeChar_append, ih, List.cons_append]

/-- **A written text is read back**: `decode` undoes `encode`. -/
@[simp] theorem decode_encode (cs : List Char) : decode (encode cs) = cs := by
  have h := decode_encode_append cs []
  rwa [List.append_nil, show decode [] = [] from rfl, List.append_nil] at h

/-! ## Zero units -/

/-- `encodeChar c` has a zero unit for NUL only. -/
theorem count_zero_encodeChar (c : Char) :
    (encodeChar c).count 0 = if c = '\x00' then 1 else 0 := by
  rcases encodeChar_cases c with ⟨u, he, -, -, hzero⟩ | ⟨u, v, he, -, -, -, hu, hv, hc⟩
  · by_cases hc : c = '\x00'
    · rw [he, if_pos hc, hzero.2 hc]
      rfl
    · rw [he, if_neg hc, List.count_eq_zero]
      simpa using fun h => hc (hzero.1 h.symm)
  · rw [he, if_neg hc, List.count_eq_zero]
    simpa using ⟨hu.symm, hv.symm⟩

/-- **Zero units and NUL characters** are equally many in `encode cs` and `cs`. -/
theorem count_zero_encode (cs : List Char) : (encode cs).count 0 = cs.count '\x00' := by
  induction cs with
  | nil => rfl
  | cons c cs ih =>
    rw [encode_cons, List.count_append, count_zero_encodeChar, ih, List.count_cons, Nat.add_comm]
    simp

/-- `encode cs` of a text without NUL has no zero unit. -/
theorem zero_not_mem_encode {cs : List Char} (h : '\x00' ∉ cs) : (0 : UInt16) ∉ encode cs := by
  rw [← List.count_eq_zero, count_zero_encode, List.count_eq_zero]
  exact h

/-- `encode cs ≠ []` for a text that is not empty. -/
theorem encode_ne_nil {cs : List Char} (h : cs ≠ []) : encode cs ≠ [] := by
  intro he
  -- otherwise nothing would be read back
  -- otherwise nothing would be read back
  have hback := decode_encode cs
  rw [he] at hback
  exact h hback.symm

end MountKeeper.Utf16
