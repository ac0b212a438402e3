import MountKeeper.Proofs.Text.Utf16

/-! # Units that nobody wrote

Any units can be read, also those that are not the written form of a text: a surrogate without its
partner is read as `U+FFFD`.

* `Utf16.Paired` says of units that no surrogate in them is without its partner.
* `encode_decode_iff`: exactly paired units are written again as they were read.
* `nul_not_mem_decode`: no unit but zero is read as the character NUL.
* `decode_append`: what is read is cut where no second half of a pair follows. -/

namespace MountKeeper.Utf16

/-! ## Units that stand alone -/

/-- `isHigh u` excludes `isLow u`. -/
theorem isLow_of_isHigh {u : UInt16} (h : isHigh u = true) : isLow u = false := by
  simp only [isHigh, isLow, Bool.and_eq_true, decide_eq_true_eq, Bool.and_eq_false_iff,
    decide_eq_false_iff_not, UInt16.le_iff_toNat_le, UInt16.lt_iff_toNat_lt] at h ⊢
  omega

/-- What a unit that stands alone is written as again: a surrogate as `U+FFFD`, every other unit as
itself. -/
theorem encodeChar_loneChar (u : UInt16) :
    encodeChar (loneChar u) = [if isHigh u || isLow u then 0xFFFD else u] := by
  by_cases hu : (isHigh u || isLow u) = true
  · rw [loneChar, if_pos hu, if_pos hu]
    decide
  · rw [loneChar, if_neg hu, if_neg hu]
    -- the number of a unit that is no surrogate is the number of a character
    have hlt : u.toNat < 65536 := u.toNat_lt
    have hvalid : Nat.isValidChar u.toNat := by
      simp only [isHigh, isLow, Bool.or_eq_true, Bool.and_eq_true, decide_eq_true_eq,
        UInt16.le_iff_toNat_le, UInt16.lt_iff_toNat_lt, UInt16.reduceToNat] at hu
      unfold Nat.isValidChar
      omega
    have htoNat : (Char.ofNat u.toNat).toNat = u.toNat := by
      rw [Char.ofNat, dif_pos hvalid]
      rfl
    rw [encodeChar, htoNat, if_pos hlt, UInt16.ofNat_toNat]

/-- `encodeChar (loneChar u) = [u]`: a unit that is no surrogate is written again as it was read. -/
theorem encodeChar_loneChar_of_not_surrogate {u : UInt16} (hu : isHigh u = false)
    (hl : isLow u = false) : encodeChar (loneChar u) = [u] := by
  rw [encodeChar_loneChar, hu, hl]
  rfl

/-- `encodeChar (loneChar u)` of a surrogate that stands alone is the unit of U+FFFD, which is
another one. -/
theorem encodeChar_loneChar_of_surrogate {u : UInt16} (h : isHigh u = true ∨ isLow u = true) :
    encodeChar (loneChar u) = [0xFFFD] ∧ u ≠ 0xFFFD := by
  have hsurrogate : (isHigh u || isLow u) = true := by simpa using h
  refine ⟨by rw [encodeChar_loneChar, if_pos hsurrogate], ?_⟩
  rintro rfl
  exact absurd hsurrogate (by decide)

/-- `encodeChar (pairChar u v) = [u, v]`: the halves of a pair are written again as they were read.
-/
theorem encodeChar_pairChar {u v : UInt16} (hu : isHigh u = true) (hv : isLow v = true) :
    encodeChar (pairChar u v) = [u, v] := by
  simp only [isHigh, isLow, Bool.and_eq_true, decide_eq_true_eq, UInt16.le_iff_toNat_le,
    UInt16.lt_iff_toNat_lt, UInt16.reduceToNat] at hu hv
  -- the ten bits of the first half, and those of the second
  obtain ⟨m, hm⟩ : ∃ m, u.toNat = 0xD800 + m := ⟨u.toNat - 0xD800, by omega⟩
  obtain ⟨n, hn⟩ : ∃ n, v.toNat = 0xDC00 + n := ⟨v.toNat - 0xDC00, by omega⟩
  have hvalid : Nat.isValidChar (0x10000 + m * 0x400 + n) := by
    unfold Nat.isValidChar
    omega
  have hchar : (pairChar u v).toNat = 0x10000 + m * 0x400 + n := by
    rw [pairChar, hm, hn, Nat.add_sub_cancel_left, Nat.add_sub_cancel_left, Char.ofNat,
      dif_pos hvalid]
    rfl
  have hbeyond : ¬ 0x10000 + m * 0x400 + n < 0x10000 := by omega
  have hhigh : 0xD800 + (0x10000 + m * 0x400 + n - 0x10000) / 0x400 = u.toNat := by omega
  have hlow : 0xDC00 + (0x10000 + m * 0x400 + n - 0x10000) % 0x400 = v.toNat := by omega
  rw [encodeChar, hchar, if_neg hbeyond]
  dsimp only
  rw [hhigh, hlow, UInt16.ofNat_toNat, UInt16.ofNat_toNat]

/-! ## Pairs -/

/-- **Paired units**: a second half follows on every first half, and a first half stands before every
second half. -/
def Paired (us : List UInt16) : Prop :=
  ∀ before u after, us = before ++ u :: after →
    (isHigh u = true → after.head?.any isLow = true) ∧
      (isLow u = true → before.getLast?.any isHigh = true)

/-- `Paired []`: where there are no units, none is left alone. -/
theorem paired_nil : Paired [] := by
  intro before u after h
  exact absurd h (by simp)

/-- The first of `Paired` units is no second half. -/
theorem not_paired_of_isLow {u : UInt16} (h : isLow u = true) (us : List UInt16) :
    ¬ Paired (u :: us) := by
  intro hpaired
  have hbefore := (hpaired [] u us rfl).2 h
  exact absurd hbefore (by simp)

/-- In `Paired` units, a first half in front is followed by a second half. -/
theorem not_paired_of_isHigh {u : UInt16} (h : isHigh u = true) {us : List UInt16}
    (hus : us.head?.any isLow = false) : ¬ Paired (u :: us) := by
  intro hpaired
  have hafter := (hpaired [] u us rfl).1 h
  rw [hus] at hafter
  exact absurd hafter (by simp)

/-- `Paired (front ++ us) ↔ Paired us`, for a `front` that is paired itself and ends in no first
half. -/
theorem paired_append_iff {front us : List UInt16} (hfront : Paired front)
    (hlast : front.getLast?.any isHigh = false) : Paired (front ++ us) ↔ Paired us := by
  constructor
  · intro h before u after hus
    have hboth := h (front ++ before) u after (by rw [hus, List.append_assoc])
    refine ⟨hboth.1, fun hu => ?_⟩
    have hbefore := hboth.2 hu
    cases before with
    | nil =>
      rw [List.append_nil, hlast] at hbefore
      exact absurd hbefore (by simp)
    | cons b before =>
      rwa [List.getLast?_append_of_ne_nil _ (by simp)] at hbefore
  · intro h before u after hall
    rcases List.append_eq_append_iff.1 hall with ⟨rest, rfl, hus⟩ | ⟨rest, hsplit, hus⟩
    · -- the unit stands behind the front
      have hboth := h rest u after hus
      refine ⟨hboth.1, fun hu => ?_⟩
      have hbefore := hboth.2 hu
      cases rest with
      | nil => exact absurd hbefore (by simp)
      | cons b rest => rwa [List.getLast?_append_of_ne_nil _ (by simp)]
    · cases rest with
      | nil =>
        -- the unit is the first one behind the front
        rw [List.nil_append] at hus
        rw [List.append_nil] at hsplit
        subst hsplit
        have hboth := h [] u after hus.symm
        exact ⟨hboth.1, fun hu => absurd (hboth.2 hu) (by simp)⟩
      | cons w rest =>
        -- the unit is one of the front
        rw [List.cons_append, List.cons.injEq] at hus
        obtain ⟨rfl, rfl⟩ := hus
        have hboth := hfront before u rest hsplit
        refine ⟨fun hu => ?_, hboth.2⟩
        have hafter := hboth.1 hu
        cases rest with
        | nil => exact absurd hafter (by simp)
        | cons w rest => exact hafter

/-- `Paired (u :: us) ↔ Paired us`, for a unit that is no surrogate. -/
theorem paired_cons_iff {u : UInt16} (hu : isHigh u = false) (hl : isLow u = false)
    (us : List UInt16) : Paired (u :: us) ↔ Paired us := by
  have halone : Paired [u] := by
    intro before w after h
    rcases before with _ | ⟨b, before⟩
    · obtain ⟨rfl, -⟩ := List.cons.inj h
      exact ⟨fun hw => absurd hw (by simp [hu]), fun hw => absurd hw (by simp [hl])⟩
    · exact absurd (congrArg List.length h) (by simp)
  have hlast : [u].getLast?.any isHigh = false := by simpa using hu
  exact paired_append_iff halone hlast

/-- `Paired (u :: v :: us) ↔ Paired us`, for the halves of a pair. -/
theorem paired_pair_iff {u v : UInt16} (hu : isHigh u = true) (hv : isLow v = true)
    (us : List UInt16) : Paired (u :: v :: us) ↔ Paired us := by
  have hnotLow : isLow u = false := isLow_of_isHigh hu
  have hnotHigh : isHigh v = false := by
    cases h : isHigh v with
    | false => rfl
    | true => exact absurd (isLow_of_isHigh h) (by simp [hv])
  have hpair : Paired [u, v] := by
    intro before w after h
    -- the word looked at is the first or the second of the two
    rcases before with _ | ⟨b, _ | ⟨b', before⟩⟩
    · obtain ⟨rfl, rfl⟩ := List.cons.inj h
      exact ⟨fun _ => by simpa using hv, fun hw => absurd hw (by simp [hnotLow])⟩
    · obtain ⟨rfl, h'⟩ := List.cons.inj h
      obtain ⟨rfl, -⟩ := List.cons.inj h'
      exact ⟨fun hw => absurd hw (by simp [hnotHigh]), fun _ => by simpa using hu⟩
    · exact absurd (congrArg List.length h) (by simp)
  have hlast : [u, v].getLast?.any isHigh = false := by simpa using hnotHigh
  exact paired_append_iff hpair hlast

/-! ## Reading and writing again -/

/-- The step of `encode_decode_iff` for a unit that is read by itself. -/
theorem encode_loneChar_cons_iff {u : UInt16} {us : List UInt16}
    (h : isHigh u = true → us.head?.any isLow = false)
    (ih : encode (decode us) = us ↔ Paired us) :
    encode (loneChar u :: decode us) = u :: us ↔ Paired (u :: us) := by
  rw [encode_cons]
  by_cases hu : isHigh u = true ∨ isLow u = true
  · -- a surrogate is not written again, and is without its partner
    obtain ⟨hwritten, hne⟩ := encodeChar_loneChar_of_surrogate hu
    have hunpaired : ¬ Paired (u :: us) := by
      rcases hu with hhigh | hlow
      · exact not_paired_of_isHigh hhigh (h hhigh)
      · exact not_paired_of_isLow hlow us
    refine iff_of_false (fun heq => ?_) hunpaired
    rw [hwritten] at heq
    exact hne (List.cons.inj heq).1.symm
  · obtain ⟨hhigh, hlow⟩ : isHigh u = false ∧ isLow u = false := by simpa using hu
    rw [encodeChar_loneChar_of_not_surrogate hhigh hlow, paired_cons_iff hhigh hlow, ← ih]
    simp

/-- **Paired units are those that are written again as they were read**: `encode (decode us) = us ↔
Paired us`. -/
theorem encode_decode_iff (us : List UInt16) : encode (decode us) = us ↔ Paired us := by
  -- along the reading: it takes the halves of a pair together, and every other unit by itself
  fun_induction decode us with
  | case1 => exact iff_of_true rfl paired_nil
  | case2 u => exact encode_loneChar_cons_iff (fun _ => rfl) (iff_of_true rfl paired_nil)
  | case3 u v rest h ih =>
    obtain ⟨hu, hv⟩ : isHigh u = true ∧ isLow v = true := by simpa using h
    rw [encode_cons, encodeChar_pairChar hu hv, paired_pair_iff hu hv, ← ih]
    simp
  | case4 u v rest h ih =>
    refine encode_loneChar_cons_iff (fun hu => ?_) ih
    have hv : ¬ isLow v = true := fun hv => h (by rw [hu, hv]; rfl)
    simpa using hv

/-- No other units are written again than those that were read, `U+FFFD` apart. -/
theorem eq_or_mem_of_mem_encode_decode {us : List UInt16} {w : UInt16}
    (h : w ∈ encode (decode us)) : w = 0xFFFD ∨ w ∈ us := by
  -- a unit decoded alone comes back as itself, or as the replacement character if it is a
  -- surrogate
  have halone : ∀ u, w ∈ encodeChar (loneChar u) → w = 0xFFFD ∨ w = u := by
    intro u hw
    rw [encodeChar_loneChar, List.mem_singleton] at hw
    split at hw
    · exact .inl hw
    · exact .inr hw
  fun_induction decode us with
  | case1 => exact absurd h List.not_mem_nil
  | case2 u =>
    rw [encode_cons, encode_nil, List.append_nil] at h
    rw [List.mem_singleton]
    exact halone u h
  | case3 u v rest hpair ih =>
    -- a pair comes back as the two units it was read from
    obtain ⟨hu, hv⟩ : isHigh u = true ∧ isLow v = true := by simpa using hpair
    rw [encode_cons, encodeChar_pairChar hu hv, List.mem_append] at h
    rcases h with h | h
    · exact .inr (List.mem_append_left rest h)
    · exact (ih h).imp id fun hmem => List.mem_append_right [u, v] hmem
  | case4 u v rest hpair ih =>
    rw [encode_cons, List.mem_append] at h
    rcases h with h | h
    · rcases halone u h with heq | rfl
      · exact .inl heq
      · exact .inr List.mem_cons_self
    · exact (ih h).imp id fun hmem => List.mem_cons_of_mem u hmem

/-- `decode us` has no NUL where no unit is zero. -/
theorem nul_not_mem_decode {us : List UInt16} (h : (0 : UInt16) ∉ us) : '\x00' ∉ decode us := by
  intro hmem
  -- a character NUL would be written again as a zero unit
  have hcount : 0 < (encode (decode us)).count 0 := by
    rw [count_zero_encode]
    exact List.count_pos_iff.2 hmem
  rcases eq_or_mem_of_mem_encode_decode (List.count_pos_iff.1 hcount) with hzero | hzero
  · exact absurd hzero (by decide)
  · exact h hzero

/-- `decode (us ++ v :: rest)` is cut in front of `v`, a unit that is no second half of a pair. -/
theorem decode_append {v : UInt16} (hv : isLow v = false) (us rest : List UInt16) :
    decode (us ++ v :: rest) = decode us ++ decode (v :: rest) := by
  fun_induction decode us with
  | case1 => rfl
  | case2 u => simp [decode, hv]
  | case3 u w us hpair ih =>
    rw [List.cons_append, List.cons_append, decode, if_pos hpair, ih, List.cons_append]
  | case4 u w us hpair ih =>
    rw [List.cons_append] at ih
    rw [List.cons_append, List.cons_append, decode, if_neg hpair, ih, List.cons_append]

end MountKeeper.Utf16
