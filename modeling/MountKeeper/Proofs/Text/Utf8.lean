import MountKeeper.Proofs.Text.Utf16
import MountKeeper.Text.Utf8

/-! # Reading written bytes

`Utf8.decode` undoes the writing of a text in UTF-8.

* `decodeFrom_tail`: a byte of a sequence within its bounds carries six bits.
* `decode_encodeChar_append`: the bytes of one character are read as that character, whatever follows
  them, by the number of the bytes.
* `Utf8.encode` writes characters, and `decode_encode_append` reads them back, whatever follows.
* `decode_toUTF8`: the bytes of a text are read as the text.
* `decodeFrom_append`: what is read is cut in front of a byte below 128. -/

namespace MountKeeper.Utf8

/-! ## Bytes -/

/-- `UInt8.ofNat (n + mark)` carries `n` above its mark, where both fit in a byte. -/
theorem toNat_ofNat_add {n mark : Nat} (h : n + mark < 256) :
    (UInt8.ofNat (n + mark)).toNat = n + mark := by
  rw [UInt8.toNat_ofNat', Nat.mod_eq_of_lt (by omega)]

/-- A byte below `128` is read as the character that it is. -/
theorem decode_small {n : Nat} (h : n < 128) (rest : List UInt8) :
    decode (UInt8.ofNat n :: rest) = Char.ofNat n :: decode rest := by
  have hbyte : (UInt8.ofNat n).toNat = n := @toNat_ofNat_add n 0 (by omega)
  have hsmall : UInt8.ofNat n < 0x80 := by
    rw [UInt8.lt_iff_toNat_lt, hbyte]
    exact h
  rw [decode, decodeFrom, first, if_pos hsmall, hbyte]
  rfl

/-- `decode (b :: rest)` for a byte that starts a sequence: it is followed by the bytes of its
remainder. -/
theorem decode_lead {b : UInt8} {r : Remainder} (h : remainder? b = some r) (hb : ¬ b < 0x80)
    (rest : List UInt8) : decode (b :: rest) = decodeFrom (some r) rest := by
  rw [decode, decodeFrom, first, if_neg hb, h]
  rfl

/-- **A byte within the bounds of a sequence** carries six bits of the character: `value` is moved
by them, and the last one ends the sequence. -/
theorem decodeFrom_tail {r : Remainder} {n : Nat} (hn : n < 64) (hlow : r.low.toNat ≤ n + 128)
    (hhigh : n + 128 ≤ r.high.toNat) (rest : List UInt8) :
    decodeFrom (some r) (UInt8.ofNat (n + 128) :: rest) = match r.after with
      | 0 => Char.ofNat (64 * r.value + n) :: decode rest
      | k + 1 => decodeFrom (some { after := k, value := 64 * r.value + n }) rest := by
  have hbyte : (UInt8.ofNat (n + 128)).toNat = n + 128 := toNat_ofNat_add (by omega)
  have hbounds : (r.low ≤ UInt8.ofNat (n + 128) && UInt8.ofNat (n + 128) ≤ r.high) = true := by
    simp only [Bool.and_eq_true, decide_eq_true_eq, UInt8.le_iff_toNat_le, hbyte]
    exact ⟨hlow, hhigh⟩
  have hbits : (n + 128) % 64 = n := by omega
  rw [decodeFrom, next, if_pos hbounds, hbyte, hbits]
  cases r.after with
  | zero => rfl
  | succ k => rfl

/-! ## First bytes -/

/-- Of two bytes, the first has `n` with `2 ≤ n`: less would have fitted into one. -/
theorem remainder?_two : ∀ n < 32, 2 ≤ n →
    remainder? (UInt8.ofNat (n + 192)) = some { after := 0, value := n } := by
  decide

/-- `224 + n`, the first of three bytes, leaves out what two would say, and surrogates. -/
theorem remainder?_three : ∀ n < 16, remainder? (UInt8.ofNat (n + 224)) = some {
    after := 1
    value := n
    low := if n = 0 then 0xA0 else 0x80
    high := if n = 13 then 0x9F else 0xBF } := by
  decide

/-- `240 + n`, the first of four bytes, leaves out what three would say, and what is no character.
-/
theorem remainder?_four : ∀ n < 5, remainder? (UInt8.ofNat (n + 240)) = some {
    after := 2
    value := n
    low := if n = 0 then 0x90 else 0x80
    high := if n = 4 then 0x8F else 0xBF } := by
  decide

/-- The bytes of a longer sequence are not below `128`. -/
theorem not_small {n mark : Nat} (h : n + mark < 256) (hmark : 128 ≤ mark) :
    ¬ UInt8.ofNat (n + mark) < 0x80 := by
  rw [UInt8.lt_iff_toNat_lt, toNat_ofNat_add h]
  exact Nat.not_lt.2 (Nat.le_trans hmark (Nat.le_add_left mark n))

/-! ## Characters -/

/-- Two bytes with the bits of `v` are read as the character of `v`. -/
theorem decode_two {v : Nat} (h : 128 ≤ v) (hv : v < 2048) (rest : List UInt8) :
    decode (UInt8.ofNat (v / 64 + 192) :: UInt8.ofNat (v % 64 + 128) :: rest)
      = Char.ofNat v :: decode rest := by
  have hlead := remainder?_two (v / 64) (by omega) (by omega)
  have hvalue : 64 * (v / 64) + v % 64 = v := Nat.div_add_mod v 64
  rw [decode_lead hlead (not_small (by omega) (by decide)),
    decodeFrom_tail (by omega) (by show 128 ≤ _; omega) (by show _ ≤ 191; omega)]
  dsimp only
  rw [hvalue]

/-- Three bytes with the bits of `v` are read as the character of `v`, which is no surrogate. -/
theorem decode_three {v : Nat} (h : 2048 ≤ v) (hv : v < 65536) (hsurrogate : v < 0xD800 ∨ 0xE000 ≤ v)
    (rest : List UInt8) :
    decode (UInt8.ofNat (v / 4096 + 224) :: UInt8.ofNat (v / 64 % 64 + 128)
        :: UInt8.ofNat (v % 64 + 128) :: rest) = Char.ofNat v :: decode rest := by
  have hlead := remainder?_three (v / 4096) (by omega)
  -- the second byte is kept in narrower bounds after `0xE0` and `0xED`: no overlong form, no
  -- surrogate
  have hlow : (if v / 4096 = 0 then 0xA0 else 0x80 : UInt8).toNat ≤ v / 64 % 64 + 128 := by
    split
    · show 160 ≤ _
      omega
    · show 128 ≤ _
      omega
  have hhigh : v / 64 % 64 + 128 ≤ (if v / 4096 = 13 then 0x9F else 0xBF : UInt8).toNat := by
    split
    · show _ ≤ 159
      omega
    · show _ ≤ 191
      omega
  have hvalue : 64 * (64 * (v / 4096) + v / 64 % 64) + v % 64 = v := by omega
  rw [decode_lead hlead (not_small (by omega) (by decide)), decodeFrom_tail (by omega) hlow hhigh]
  dsimp only
  rw [decodeFrom_tail (by omega) (by show 128 ≤ _; omega) (by show _ ≤ 191; omega)]
  dsimp only
  rw [hvalue]

/-- Four bytes with the bits of `v` are read as the character of `v`. -/
theorem decode_four {v : Nat} (h : 65536 ≤ v) (hv : v < 0x110000) (rest : List UInt8) :
    decode (UInt8.ofNat (v / 262144 + 240) :: UInt8.ofNat (v / 4096 % 64 + 128)
        :: UInt8.ofNat (v / 64 % 64 + 128) :: UInt8.ofNat (v % 64 + 128) :: rest)
      = Char.ofNat v :: decode rest := by
  have hlead := remainder?_four (v / 262144) (by omega)
  -- after `0xF0` and `0xF4` likewise: no overlong form, nothing past the last code point
  have hlow : (if v / 262144 = 0 then 0x90 else 0x80 : UInt8).toNat ≤ v / 4096 % 64 + 128 := by
    split
    · show 144 ≤ _
      omega
    · show 128 ≤ _
      omega
  have hhigh : v / 4096 % 64 + 128 ≤ (if v / 262144 = 4 then 0x8F else 0xBF : UInt8).toNat := by
    split
    · show _ ≤ 143
      omega
    · show _ ≤ 191
      omega
  have hvalue : 64 * (64 * (64 * (v / 262144) + v / 4096 % 64) + v / 64 % 64) + v % 64 = v := by
    omega
  rw [decode_lead hlead (not_small (by omega) (by decide)), decodeFrom_tail (by omega) hlow hhigh]
  dsimp only
  rw [decodeFrom_tail (by omega) (by show 128 ≤ _; omega) (by show _ ≤ 191; omega)]
  dsimp only
  rw [decodeFrom_tail (by omega) (by show 128 ≤ _; omega) (by show _ ≤ 191; omega)]
  dsimp only
  rw [hvalue]

/-- **The bytes of a character are read as that character**, whatever follows them: `decode
(utf8EncodeChar c ++ rest)`. The cases are those of the number of bytes. -/
theorem decode_encodeChar_append (c : Char) (rest : List UInt8) :
    decode (String.utf8EncodeChar c ++ rest) = c :: decode rest := by
  have hlt := Utf16.toNat_lt c
  have hsurrogate := Utf16.toNat_not_surrogate c
  have hval : c.val.toNat = c.toNat := rfl
  have hc : Char.ofNat c.toNat = c := Char.ofNat_toNat c
  unfold String.utf8EncodeChar
  rw [hval]
  dsimp only
  -- one case a length of the encoding, each with its own equation of `decode`
  by_cases h1 : c.toNat ≤ 127
  · rw [if_pos h1, List.singleton_append, decode_small (by omega), hc]
  · rw [if_neg h1]
    by_cases h2 : c.toNat ≤ 2047
    · have hfirst : c.toNat / 64 % 32 = c.toNat / 64 := by omega
      rw [if_pos h2, hfirst]
      exact (decode_two (by omega) (by omega) rest).trans (by rw [hc])
    · rw [if_neg h2]
      by_cases h3 : c.toNat ≤ 65535
      · have hfirst : c.toNat / 4096 % 16 = c.toNat / 4096 := by omega
        rw [if_pos h3, hfirst]
        exact (decode_three (by omega) (by omega) hsurrogate rest).trans (by rw [hc])
      · have hfirst : c.toNat / 262144 % 8 = c.toNat / 262144 := by omega
        rw [if_neg h3, hfirst]
        exact (decode_four (by omega) hlt rest).trans (by rw [hc])

/-! ## Texts -/

/-- The bytes of characters. -/
def encode (cs : List Char) : List UInt8 :=
  cs.flatMap String.utf8EncodeChar

/-- `encode [] = []`. -/
@[simp] theorem encode_nil : encode [] = [] := rfl

/-- `encode (c :: cs)` is the bytes of `c` and those of `cs`. -/
theorem encode_cons (c : Char) (cs : List Char) :
    encode (c :: cs) = String.utf8EncodeChar c ++ encode cs :=
  List.flatMap_cons

/-- `encode (cs ++ ds) = encode cs ++ encode ds`. -/
theorem encode_append (cs ds : List Char) : encode (cs ++ ds) = encode cs ++ encode ds :=
  List.flatMap_append

/-- `decode (encode cs ++ rest) = cs ++ decode rest`, by induction on the characters. -/
theorem decode_encode_append (cs : List Char) (rest : List UInt8) :
    decode (encode cs ++ rest) = cs ++ decode rest := by
  induction cs with
  | nil => rfl
  | cons c cs ih =>
    rw [encode_cons, List.append_assoc, decode_encodeChar_append, ih, List.cons_append]

/-- `decode (encode cs) = cs`: what was written is read back. -/
@[simp] theorem decode_encode (cs : List Char) : decode (encode cs) = cs := by
  simpa using decode_encode_append cs []

/-- The bytes of the library are those of `encode`. -/
theorem toList_utf8Encode (cs : List Char) : cs.utf8Encode.data.toList = encode cs := by
  rw [List.utf8Encode, List.data_toByteArray]
  rfl

/-- `text.toUTF8` has the bytes of its characters, one after the other. -/
theorem toList_toUTF8 (text : String) :
    text.toUTF8.data.toList = text.toList.flatMap String.utf8EncodeChar := by
  have hbytes : (String.ofList text.toList).toByteArray = text.toList.utf8Encode :=
    String.toByteArray_ofList
  rw [String.ofList_toList] at hbytes
  show text.toByteArray.data.toList = _
  rw [hbytes]
  exact toList_utf8Encode text.toList

/-- **The bytes of a text are read as the text**: `decode` undoes `toUTF8`. -/
theorem decode_toUTF8 (text : String) : decode text.toUTF8.data.toList = text.toList := by
  rw [toList_toUTF8]
  exact decode_encode text.toList

/-! ## Cuts -/

/-- `decodeFrom none (b :: bs)`: outside of a sequence, a byte is a `first` one. -/
theorem decodeFrom_none_cons (b : UInt8) (bs : List UInt8) :
    decodeFrom none (b :: bs) = (first b).1 ++ decodeFrom (first b).2 bs := rfl

/-- `decodeFrom (some r) (b :: bs)`: inside of a sequence, a byte is a `next` one. -/
theorem decodeFrom_some_cons (r : Remainder) (b : UInt8) (bs : List UInt8) :
    decodeFrom (some r) (b :: bs) = (next r b).1 ++ decodeFrom (next r b).2 bs := rfl

/-- `WantsLarge state`: inside of a sequence, the next byte is not below `128`. -/
def WantsLarge (state : Option Remainder) : Prop :=
  ∀ r ∈ state, 0x80 ≤ r.low

/-- `WantsLarge none`: outside of a sequence, nothing is wanted. -/
theorem wantsLarge_none : WantsLarge none :=
  fun _ hr => nomatch hr

/-- `WantsLarge (remainder? b)`: the remainder of a first byte wants a large one. -/
theorem wantsLarge_remainder? (b : UInt8) : WantsLarge (remainder? b) := by
  intro r hr
  unfold remainder? at hr
  -- one case for each kind of first byte, with its own lower bound
  repeat' split at hr
  all_goals cases hr
  all_goals dsimp only
  all_goals decide

/-- `WantsLarge` behind a first byte. -/
theorem wantsLarge_first (b : UInt8) : WantsLarge (first b).2 := by
  unfold first
  split
  · exact wantsLarge_none
  · have hlarge := wantsLarge_remainder? b
    split
    · next r hr => exact hr ▸ hlarge
    · exact wantsLarge_none

/-- `WantsLarge` behind a next byte. -/
theorem wantsLarge_next (r : Remainder) (b : UInt8) : WantsLarge (next r b).2 := by
  unfold next
  split
  · dsimp only
    split
    · exact wantsLarge_none
    · rintro r' ⟨⟩
      dsimp only
      decide
  · exact wantsLarge_first b

/-- A byte below `128` ends the sequence that it comes upon, which is read as `U+FFFD`, and is read
itself as a first byte. -/
theorem next_small {r : Remainder} {b : UInt8} (hr : 0x80 ≤ r.low) (hb : b < 0x80) :
    next r b = ('\ufffd' :: (first b).1, (first b).2) := by
  have hlow : ¬ r.low ≤ b := UInt8.not_le.2 (UInt8.lt_of_lt_of_le hb hr)
  rw [next, decide_eq_false hlow, Bool.false_and, if_neg Bool.false_ne_true]

/-- **What is read is cut in front of a small byte**, `b < 0x80`, inside of a sequence as well: the
sequence ends there. -/
theorem decodeFrom_append {state : Option Remainder} (hstate : WantsLarge state) {b : UInt8}
    (hb : b < 0x80) (bs rest : List UInt8) :
    decodeFrom state (bs ++ b :: rest) = decodeFrom state bs ++ decode (b :: rest) := by
  -- along the bytes in front, in whatever state they are read
  induction bs generalizing state with
  | nil =>
    cases state with
    | none => rfl
    | some r =>
      rw [List.nil_append, decodeFrom_some_cons, next_small (hstate r rfl) hb]
      rfl
  | cons a bs ih =>
    cases state with
    | none =>
      rw [List.cons_append, decodeFrom_none_cons, ih (wantsLarge_first a), ← List.append_assoc,
        ← decodeFrom_none_cons]
    | some r =>
      rw [List.cons_append, decodeFrom_some_cons, ih (wantsLarge_next r a), ← List.append_assoc,
        ← decodeFrom_some_cons]

/-- Bytes below `128` are read as characters, whatever stands before them. -/
theorem decode_append_small (bs : List UInt8) {small : List UInt8} (h : ∀ b ∈ small, b < 0x80) :
    decode (bs ++ small) = decode bs ++ small.map fun b => Char.ofNat b.toNat := by
  induction small generalizing bs with
  | nil => rw [List.append_nil, List.map_nil, List.append_nil]
  | cons b small ih =>
    obtain ⟨hb, hsmall⟩ := List.forall_mem_cons.1 h
    have hone : decode (b :: small) = Char.ofNat b.toNat :: decode small := by
      have hread := decode_small (n := b.toNat) (UInt8.lt_iff_toNat_lt.1 hb) small
      rwa [UInt8.ofNat_toNat] at hread
    have hrest : decode small = small.map fun b => Char.ofNat b.toNat := ih [] hsmall
    rw [decode, decodeFrom_append wantsLarge_none hb, hone, hrest, List.map_cons]
    rfl

end MountKeeper.Utf8
