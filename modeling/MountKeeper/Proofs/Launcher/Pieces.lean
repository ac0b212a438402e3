import MountKeeper.Proofs.Launcher.Wire
import MountKeeper.Proofs.Text.Surrogate
import Mathlib.Algebra.Group.Nat.Even

/-! # Bytes and words that nobody wrote

What the launcher's wire carries need not be a message that was written for it. Any bytes have words,
and any words have pieces.

* `wordsOf_eq_cons_iff`: the first word, and the `body` of words behind it.
* `bytesOf_eq_iff`: bytes are those of their words when there is an even number of them, and a byte
  left over at the end makes no difference to the words (`wordsOf_bytesOf_append`).
* `pieceInduction`: words are a piece, or a piece with a zero word and more words behind it.
* `length_strings`: how many strings there are in words, counted by `stringCount`. -/

namespace MountKeeper.Launcher

/-! ## Bytes -/

/-- The words behind the first one. -/
def body (bytes : List UInt8) : List UInt16 :=
  wordsOf (bytes.drop 2)

/-- Two bytes make up a word when they are the bytes of the word. -/
theorem ofNat_eq_iff (low high : UInt8) (w : UInt16) :
    UInt16.ofNat (low.toNat + 256 * high.toNat) = w ↔ [low, high] = bytesOfWord w := by
  have hlow : low.toNat < 256 := low.toNat_lt
  have hhigh : high.toNat < 256 := high.toNat_lt
  constructor
  · rintro rfl
    have hsum : (UInt16.ofNat (low.toNat + 256 * high.toNat)).toNat
        = low.toNat + 256 * high.toNat := by
      rw [UInt16.toNat_ofNat', Nat.mod_eq_of_lt (by omega)]
    have hmod : (low.toNat + 256 * high.toNat) % 256 = low.toNat := by omega
    have hdiv : (low.toNat + 256 * high.toNat) / 256 = high.toNat := by omega
    rw [bytesOfWord, hsum, hmod, hdiv, UInt8.ofNat_toNat, UInt8.ofNat_toNat]
  · intro h
    -- writing the word and reading it again gives it back, and what is written are the two bytes
    have hback : wordsOf (bytesOf [w]) = [w] := wordsOf_bytesOf [w]
    have hbytes : bytesOf [w] = [low, high] := by
      rw [h]
      rfl
    rw [hbytes] at hback
    exact (List.cons.inj hback).1

/-- **The first word** of bytes, and the words behind it. -/
theorem wordsOf_eq_cons_iff (bytes : List UInt8) (w : UInt16) (ws : List UInt16) :
    wordsOf bytes = w :: ws ↔ bytes.take 2 = bytesOfWord w ∧ ws = body bytes := by
  rcases bytes with _ | ⟨low, _ | ⟨high, rest⟩⟩
  · simp [wordsOf, bytesOfWord]
  · simp [wordsOf, bytesOfWord]
  · show UInt16.ofNat (low.toNat + 256 * high.toNat) :: wordsOf rest = w :: ws
      ↔ [low, high] = bytesOfWord w ∧ ws = wordsOf rest
    rw [List.cons.injEq, ofNat_eq_iff, eq_comm (a := wordsOf rest)]

/-- Bytes without a first word are not those of any word. -/
theorem take_ne_of_wordsOf_eq_nil {bytes : List UInt8} (h : wordsOf bytes = []) (w : UInt16) :
    bytes.take 2 ≠ bytesOfWord w := by
  intro htake
  have hcons := (wordsOf_eq_cons_iff bytes w (body bytes)).2 ⟨htake, rfl⟩
  rw [h] at hcons
  exact absurd hcons (by simp)

/-- A word is two bytes. -/
theorem length_bytesOf (ws : List UInt16) : (bytesOf ws).length = 2 * ws.length := by
  induction ws with
  | nil => rfl
  | cons w ws ih =>
    have hcons : bytesOf (w :: ws) = bytesOfWord w ++ bytesOf ws := rfl
    rw [hcons, List.length_append, ih, bytesOfWord, List.length_cons, List.length_cons,
      List.length_nil, List.length_cons]
    omega

/-- An even number of bytes are those of their words. -/
theorem bytesOf_wordsOf {bytes : List UInt8} (h : Even bytes.length) :
    bytesOf (wordsOf bytes) = bytes := by
  fun_induction wordsOf bytes with
  | case1 low high rest ih =>
    have hword := (ofNat_eq_iff low high _).1 rfl
    have hrest : Even rest.length := by
      rw [List.length_cons, List.length_cons, Nat.even_add_one, Nat.even_add_one, not_not] at h
      exact h
    show bytesOfWord _ ++ bytesOf (wordsOf rest) = low :: high :: rest
    rw [← hword, ih hrest]
    rfl
  | case2 bytes hshort =>
    rcases bytes with _ | ⟨low, _ | ⟨high, rest⟩⟩
    · rfl
    · exact absurd h (by simp)
    · exact absurd rfl (hshort low high rest)

/-- **Bytes are those of some words** when they are even in number and the words are theirs. -/
theorem bytesOf_eq_iff (ws : List UInt16) (bytes : List UInt8) :
    bytesOf ws = bytes ↔ Even bytes.length ∧ wordsOf bytes = ws := by
  constructor
  · rintro rfl
    rw [length_bytesOf, wordsOf_bytesOf]
    exact ⟨⟨ws.length, Nat.two_mul ws.length⟩, rfl⟩
  · rintro ⟨heven, rfl⟩
    exact bytesOf_wordsOf heven

/-- A byte left over at the end makes no difference to the words. -/
theorem wordsOf_bytesOf_append (ws : List UInt16) {stray : List UInt8} (h : stray.length ≤ 1) :
    wordsOf (bytesOf ws ++ stray) = ws := by
  induction ws with
  | nil =>
    rcases stray with _ | ⟨b, _ | ⟨b', rest⟩⟩
    · rfl
    · rfl
    · exact absurd h (by simp)
  | cons w ws ih =>
    have hword : UInt16.ofNat ((UInt8.ofNat (w.toNat % 256)).toNat
        + 256 * (UInt8.ofNat (w.toNat / 256)).toNat) = w := (ofNat_eq_iff _ _ w).2 rfl
    calc wordsOf (bytesOf (w :: ws) ++ stray)
        = UInt16.ofNat ((UInt8.ofNat (w.toNat % 256)).toNat
            + 256 * (UInt8.ofNat (w.toNat / 256)).toNat) :: wordsOf (bytesOf ws ++ stray) := rfl
      _ = w :: ws := by rw [hword, ih]

/-! ## Pieces -/

/-- **Words are a piece, or a piece with a zero word and more words behind it.** -/
@[elab_as_elim]
theorem pieceInduction {motive : List UInt16 → Prop} (piece : ∀ xs, (0 : UInt16) ∉ xs → motive xs)
    (cut : ∀ xs rest, (0 : UInt16) ∉ xs → motive rest → motive (xs ++ 0 :: rest))
    (ws : List UInt16) : motive ws := by
  by_cases h : (0 : UInt16) ∈ ws
  · obtain ⟨xs, rest, rfl, hxs⟩ := List.eq_append_cons_of_mem h
    exact cut xs rest hxs (pieceInduction piece cut rest)
  · exact piece ws h
termination_by ws.length
decreasing_by
  rename_i hws
  rw [hws, List.length_append, List.length_cons]
  omega

/-- A piece that has words is the only piece of them. -/
theorem pieces_of_zero_not_mem {xs : List UInt16} (h : (0 : UInt16) ∉ xs) (hne : xs ≠ []) :
    pieces xs = [xs] := by
  have hlast : xs.getLast? ≠ some 0 := fun hlast => h (List.mem_of_getLast? hlast)
  have hnot : ¬ (xs.isEmpty || xs.getLast? == some 0) = true := by simp [hne, hlast]
  unfold pieces
  rw [if_neg hnot, List.splitOn_eq_singleton h]

/-- A piece stands in front of the others. -/
theorem pieces_cut {xs : List UInt16} (h : (0 : UInt16) ∉ xs) (rest : List UInt16) :
    pieces (xs ++ 0 :: rest) = xs :: pieces rest := by
  rw [pieces_append_zero, List.splitOn_eq_singleton h, List.singleton_append]

/-- A piece has no zero word. -/
theorem zero_not_mem_of_mem_pieces {ws p : List UInt16} (h : p ∈ pieces ws) :
    (0 : UInt16) ∉ p := by
  induction ws using pieceInduction with
  | piece xs hxs =>
    by_cases hne : xs = []
    · rw [hne, pieces_nil] at h
      exact absurd h List.not_mem_nil
    · rw [pieces_of_zero_not_mem hxs hne, List.mem_singleton] at h
      rw [h]
      exact hxs
  | cut xs rest hxs ih =>
    rw [pieces_cut hxs] at h
    rcases List.mem_cons.1 h with rfl | h
    · exact hxs
    · exact ih h

/-- **The strings between zero words are free of NUL.** -/
theorem nulFree_of_mem_strings {ws : List UInt16} {s : String} (h : s ∈ strings ws) :
    NulFree s := by
  obtain ⟨p, hp, rfl⟩ := List.mem_map.1 h
  rw [NulFree, String.toList_ofList]
  exact Utf16.nul_not_mem_decode (zero_not_mem_of_mem_pieces hp)

/-- The number of strings in words: every zero word ends one, and the end of the words one more
when the last word is not zero. -/
def stringCount (ws : List UInt16) : Nat :=
  ws.count 0 + if ws.getLast?.any (· != 0) then 1 else 0

/-- The last of some words is the last of those behind a zero word, or the zero word itself. -/
theorem getLast?_cut (xs rest : List UInt16) :
    (xs ++ 0 :: rest).getLast? = some (rest.getLast?.getD 0) := by
  rw [List.getLast?_append_of_ne_nil _ (by simp), List.getLast?_cons]

/-- `strings ws` has `stringCount ws` members. -/
theorem length_strings (ws : List UInt16) : (strings ws).length = stringCount ws := by
  rw [strings, List.length_map]
  induction ws using pieceInduction with
  | piece xs hxs =>
    by_cases hne : xs = []
    · rw [hne]
      rfl
    · -- the last word of a piece is one of its words, and not zero
      have hlast : xs.getLast?.any (· != 0) = true := by
        rw [List.getLast?_eq_some_getLast hne, Option.any_some, bne_iff_ne]
        exact fun hzero => hxs (hzero ▸ List.getLast_mem hne)
      rw [pieces_of_zero_not_mem hxs hne, stringCount, if_pos hlast, List.count_eq_zero.2 hxs]
      rfl
  | cut xs rest hxs ih =>
    have hlast : (xs ++ 0 :: rest).getLast?.any (· != 0) = rest.getLast?.any (· != 0) := by
      rw [getLast?_cut]
      cases rest.getLast? <;> rfl
    rw [pieces_cut hxs, List.length_cons, ih, stringCount, stringCount, hlast, List.count_append,
      List.count_eq_zero.2 hxs, List.count_cons_self]
    omega

end MountKeeper.Launcher
