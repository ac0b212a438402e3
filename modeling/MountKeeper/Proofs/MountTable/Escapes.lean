import MountKeeper.Proofs.MountTable.Listing

/-! # Which characters of a field are read as escapes

A reader of fields goes from left to right. Where a backslash and three octal digits with the value of
a byte stand next, they are read as one character, and reading goes on behind them; any other
character stands for itself.

* `octalByte?_eq_some_iff`: which three characters are read as a byte.
* `Token` is what is read as one character; `Cuts` tells which tokens a text has from left to right.
  No token that stands for itself is the start of an escape, so that an escaped backslash in front of
  digits is not read twice.
* `exists_cuts` and `Cuts.unique`: every text is cut in one way, and read token by token.
* `unescape_faithful` puts this together with the way back from what was escaped. -/

namespace MountKeeper.MountTable

/-! ## Octal digits -/

/-- The octal digits. -/
def isOctal (c : Char) : Bool :=
  '0' ≤ c && c ≤ '7'

/-- The value of three octal digits. -/
def octalValue (a b c : Char) : Nat :=
  64 * (a.toNat - '0'.toNat) + 8 * (b.toNat - '0'.toNat) + (c.toNat - '0'.toNat)

/-- Three characters that make an escape behind a backslash: octal digits, with the value of a
byte. -/
structure IsCode (a b c : Char) : Prop where
  first : isOctal a = true
  second : isOctal b = true
  third : isOctal c = true
  le_byte : octalValue a b c ≤ 255

/-- The octal digits are the code points 48 to 55. -/
theorem isOctal_iff {c : Char} : isOctal c = true ↔ 48 ≤ c.toNat ∧ c.toNat ≤ 55 := by
  have hlow : '0' ≤ c ↔ 48 ≤ c.toNat := Iff.rfl
  have hhigh : c ≤ '7' ↔ c.toNat ≤ 55 := Iff.rfl
  simp [isOctal, hlow, hhigh]

/-- A digit of base eight is an octal digit. -/
theorem digitValue?_octal {c : Char} {d : Nat} (hd : d < 8) :
    Numeral.digitValue? c = some d ↔ isOctal c = true ∧ d = c.toNat - '0'.toNat := by
  have hzero : '0'.toNat = 48 := rfl
  have hdigit : c.isDigit = true ↔ 48 ≤ c.toNat ∧ c.toNat ≤ 57 := Char.isDigit_iff_toNat
  rw [isOctal_iff, hzero, Numeral.digitValue?]
  split
  · next h =>
    rw [hdigit] at h
    simp only [hzero, Option.some.injEq]
    omega
  · next h =>
    -- letters count from ten, so that none is a digit of base eight
    rw [hdigit] at h
    split
    · simp only [Option.some.injEq]
      omega
    · split
      · simp only [Option.some.injEq]
        omega
      · simp only [reduceCtorEq, false_iff]
        omega

/-- Octal digits are read on one by one, and nothing else is. -/
theorem readOn?_octal_cons (value : Nat) (c : Char) (cs : List Char) :
    Numeral.readOn? 8 value (c :: cs)
      = if isOctal c then Numeral.readOn? 8 (8 * value + (c.toNat - '0'.toNat)) cs else none := by
  rw [Numeral.readOn?]
  by_cases hc : isOctal c = true
  · have hlt : c.toNat - '0'.toNat < 8 := by
      have hzero : '0'.toNat = 48 := rfl
      rw [isOctal_iff] at hc
      omega
    rw [(digitValue?_octal hlt).2 ⟨hc, rfl⟩, if_pos hc]
    exact if_pos hlt
  · rw [if_neg hc]
    cases hvalue : Numeral.digitValue? c with
    | none => rfl
    | some d =>
      have hge : ¬ d < 8 := fun hd => hc ((digitValue?_octal hd).1 hvalue).1
      exact if_neg hge

/-- **Which three characters are read as a byte**, and as which. -/
theorem octalByte?_eq_some_iff {a b c : Char} {n : Nat} :
    octalByte? a b c = some n ↔ IsCode a b c ∧ n = octalValue a b c := by
  have hread : Numeral.readDigits? 8 [a, b, c]
      = if isOctal a ∧ isOctal b ∧ isOctal c then some (octalValue a b c) else none := by
    rw [Numeral.readDigits?, if_neg (by simp), readOn?_octal_cons, readOn?_octal_cons,
      readOn?_octal_cons, Numeral.readOn?]
    have hvalue : 8 * (8 * (8 * 0 + (a.toNat - '0'.toNat)) + (b.toNat - '0'.toNat))
        + (c.toNat - '0'.toNat) = octalValue a b c := by
      rw [octalValue]
      omega
    rw [hvalue]
    cases isOctal a <;> cases isOctal b <;> cases isOctal c <;> simp
  rw [octalByte?, hread]
  by_cases hdigits : isOctal a ∧ isOctal b ∧ isOctal c
  · rw [if_pos hdigits]
    obtain ⟨ha, hb, hc⟩ := hdigits
    -- three octal digits can exceed a byte; such a code is no code
    by_cases hbyte : octalValue a b c < 256
    · have hcode : IsCode a b c := ⟨ha, hb, hc, by omega⟩
      simp only [if_pos hbyte, Option.some.injEq, hcode, true_and, eq_comm]
    · have hcode : ¬ IsCode a b c := fun h => hbyte (Nat.lt_succ_of_le h.le_byte)
      simp only [if_neg hbyte, reduceCtorEq, hcode, false_and]
  · have hcode : ¬ IsCode a b c := fun h => hdigits ⟨h.first, h.second, h.third⟩
    rw [if_neg hdigits]
    simp only [reduceCtorEq, hcode, false_and]

/-- `octalByte?` is undefined if and only if the characters are no code. -/
theorem octalByte?_eq_none_iff {a b c : Char} : octalByte? a b c = none ↔ ¬ IsCode a b c := by
  rw [Option.eq_none_iff_forall_ne_some]
  constructor
  · intro h hcode
    exact h _ (octalByte?_eq_some_iff.2 ⟨hcode, rfl⟩)
  · intro h n hn
    exact h (octalByte?_eq_some_iff.1 hn).1

/-! ## Tokens -/

/-- What is read as one character. -/
inductive Token where
  /-- A backslash and three octal digits. -/
  | escape (a b c : Char)
  /-- A character that stands for itself. -/
  | plain (c : Char)
  deriving DecidableEq, Repr

namespace Token

/-- The characters that a token is written with. -/
def written : Token → List Char
  | escape a b c => ['\\', a, b, c]
  | plain c => [c]

/-- The character that a token is read as. -/
def read : Token → Char
  | escape a b c => Char.ofNat (octalValue a b c)
  | plain c => c

end Token

/-- Whether an escape stands next. -/
def StartsEscape (cs : List Char) : Prop :=
  ∃ a b c rest, cs = '\\' :: a :: b :: c :: rest ∧ IsCode a b c

/-- The tokens of a text from left to right. A character stands for itself where no escape stands
next. -/
inductive Cuts : List Token → List Char → Prop
  | nil : Cuts [] []
  | escape {a b c : Char} {ts : List Token} {cs : List Char} (code : IsCode a b c)
      (rest : Cuts ts cs) : Cuts (.escape a b c :: ts) ('\\' :: a :: b :: c :: cs)
  | plain {x : Char} {ts : List Token} {cs : List Char} (alone : ¬ StartsEscape (x :: cs))
      (rest : Cuts ts cs) : Cuts (.plain x :: ts) (x :: cs)

namespace Cuts

variable {ts us : List Token} {cs : List Char}

/-- The tokens hold all characters of the text. -/
theorem flatMap_written (h : Cuts ts cs) : ts.flatMap Token.written = cs := by
  induction h with
  | nil => rfl
  | escape _ _ ih => rw [List.flatMap_cons, ih]; rfl
  | plain _ _ ih => rw [List.flatMap_cons, ih]; rfl

/-- **A text is cut in one way.** -/
theorem unique (h : Cuts ts cs) (h' : Cuts us cs) : us = ts := by
  induction h generalizing us with
  | nil => cases h'; rfl
  | escape code _ ih =>
    cases h' with
    | escape _ rest => rw [ih rest]
    | plain alone _ => exact absurd ⟨_, _, _, _, rfl, code⟩ alone
  | plain alone _ ih =>
    cases h' with
    | escape code _ => exact absurd ⟨_, _, _, _, rfl, code⟩ alone
    | plain _ rest => rw [ih rest]

end Cuts

/-- **Every text is cut into tokens**, and each of them is read as its character. -/
theorem exists_cuts (cs : List Char) : ∃ ts, Cuts ts cs ∧ unescape cs = ts.map Token.read := by
  fun_induction unescape cs with
  | case1 a b c rest n hbyte ih =>
    obtain ⟨ts, hcuts, hread⟩ := ih
    obtain ⟨hcode, rfl⟩ := octalByte?_eq_some_iff.1 hbyte
    exact ⟨.escape a b c :: ts, hcuts.escape hcode, by rw [hread]; rfl⟩
  | case2 a b c rest hbyte ih =>
    -- a backslash in front of something else is read by itself
    obtain ⟨ts, hcuts, hread⟩ := ih
    have halone : ¬ StartsEscape ('\\' :: a :: b :: c :: rest) := by
      rintro ⟨a', b', c', rest', heq, hcode⟩
      simp only [List.cons.injEq, true_and] at heq
      obtain ⟨rfl, rfl, rfl, -⟩ := heq
      exact octalByte?_eq_none_iff.1 hbyte hcode
    exact ⟨.plain '\\' :: ts, hcuts.plain halone, by rw [hread]; rfl⟩
  | case3 x rest hne ih =>
    obtain ⟨ts, hcuts, hread⟩ := ih
    have halone : ¬ StartsEscape (x :: rest) := by
      rintro ⟨a, b, c, rest', heq, -⟩
      obtain ⟨hx, hrest⟩ := List.cons.inj heq
      exact hne a b c rest' hx hrest
    exact ⟨.plain x :: ts, hcuts.plain halone, by rw [hread]; rfl⟩
  | case4 => exact ⟨[], .nil, rfl⟩

/-! ## The way there and back -/

/-- **What is read of a field.** What was written with escapes for some ASCII characters, the backslash
among them, is read back; a text without backslashes is read as it is; and of any text, just the
escapes from left to right are read as one character each. -/
theorem unescape_faithful :
    (∀ special : Char → Bool, (∀ c, special c = true → c.toNat < 128) → special '\\' = true →
      ∀ cs, unescape (escape special cs) = cs) ∧
    (∀ cs, '\\' ∉ cs → unescape cs = cs) ∧
    ∀ cs, ∃ ts, Cuts ts cs ∧ ts.flatMap Token.written = cs ∧ unescape cs = ts.map Token.read ∧
      ∀ us, Cuts us cs → us = ts := by
  refine ⟨fun special hascii hmark cs => ?_, fun cs h => unescape_of_not_mem h, fun cs => ?_⟩
  · exact unescape_escape (fun c hc => Nat.lt_trans (hascii c hc) (by decide)) hmark cs
  · obtain ⟨ts, hcuts, hread⟩ := exists_cuts cs
    exact ⟨ts, hcuts, hcuts.flatMap_written, hread, fun us hus => hcuts.unique hus⟩

/-- A backslash in front of digits is no escape once it was escaped itself. -/
theorem unescape_faithful_backslash :
    (∀ c, isEscaped c = true → c.toNat < 128) ∧ isEscaped '\\' = true ∧
      '\\' ∉ "/mnt/a".toList ∧ unescape "/mnt/a".toList = "/mnt/a".toList ∧
      escape isEscaped "a\\040 b".toList = "a\\134040\\040b".toList ∧
      unescape (escape isEscaped "a\\040 b".toList) = "a\\040 b".toList := by
  have hascii : ∀ c, isEscaped c = true → c.toNat < 128 := by
    intro c hc
    rcases isEscaped_iff.1 hc with rfl | rfl | rfl | rfl | rfl <;> decide
  have hplain : '\\' ∉ "/mnt/a".toList := by decide
  exact ⟨hascii, by decide, hplain, unescape_faithful.2.1 _ hplain, by decide,
    unescape_faithful.1 isEscaped hascii (by decide) _⟩

end MountKeeper.MountTable
