import MountKeeper.Binary64.Basic
import Mathlib.Algebra.Order.Field.Power
import Mathlib.Data.Nat.Log
import Mathlib.Tactic.FieldSimp
import Mathlib.Tactic.Linarith
import Mathlib.Tactic.NormNum
import Mathlib.Tactic.Positivity
import Mathlib.Tactic.Ring

/-! # Rounding to binary floating point

`Binary64.ofRatio` guesses the exponent of a fraction from the lengths of its two numbers and rounds
what is left to a mantissa. What comes out is told here by rational numbers: whether a rounded
number reaches a number with a mantissa of 53 bits is a question about the number before rounding.

* `le_divHalfEven_iff`: a quotient is rounded to the nearest whole number, a half to the even one.
* `Binary64.exponentFor_bounds`: the guess is right, or is put right.
* `Binary64.reaches_ofRatio_iff`: when a rounded fraction reaches `k * 2 ^ p`.
* `Binary64.HasValue.reaches_scale_iff` and `Binary64.reaches_ofDecimal_iff`: the same for a number
  times a fraction and for decimal notation, with its shortcuts for huge and for tiny numbers. -/

namespace MountKeeper

/-! ## Whole numbers -/

/-- `divHalfEven n d` is `n / d` or the next number, depending on which side of the half `n % d`
lies. On the half itself, it is the even one. -/
theorem divHalfEven_cases (n d : ℕ) :
    (divHalfEven n d = n / d ∧ (2 * (n % d) < d ∨ 2 * (n % d) = d ∧ n / d % 2 = 0)) ∨
      (divHalfEven n d = n / d + 1 ∧ (d < 2 * (n % d) ∨ 2 * (n % d) = d ∧ n / d % 2 = 1)) := by
  unfold divHalfEven
  dsimp only
  split
  · exact .inl ⟨rfl, .inl ‹_›⟩
  · split
    · exact .inr ⟨rfl, .inl ‹_›⟩
    · split
      · exact .inl ⟨rfl, .inr ⟨by omega, ‹_›⟩⟩
      · exact .inr ⟨rfl, .inr ⟨by omega, by omega⟩⟩

/-- `RoundsTo k x`: the number `x` is rounded to `k` or more. It is past the half before `k`, or on
that half where `k` is even. -/
def RoundsTo (k : ℕ) (x : ℚ) : Prop :=
  k - 1 / 2 < x ∨ k - 1 / 2 = x ∧ k % 2 = 0

/-- What is rounded to `k` or more is past `k - 1`. -/
theorem RoundsTo.lt {k : ℕ} {x : ℚ} (h : RoundsTo k x) : (k : ℚ) - 1 < x := by
  rcases h with h | ⟨h, -⟩ <;> linarith

/-- What is `k` or more is rounded to `k` or more. -/
theorem roundsTo_of_le {k : ℕ} {x : ℚ} (h : (k : ℚ) ≤ x) : RoundsTo k x :=
  .inl (by linarith)

/-- To an even `k` the half before it is rounded up. -/
theorem roundsTo_iff_of_even {k : ℕ} {x : ℚ} (hk : k % 2 = 0) : RoundsTo k x ↔ k - 1 / 2 ≤ x := by
  rw [RoundsTo, le_iff_lt_or_eq]
  simp only [hk, and_true]

/-- To an odd `k` the half before it is not rounded up. -/
theorem roundsTo_iff_of_odd {k : ℕ} {x : ℚ} (hk : k % 2 = 1) : RoundsTo k x ↔ k - 1 / 2 < x := by
  simp [RoundsTo, hk]

/-- `k ≤ divHalfEven n d` in natural numbers, with the quotient multiplied out: the cases are those
of `divHalfEven_cases`. -/
theorem le_divHalfEven_iff_nat {n d k : ℕ} (hd : 0 < d) :
    k ≤ divHalfEven n d ↔ 2 * (k * d) < 2 * n + d ∨ 2 * (k * d) = 2 * n + d ∧ k % 2 = 0 := by
  have hn : d * (n / d) + n % d = n := Nat.div_add_mod n d
  have hr : n % d < d := Nat.mod_lt n hd
  have hcases := divHalfEven_cases n d
  -- `k` is at most the quotient, the number behind it, or more
  rcases Nat.lt_trichotomy k (n / d + 1) with hk | rfl | hk
  · have hlow : k * d ≤ d * (n / d) := by
      rw [Nat.mul_comm d]
      exact Nat.mul_le_mul_right d (by omega)
    omega
  · have hnext : (n / d + 1) * d = d * (n / d) + d := by ring
    omega
  · have hhigh : d * (n / d) + 2 * d ≤ k * d := by
      calc d * (n / d) + 2 * d = (n / d + 2) * d := by ring
        _ ≤ k * d := Nat.mul_le_mul_right d (by omega)
    omega

/-- **`divHalfEven n d` is `n / d` rounded** to the number that is nearest, a half going to the even
one. -/
theorem le_divHalfEven_iff {n d k : ℕ} (hd : 0 < d) :
    k ≤ divHalfEven n d ↔ RoundsTo k (n / d) := by
  have hpos : (0 : ℚ) < d := by exact_mod_cast hd
  have hlt : (k - 1 / 2 : ℚ) < n / d ↔ 2 * (k * d) < 2 * n + d := by
    have hcast : 2 * (k * d) < 2 * n + d ↔ (2 * (k * d) : ℚ) < 2 * n + d := by norm_cast
    rw [lt_div_iff₀ hpos, hcast]
    constructor <;> intro h <;> linarith
  have heq : (k - 1 / 2 : ℚ) = n / d ↔ 2 * (k * d) = 2 * n + d := by
    have hcast : 2 * (k * d) = 2 * n + d ↔ (2 * (k * d) : ℚ) = 2 * n + d := by norm_cast
    rw [eq_div_iff hpos.ne', hcast]
    constructor <;> intro h <;> linarith
  rw [le_divHalfEven_iff_nat hd, RoundsTo, hlt, heq]

/-! ## Powers -/

/-- `twoTo e` is a power with a natural exponent, and is not zero. -/
theorem twoTo_pos (e : ℤ) : 0 < twoTo e :=
  Nat.pow_pos (by decide)

/-- `tenTo e` is a power with a natural exponent, and is not zero. -/
theorem tenTo_pos (e : ℤ) : 0 < tenTo e :=
  Nat.pow_pos (by decide)

/-- A power with an exponent of either sign is a quotient of two with natural exponents, of which
one is `1`. -/
theorem pow_toNat_div (b : ℕ) (e : ℤ) :
    (Nat.pow b e.toNat : ℚ) / Nat.pow b (-e).toNat = (b : ℚ) ^ e := by
  obtain ⟨n, rfl | rfl⟩ := e.eq_nat_or_neg
  · have hneg : (-(n : ℤ)).toNat = 0 := by omega
    simp [hneg]
  · have hneg : (-(n : ℤ)).toNat = 0 := by omega
    simp [hneg]

/-- `twoTo e / twoTo (-e) = 2 ^ e`. -/
theorem twoTo_div (e : ℤ) : (twoTo e : ℚ) / twoTo (-e) = 2 ^ e :=
  pow_toNat_div 2 e

/-- `tenTo e / tenTo (-e) = 10 ^ e`. -/
theorem tenTo_div (e : ℤ) : (tenTo e : ℚ) / tenTo (-e) = 10 ^ e :=
  pow_toNat_div 10 e

/-- `2 ^ (e + 1) = 2 * 2 ^ e`, for exponents of either sign. -/
theorem two_zpow_succ (e : ℤ) : (2 : ℚ) ^ (e + 1) = 2 * 2 ^ e := by
  rw [zpow_add_one₀ two_ne_zero, mul_comm]

/-- A number of at most 53 bits at an exponent has at most 52 at a greater one. -/
theorem mul_zpow_le_of_lt {m : ℚ} {e p : ℤ} (hm : m ≤ 2 ^ 53) (hep : e < p) :
    m * 2 ^ e ≤ 2 ^ 52 * 2 ^ p := by
  have hgrow : (2 : ℚ) ^ (e + 1) ≤ 2 ^ p := zpow_le_zpow_right₀ one_le_two hep
  calc m * 2 ^ e ≤ 2 ^ 53 * 2 ^ e := mul_le_mul_of_nonneg_right hm (zpow_pos two_pos e).le
    _ = 2 ^ 52 * 2 ^ (e + 1) := by
      rw [two_zpow_succ]
      ring
    _ ≤ 2 ^ 52 * 2 ^ p := mul_le_mul_of_nonneg_left hgrow (by positivity)

namespace Binary64

variable {num den : ℕ}

/-- `scaled num den e` has a denominator other than zero. -/
theorem scaled_snd_pos (hden : 0 < den) (e : ℤ) : 0 < (scaled num den e).2 :=
  Nat.mul_pos hden (twoTo_pos e)

/-- `scaled num den e` is `num / den` divided by `2 ^ e`. -/
theorem scaled_div (num den : ℕ) (e : ℤ) :
    ((scaled num den e).1 : ℚ) / (scaled num den e).2 = num / den / 2 ^ e := by
  have hneg : (twoTo (-e) : ℚ) ≠ 0 := by exact_mod_cast (twoTo_pos (-e)).ne'
  rw [← twoTo_div e, scaled]
  push_cast
  field_simp

/-! ## The exponent of a fraction -/

/-- `num.log2` and `den.log2` bound the fraction: it lies between `2 ^ 52` and `2 ^ 54` at the
exponent that they tell. -/
theorem bounds_of_log2 (hnum : 0 < num) (hden : 0 < den) :
    (2 : ℚ) ^ 52 * 2 ^ ((num.log2 : ℤ) - den.log2 - 53) ≤ num / den ∧
      (num / den : ℚ) < 2 ^ 54 * 2 ^ ((num.log2 : ℤ) - den.log2 - 53) := by
  have hpos : (0 : ℚ) < den := by exact_mod_cast hden
  have hnumLow : (2 : ℚ) ^ num.log2 ≤ num := by exact_mod_cast Nat.log2_self_le hnum.ne'
  have hnumHigh : (num : ℚ) < 2 ^ (num.log2 + 1) := by exact_mod_cast Nat.lt_log2_self
  have hdenLow : (2 : ℚ) ^ den.log2 ≤ den := by exact_mod_cast Nat.log2_self_le hden.ne'
  have hdenHigh : (den : ℚ) < 2 ^ (den.log2 + 1) := by exact_mod_cast Nat.lt_log2_self
  -- the power splits into those of the two logarithms, so that either bound is read off its own
  -- inequality
  have hsplit : (2 : ℚ) ^ ((num.log2 : ℤ) - den.log2 - 53)
      = 2 ^ num.log2 / 2 ^ den.log2 / 2 ^ 53 := by
    rw [zpow_sub₀ two_ne_zero, zpow_sub₀ two_ne_zero]
    norm_cast
  rw [hsplit]
  constructor
  · rw [le_div_iff₀ hpos]
    calc (2 : ℚ) ^ 52 * (2 ^ num.log2 / 2 ^ den.log2 / 2 ^ 53) * den
        ≤ 2 ^ 52 * (2 ^ num.log2 / 2 ^ den.log2 / 2 ^ 53) * 2 ^ (den.log2 + 1) := by gcongr
      _ = 2 ^ num.log2 := by
        rw [pow_succ (2 : ℚ) den.log2]
        field_simp
      _ ≤ num := hnumLow
  · rw [div_lt_iff₀ hpos]
    calc (num : ℚ) < 2 ^ (num.log2 + 1) := hnumHigh
      _ = 2 ^ 54 * (2 ^ num.log2 / 2 ^ den.log2 / 2 ^ 53) * 2 ^ den.log2 := by
        rw [pow_succ (2 : ℚ) num.log2]
        field_simp
      _ ≤ 2 ^ 54 * (2 ^ num.log2 / 2 ^ den.log2 / 2 ^ 53) * den := by gcongr

/-- `mantissaLimit = 2 ^ 53`: a mantissa has at most 53 bits. -/
theorem mantissaLimit_eq : mantissaLimit = 2 ^ 53 := rfl

/-- **The exponent of a fraction** leaves it less than `2 ^ 53`, and `2 ^ 52` or more unless it is
`minExponent`. -/
theorem exponentFor_bounds (hnum : 0 < num) (hden : 0 < den) :
    (num / den : ℚ) < 2 ^ 53 * 2 ^ exponentFor num den ∧
      (minExponent < exponentFor num den →
        (2 : ℚ) ^ 52 * 2 ^ exponentFor num den ≤ num / den) ∧
      minExponent ≤ exponentFor num den := by
  obtain ⟨hlow, hhigh⟩ := bounds_of_log2 hnum hden
  set guess : ℤ := (num.log2 : ℤ) - den.log2 - 53 with hguess
  have hpow : (0 : ℚ) < 2 ^ guess := zpow_pos two_pos guess
  -- the guess is right, or one too small
  obtain ⟨e, he, hbelow, habove⟩ : ∃ e, exponentFor num den = max minExponent e ∧
      (num / den : ℚ) < 2 ^ 53 * 2 ^ e ∧ (2 : ℚ) ^ 52 * 2 ^ e ≤ num / den := by
    have hpos : 0 < (scaled num den guess).2 := scaled_snd_pos hden guess
    have htest : (scaled num den guess).1 / (scaled num den guess).2 < mantissaLimit
        ↔ (num / den : ℚ) < 2 ^ 53 * 2 ^ guess := by
      rw [← div_lt_iff₀ hpow, ← scaled_div, Nat.div_lt_iff_lt_mul hpos, mantissaLimit_eq,
        div_lt_iff₀ (by exact_mod_cast hpos)]
      norm_cast
    by_cases hfits : (num / den : ℚ) < 2 ^ 53 * 2 ^ guess
    · refine ⟨guess, ?_, hfits, hlow⟩
      simp only [exponentFor, ← hguess, if_pos (htest.2 hfits)]
    · refine ⟨guess + 1, ?_, ?_, ?_⟩
      · simp only [exponentFor, ← hguess, if_neg (mt htest.1 hfits)]
      · rw [two_zpow_succ]
        linarith
      · rw [two_zpow_succ]
        linarith
  rw [he]
  refine ⟨?_, fun hmin => ?_, le_max_left _ _⟩
  · have hgrow : (2 : ℚ) ^ e ≤ 2 ^ max minExponent e :=
      zpow_le_zpow_right₀ one_le_two (le_max_right _ _)
    linarith
  · rwa [max_eq_right (by omega : minExponent ≤ e)]

/-! ## Rounded fractions -/

/-- The mantissa that a fraction is rounded to. -/
def roundedMantissa (num den : ℕ) : ℕ :=
  divHalfEven (scaled num den (exponentFor num den)).1 (scaled num den (exponentFor num den)).2

/-- `roundedMantissa num den` is the fraction at its exponent, rounded. -/
theorem le_roundedMantissa_iff (hden : 0 < den) {k : ℕ} :
    k ≤ roundedMantissa num den ↔ RoundsTo k (num / den / 2 ^ exponentFor num den) := by
  rw [roundedMantissa, le_divHalfEven_iff (scaled_snd_pos hden _), scaled_div]

/-- `roundedMantissa num den` is at most `2 ^ 53`, which the greatest fractions of an exponent are
rounded to. -/
theorem roundedMantissa_le (hnum : 0 < num) (hden : 0 < den) :
    roundedMantissa num den ≤ 2 ^ 53 := by
  by_contra hmore
  have hrounds := (le_roundedMantissa_iff hden).1 (Nat.lt_of_not_le hmore)
  have hbelow := (exponentFor_bounds hnum hden).1
  rw [← div_lt_iff₀ (zpow_pos two_pos _)] at hbelow
  have hlt := hrounds.lt
  push_cast at hlt
  linarith

/-- It is `2 ^ 52` or more, unless the fraction is tiny. -/
theorem le_roundedMantissa (hnum : 0 < num) (hden : 0 < den)
    (hmin : minExponent < exponentFor num den) : 2 ^ 52 ≤ roundedMantissa num den := by
  rw [le_roundedMantissa_iff hden]
  apply roundsTo_of_le
  rw [le_div_iff₀ (zpow_pos two_pos _)]
  exact_mod_cast (exponentFor_bounds hnum hden).2.1 hmin

/-- `x.HasValue v`: the number `x` is finite, not negative, and `v`. -/
def HasValue (x : Binary64) (v : ℚ) : Prop :=
  ∃ m e, x = .finite false m e ∧ m < 2 ^ 53 ∧ v = m * 2 ^ e

/-- **`ofRatio` rounds once**: the number is `roundedMantissa num den` at `exponentFor num den`, or
infinite, where that exponent is too great. -/
theorem ofRatio_cases (hnum : 0 < num) (hden : 0 < den) :
    HasValue (ofRatio false num den) (roundedMantissa num den * 2 ^ exponentFor num den) ∨
      ofRatio false num den = .infinite false ∧ maxExponent ≤ exponentFor num den := by
  have hle := roundedMantissa_le hnum hden
  have hzero : ¬ (num = 0 ∨ den = 0) := by omega
  -- a mantissa of 54 bits is halved
  obtain ⟨m, e, heq, hm, he, hvalue⟩ : ∃ m e, ofRatio false num den
        = (if maxExponent < e then .infinite false else .finite false m e) ∧ m < 2 ^ 53 ∧
      e ≤ exponentFor num den + 1 ∧
      (roundedMantissa num den * 2 ^ exponentFor num den : ℚ) = m * 2 ^ e := by
    by_cases hfull : divHalfEven (scaled num den (exponentFor num den)).1
        (scaled num den (exponentFor num den)).2 = mantissaLimit
    · refine ⟨fullMantissa, exponentFor num den + 1, ?_, by decide, le_rfl, ?_⟩
      · rw [ofRatio, if_neg hzero]
        dsimp only
        rw [if_pos hfull]
      · rw [roundedMantissa, hfull, two_zpow_succ, mantissaLimit_eq, fullMantissa]
        push_cast
        ring
    · refine ⟨roundedMantissa num den, exponentFor num den, ?_, ?_, by omega, rfl⟩
      · rw [ofRatio, if_neg hzero]
        dsimp only
        rw [if_neg hfull]
        rfl
      · exact lt_of_le_of_ne hle fun h => hfull (h.trans mantissaLimit_eq.symm)
  rw [heq, hvalue]
  split
  · next hmax => exact .inr ⟨rfl, by omega⟩
  · exact .inl ⟨m, e, rfl, hm, rfl⟩

/-! ## Reaching a number of the grid -/

/-- `x.Reaches t`: the number `x` is `t` or more. An infinite one reaches every `t`. -/
def Reaches (t : ℚ) : Binary64 → Prop
  | .finite false m e => t ≤ m * 2 ^ e
  | .infinite false => True
  | _ => False

/-- A number with a value reaches `t` if and only if the value does. -/
theorem HasValue.reaches_iff {x : Binary64} {v t : ℚ} (h : HasValue x v) : x.Reaches t ↔ t ≤ v := by
  obtain ⟨m, e, rfl, -, rfl⟩ := h
  rfl

variable {k : ℕ} {p : ℤ}

/-- A fraction with a smaller exponent than `k * 2 ^ p` is rounded to less, and `RoundsTo` says the
same. -/
theorem reaches_ofRatio_of_lt (hnum : 0 < num) (hden : 0 < den) (hlow : 2 ^ 52 < k)
    (hmax : p < maxExponent) (hlt : exponentFor num den < p) :
    ¬ (ofRatio false num den).Reaches (k * 2 ^ p) ∧ ¬ RoundsTo k (num / den / 2 ^ p) := by
  have hp : (0 : ℚ) < 2 ^ p := zpow_pos two_pos p
  have hk : (2 : ℚ) ^ 52 + 1 ≤ k := by exact_mod_cast hlow
  -- `k` is above the least mantissa, so `k - 1` at the exponent `p` is still past every number with
  -- a lower exponent.
  have hprevious : (2 : ℚ) ^ 52 * 2 ^ p ≤ (k - 1) * 2 ^ p :=
    mul_le_mul_of_nonneg_right (by linarith) hp.le
  constructor
  · intro hreaches
    rcases ofRatio_cases hnum hden with hvalue | ⟨-, hfar⟩
    · have hrounded : (roundedMantissa num den : ℚ) ≤ 2 ^ 53 := by
        exact_mod_cast roundedMantissa_le hnum hden
      have hvalueLe := mul_zpow_le_of_lt hrounded hlt
      rw [hvalue.reaches_iff] at hreaches
      linarith
    · -- out of range means an exponent from `maxExponent` on, and `p` is below that
      omega
  · intro hrounds
    have hpast : (k - 1) * 2 ^ p < (num / den : ℚ) := by
      rw [← lt_div_iff₀ hp]
      exact hrounds.lt
    have hbelow := (exponentFor_bounds hnum hden).1
    have hfits := mul_zpow_le_of_lt (le_refl ((2 : ℚ) ^ 53)) hlt
    linarith

/-- A fraction with a greater exponent than `k * 2 ^ p` is rounded to no less, and `RoundsTo` says
the same. -/
theorem reaches_ofRatio_of_gt (hnum : 0 < num) (hden : 0 < den) (hhigh : k ≤ 2 ^ 53)
    (hmin : minExponent ≤ p) (hgt : p < exponentFor num den) :
    (ofRatio false num den).Reaches (k * 2 ^ p) ∧ RoundsTo k (num / den / 2 ^ p) := by
  have hnormal : minExponent < exponentFor num den := by omega
  have hkhigh : (k : ℚ) ≤ 2 ^ 53 := by exact_mod_cast hhigh
  have hreach : (k * 2 ^ p : ℚ) ≤ 2 ^ 52 * 2 ^ exponentFor num den := mul_zpow_le_of_lt hkhigh hgt
  constructor
  · rcases ofRatio_cases hnum hden with hvalue | ⟨hinfinite, -⟩
    · have hmantissa : (2 : ℚ) ^ 52 ≤ roundedMantissa num den := by
        exact_mod_cast le_roundedMantissa hnum hden hnormal
      rw [hvalue.reaches_iff]
      exact hreach.trans (mul_le_mul_of_nonneg_right hmantissa (zpow_pos two_pos _).le)
    · rw [hinfinite]
      trivial
  · apply roundsTo_of_le
    rw [le_div_iff₀ (zpow_pos two_pos p)]
    exact hreach.trans ((exponentFor_bounds hnum hden).2.1 hnormal)

/-- **When `ofRatio` reaches `k * 2 ^ p`**: measured in the last place of that number, the fraction
is rounded to `k` or more. At its own exponent this is `le_roundedMantissa_iff`; smaller and greater
ones were treated before. -/
theorem reaches_ofRatio_iff (hnum : 0 < num) (hden : 0 < den) (hlow : 2 ^ 52 < k)
    (hhigh : k ≤ 2 ^ 53) (hmin : minExponent ≤ p) (hmax : p < maxExponent) :
    (ofRatio false num den).Reaches (k * 2 ^ p) ↔ RoundsTo k (num / den / 2 ^ p) := by
  -- only at the exponent of the number itself does the rounding decide
  rcases lt_trichotomy (exponentFor num den) p with hlt | heq | hgt
  · obtain ⟨hless, hdown⟩ := reaches_ofRatio_of_lt hnum hden hlow hmax hlt
    exact iff_of_false hless hdown
  · rw [← heq]
    rcases ofRatio_cases hnum hden with hvalue | ⟨-, hfar⟩
    · rw [hvalue.reaches_iff, mul_le_mul_iff_left₀ (zpow_pos two_pos _), Nat.cast_le,
        le_roundedMantissa_iff hden]
    · omega
  · obtain ⟨hmore, hup⟩ := reaches_ofRatio_of_gt hnum hden hhigh hmin hgt
    exact iff_of_true hmore hup

/-- **There is no number between `(k - 1) * 2 ^ p` and `k * 2 ^ p`**: what is past the one reaches
the other. -/
theorem HasValue.reaches_of_lt {x : Binary64} {v : ℚ} (h : HasValue x v) (hlow : 2 ^ 52 < k)
    (hlt : (k - 1) * 2 ^ p < v) : k * 2 ^ p ≤ v := by
  obtain ⟨m, e, -, hm, rfl⟩ := h
  have hp : (0 : ℚ) < 2 ^ p := zpow_pos two_pos p
  rcases lt_or_ge e p with hep | hpe
  · -- at a smaller exponent, a mantissa of 53 bits does not come past the one before
    have hm53 : (m : ℚ) ≤ 2 ^ 53 := by exact_mod_cast hm.le
    have hk : (2 : ℚ) ^ 52 + 1 ≤ k := by exact_mod_cast hlow
    have hprevious : (2 : ℚ) ^ 52 * 2 ^ p ≤ (k - 1) * 2 ^ p :=
      mul_le_mul_of_nonneg_right (by linarith) hp.le
    have hvalueLe := mul_zpow_le_of_lt hm53 hep
    linarith
  · -- otherwise both are whole multiples of the smaller power
    obtain ⟨j, hj⟩ := Int.eq_ofNat_of_zero_le (sub_nonneg.2 hpe)
    have hvalue : (m * 2 ^ e : ℚ) = (m * 2 ^ j : ℕ) * 2 ^ p := by
      rw [show e = (j : ℤ) + p by omega, zpow_add₀ two_ne_zero, zpow_natCast]
      push_cast
      ring
    rw [hvalue] at hlt ⊢
    have hless : (k : ℚ) - 1 < (m * 2 ^ j : ℕ) := lt_of_mul_lt_mul_right hlt hp.le
    have hless' : (k : ℚ) < (m * 2 ^ j + 1 : ℕ) := by
      push_cast at hless ⊢
      linarith
    have hle : k ≤ m * 2 ^ j := Nat.lt_succ_iff.1 (by exact_mod_cast hless')
    exact mul_le_mul_of_nonneg_right (by exact_mod_cast hle) hp.le

/-! ## Numbers that are not negative -/

/-- `x.IsAmount`: the number is finite and not negative, or infinite and positive. -/
def IsAmount (x : Binary64) : Prop :=
  (∃ v, HasValue x v) ∨ x = .infinite false

/-- `zero false` has the value `0`. -/
theorem hasValue_zero : HasValue (zero false) 0 :=
  ⟨0, minExponent, rfl, by decide, by simp⟩

/-- `ofRatio false num den` is an amount. -/
theorem isAmount_ofRatio (num den : ℕ) : IsAmount (ofRatio false num den) := by
  by_cases hzero : num = 0 ∨ den = 0
  · rw [ofRatio, if_pos hzero]
    exact .inl ⟨0, hasValue_zero⟩
  · rcases ofRatio_cases (by omega : 0 < num) (by omega : 0 < den) with hvalue | ⟨hinfinite, -⟩
    · exact .inl ⟨_, hvalue⟩
    · exact .inr hinfinite

/-- `ofDecimal false digits shift` is an amount. -/
theorem isAmount_ofDecimal (digits : List Char) (shift : ℤ) :
    IsAmount (ofDecimal false digits shift) := by
  unfold ofDecimal
  dsimp only
  split
  · exact .inl ⟨0, hasValue_zero⟩
  · split
    · exact .inr rfl
    · split
      · exact .inl ⟨0, hasValue_zero⟩
      · exact isAmount_ofRatio _ _

/-- `RoundsTo k x` needs more than `1` where `k` has 53 bits. -/
theorem not_roundsTo_of_le_one {k : ℕ} {x : ℚ} (hlow : 2 ^ 52 < k) (hx : x ≤ 1) :
    ¬ RoundsTo k x := by
  intro h
  have hlt : (k : ℚ) - 1 < x := h.lt
  have hk : (2 : ℚ) < k := by exact_mod_cast (by decide : 2 < 2 ^ 52).trans hlow
  linarith

/-- `zero false` reaches no positive number. -/
theorem not_reaches_zero {t : ℚ} (ht : 0 < t) : ¬ (zero false).Reaches t := by
  rw [hasValue_zero.reaches_iff]
  exact not_le.2 ht

/-- `x.scale a b` is an amount where `x` is one. -/
theorem isAmount_scale {x : Binary64} (h : IsAmount x) (a b : ℕ) : IsAmount (x.scale a b) := by
  rcases h with ⟨v, m, e, rfl, -, -⟩ | rfl
  · exact isAmount_ofRatio _ _
  · exact .inr rfl

/-- **`x.scale a b` rounds once**: it reaches `k * 2 ^ p` where the exact product `v * (a / b)` is
rounded to `k` or more in the last place of that number. -/
theorem HasValue.reaches_scale_iff {x : Binary64} {v : ℚ} (h : HasValue x v) {a b : ℕ} (ha : 0 < a)
    (hb : 0 < b) (hlow : 2 ^ 52 < k) (hhigh : k ≤ 2 ^ 53) (hmin : 0 ≤ p)
    (hmax : p < maxExponent) :
    (x.scale a b).Reaches (k * 2 ^ p) ↔ RoundsTo k (v * (a / b) / 2 ^ p) := by
  obtain ⟨m, e, rfl, -, rfl⟩ := h
  have hk : (0 : ℚ) < k := by exact_mod_cast (Nat.zero_lt_of_lt hlow)
  rcases Nat.eq_zero_or_pos m with rfl | hm
  · refine iff_of_false ?_ ?_
    · rw [scale, ofRatio, if_pos (Or.inl (by simp))]
      exact not_reaches_zero (mul_pos hk (zpow_pos two_pos p))
    · exact not_roundsTo_of_le_one hlow (by simp)
  · have hvalue : ((m * twoTo e * a : ℕ) / (b * twoTo (-e) : ℕ) : ℚ) = m * 2 ^ e * (a / b) := by
      rw [← twoTo_div e]
      push_cast
      ring
    rw [scale, reaches_ofRatio_iff (Nat.mul_pos (Nat.mul_pos hm (twoTo_pos e)) ha)
      (Nat.mul_pos hb (twoTo_pos (-e))) hlow hhigh (le_trans (by decide) hmin) hmax, hvalue]

/-! ## Decimal notation -/

/-- A number of `l` decimal digits lies between `10 ^ (l - 1)` and `10 ^ l`. -/
theorem bounds_of_toDigits {n : ℕ} (hn : 0 < n) :
    (10 : ℚ) ^ ((Nat.toDigits 10 n).length - 1 : ℤ) ≤ n ∧
      (n : ℚ) < 10 ^ ((Nat.toDigits 10 n).length : ℤ) := by
  have hlength : 0 < (Nat.toDigits 10 n).length := Nat.length_toDigits_pos
  constructor
  · obtain ⟨l, hl⟩ : ∃ l, (Nat.toDigits 10 n).length = l + 1 :=
      ⟨_, (Nat.succ_pred_eq_of_pos hlength).symm⟩
    rw [hl, Nat.cast_add_one, add_sub_cancel_right, zpow_natCast]
    rcases Nat.eq_zero_or_pos l with rfl | hpos
    · -- one digit: the lower bound is `1 ≤ n`
      exact_mod_cast hn
    · have hmore : ¬ n < 10 ^ l := by
        rw [← Nat.length_toDigits_le_iff (by decide) hpos]
        omega
      exact_mod_cast Nat.le_of_not_lt hmore
  · have hless : n < 10 ^ (Nat.toDigits 10 n).length :=
      (Nat.length_toDigits_le_iff (by decide) hlength).1 le_rfl
    rw [zpow_natCast]
    exact_mod_cast hless

/-- **`ofDecimal` rounds once**: it reaches `k * 2 ^ p` where the exact decimal number is rounded to
`k` or more in the last place. The shortcuts for numbers far outside the range are right: what they
answer is what rounding would. -/
theorem reaches_ofDecimal_iff (digits : List Char) (shift : ℤ) (hlow : 2 ^ 52 < k)
    (hhigh : k ≤ 2 ^ 53) (hmin : 0 ≤ p) (hmax : p ≤ 100) :
    (ofDecimal false digits shift).Reaches (k * 2 ^ p)
      ↔ RoundsTo k (Nat.ofDigitChars 10 digits 0 * 10 ^ shift / 2 ^ p) := by
  set n := Nat.ofDigitChars 10 digits 0 with hdef
  have hk : (0 : ℚ) < k := by exact_mod_cast (Nat.zero_lt_of_lt hlow)
  have hpow : (0 : ℚ) < 2 ^ p := zpow_pos two_pos p
  have hpowLow : (1 : ℚ) ≤ 2 ^ p := one_le_zpow₀ one_le_two hmin
  rw [ofDecimal, ← hdef]
  dsimp only
  split
  · next hzero =>
    refine iff_of_false (not_reaches_zero (mul_pos hk hpow)) ?_
    exact not_roundsTo_of_le_one hlow (by simp [hzero])
  · next hzero =>
    obtain ⟨hbelow, habove⟩ := bounds_of_toDigits (Nat.pos_of_ne_zero hzero)
    have htenPos : (0 : ℚ) < 10 ^ shift := zpow_pos (by norm_num) shift
    split
    · next hlarge =>
      -- the number is beyond everything of the grid
      refine iff_of_true trivial (roundsTo_of_le ?_)
      rw [le_div_iff₀ hpow]
      calc (k * 2 ^ p : ℚ) ≤ 2 ^ 53 * 2 ^ (100 : ℤ) := by
            have hk53 : (k : ℚ) ≤ 2 ^ 53 := by exact_mod_cast hhigh
            exact mul_le_mul hk53 (zpow_le_zpow_right₀ one_le_two hmax) hpow.le (by positivity)
        _ ≤ 10 ^ (100 : ℤ) := by norm_num
        _ ≤ 10 ^ ((Nat.toDigits 10 n).length - 1 + shift : ℤ) :=
            zpow_le_zpow_right₀ (by norm_num) (by omega)
        _ = 10 ^ ((Nat.toDigits 10 n).length - 1 : ℤ) * 10 ^ shift := zpow_add₀ (by norm_num) _ _
        _ ≤ n * 10 ^ shift := mul_le_mul_of_nonneg_right hbelow htenPos.le
    · split
      · next hsmall =>
        -- the number is less than any with a mantissa of 53 bits
        refine iff_of_false (not_reaches_zero (mul_pos hk hpow)) (not_roundsTo_of_le_one hlow ?_)
        rw [div_le_one hpow]
        calc (n * 10 ^ shift : ℚ) ≤ 10 ^ ((Nat.toDigits 10 n).length : ℤ) * 10 ^ shift :=
              mul_le_mul_of_nonneg_right habove.le htenPos.le
          _ = 10 ^ ((Nat.toDigits 10 n).length + shift : ℤ) := (zpow_add₀ (by norm_num) _ _).symm
          _ ≤ 10 ^ (0 : ℤ) := zpow_le_zpow_right₀ (by norm_num) (by omega)
          _ ≤ 2 ^ p := by simpa using hpowLow
      · have hvalue : ((n * tenTo shift : ℕ) / tenTo (-shift) : ℚ) = n * 10 ^ shift := by
          rw [← tenTo_div shift]
          push_cast
          ring
        rw [reaches_ofRatio_iff (Nat.mul_pos (Nat.pos_of_ne_zero hzero) (tenTo_pos shift))
          (tenTo_pos (-shift)) hlow hhigh (le_trans (by decide) hmin)
          (lt_of_le_of_lt hmax (by decide)), hvalue]

end Binary64

end MountKeeper
