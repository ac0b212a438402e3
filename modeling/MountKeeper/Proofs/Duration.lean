import MountKeeper.Configuration
import MountKeeper.Proofs.Binary64
import Mathlib.Data.List.TakeWhile

/-! # Durations that are out of range

A duration is read as a decimal number of units, rounded to binary floating point, brought to
seconds with a second rounding, and converted to nanoseconds. The conversion has room for less than
`2 ^ 64` seconds and no answer beyond; nothing in front of it keeps a number from being that large.

* `Duration.exists_decimal_of_reads`, `Duration.Decimal.reads`: what is read in front of a unit.
* `Duration.ofBinary64?_eq_none_iff`: what the conversion has no room for.
* `Duration.exceeds_iff`: how large the number has to be for that, unit by unit.
* `Duration.outOfRange_iff_overlong`: the texts and the settings that are out of range. -/

namespace MountKeeper

namespace Duration

/-! ## Numbers in front of a unit -/

/-- The value of a number in decimal notation without sign and exponent: digits, with at most one
point before, among or behind them. -/
inductive Decimal : List Char → ℚ → Prop where
  /-- A whole number. -/
  | whole {ds : List Char} (hsome : ds ≠ []) (hdigits : ∀ c ∈ ds, c.isDigit) :
    Decimal ds (Nat.ofDigitChars 10 ds 0)
  /-- A number with a point, and digits on one side of it at least. -/
  | point {ds fs : List Char} (hsome : ds ++ fs ≠ []) (hdigits : ∀ c ∈ ds ++ fs, c.isDigit) :
    Decimal (ds ++ '.' :: fs) (Nat.ofDigitChars 10 (ds ++ fs) 0 / 10 ^ fs.length)

/-- `takeWhile p` and `dropWhile p` of `run ++ rest`: a run of characters that pass a test ends at
the first one that fails it. -/
theorem span_append {p : Char → Bool} {run : List Char} (hrun : ∀ c ∈ run, p c) (rest : List Char)
    (hrest : rest.head?.any p = false) :
    (run ++ rest).takeWhile p = run ∧ (run ++ rest).dropWhile p = rest := by
  rw [List.takeWhile_append_of_pos hrun, List.dropWhile_append_of_pos hrun]
  cases rest with
  | nil => simp
  | cons c cs =>
    have hc : p c = false := hrest
    simp [hc]

/-- A `Decimal` number is made of digits and points. -/
theorem isNumberChar_of_decimal {cs : List Char} {n : ℚ} (h : Decimal cs n) :
    ∀ c ∈ cs, isNumberChar c := by
  intro c hc
  cases h with
  | whole _ hdigits => simp [isNumberChar, hdigits c hc]
  | @point ds fs _ hdigits =>
    rcases List.mem_append.1 hc with hc | hc
    · simp [isNumberChar, hdigits c (List.mem_append_left _ hc)]
    · rcases List.mem_cons.1 hc with rfl | hc
      · rfl
      · simp [isNumberChar, hdigits c (List.mem_append_right _ hc)]

/-- **A decimal number is read** as `.ofDecimal false digits shift`: its digits with the point moved
behind them. -/
theorem Decimal.reads {cs : List Char} {n : ℚ} (h : Decimal cs n) :
    ∃ digits shift, Binary64.readUnsigned? false cs = some (.ofDecimal false digits shift) ∧
      n = Nat.ofDigitChars 10 digits 0 * 10 ^ shift := by
  cases h with
  | whole hsome hdigits =>
    refine ⟨cs, 0, ?_, by simp⟩
    simp [Binary64.readUnsigned?, List.takeWhile_eq_self_iff.2 hdigits,
      List.dropWhile_eq_nil_iff.2 hdigits, Binary64.readExponent?, hsome]
  | @point ds fs hsome hdigits =>
    have hfront := span_append (fun c hc => hdigits c (List.mem_append_left fs hc)) ('.' :: fs) rfl
    have hback : ∀ c ∈ fs, c.isDigit = true := fun c hc => hdigits c (List.mem_append_right ds hc)
    have hempty : (ds.isEmpty && fs.isEmpty) = false := by
      simpa using hsome
    refine ⟨ds ++ fs, -fs.length, ?_, by simp [div_eq_mul_inv]⟩
    simp [Binary64.readUnsigned?, hfront, List.takeWhile_eq_self_iff.2 hback,
      List.dropWhile_eq_nil_iff.2 hback, hempty, Binary64.readExponent?]

/-- The character behind the digits of a number is a point, as nothing else is a number character.
-/
theorem eq_point_of_dropWhile {cs rest : List Char} {c : Char} (hcs : ∀ b ∈ cs, isNumberChar b)
    (h : cs.dropWhile Char.isDigit = c :: rest) : c = '.' ∧ ∀ b ∈ rest, isNumberChar b := by
  have hmem : ∀ b ∈ c :: rest, isNumberChar b := by
    intro b hb
    rw [← h] at hb
    exact hcs b ((List.dropWhile_suffix Char.isDigit).subset hb)
  have hstop : c.isDigit = false := by
    have hhead := List.head?_dropWhile_not Char.isDigit cs
    simpa [h] using hhead
  have hc := hmem c List.mem_cons_self
  exact ⟨by simpa [isNumberChar, hstop] using hc, fun b hb => hmem b (List.mem_cons_of_mem c hb)⟩

/-- **What is read is a `Decimal` number**, if it is made of digits and points. -/
theorem exists_decimal_of_reads {cs : List Char} {x : Binary64} (hcs : ∀ c ∈ cs, isNumberChar c)
    (h : Binary64.readUnsigned? false cs = some x) : ∃ n, Decimal cs n := by
  have hall : ∀ c ∈ cs.takeWhile Char.isDigit, c.isDigit = true :=
    fun c hc => List.mem_takeWhile_imp hc
  have hsplit : cs.takeWhile Char.isDigit ++ cs.dropWhile Char.isDigit = cs :=
    List.takeWhile_append_dropWhile
  cases hrest : cs.dropWhile Char.isDigit with
  | nil =>
    rw [hrest, List.append_nil] at hsplit
    rw [hsplit] at hall
    have hsome : cs ≠ [] := by
      rintro rfl
      exact absurd h (by simp [Binary64.readUnsigned?])
    exact ⟨_, .whole hsome hall⟩
  | cons c rest =>
    obtain ⟨rfl, hrestChars⟩ := eq_point_of_dropWhile hcs hrest
    simp only [Binary64.readUnsigned?, hrest] at h
    have hsome : cs.takeWhile Char.isDigit ++ rest.takeWhile Char.isDigit ≠ [] := by
      intro hnone
      rw [if_pos (by simpa using hnone)] at h
      exact absurd h (by simp)
    -- a second point would stand where the exponent is
    have hend : rest.dropWhile Char.isDigit = [] := by
      cases hmore : rest.dropWhile Char.isDigit with
      | nil => rfl
      | cons d ds =>
        obtain ⟨rfl, -⟩ := eq_point_of_dropWhile hrestChars hmore
        exact absurd h (by simp [hmore, Binary64.readExponent?])
    have hrestAll : rest.takeWhile Char.isDigit = rest :=
      List.takeWhile_eq_self_iff.2 (List.dropWhile_eq_nil_iff.1 hend)
    have hdigits : ∀ c ∈ cs.takeWhile Char.isDigit ++ rest, c.isDigit = true := by
      intro c hc
      rcases List.mem_append.1 hc with hc | hc
      · exact hall c hc
      · exact List.dropWhile_eq_nil_iff.1 hend c hc
    rw [hrestAll] at hsome
    rw [← hsplit, hrest]
    exact ⟨_, .point hsome hdigits⟩

/-! ## The limit -/

variable {x : Binary64} {v : ℚ} {k : ℕ} {p : ℤ}

/-- **Out of range** are exactly the numbers of `2 ^ 64` seconds and more: rounding to nanoseconds
does not get there from below. -/
theorem ofBinary64?_eq_none_iff (hx : x.IsAmount) :
    ofBinary64? x = none ↔ x.Reaches ((2 ^ 53 : ℕ) * 2 ^ (11 : ℤ)) := by
  rcases hx with ⟨v, hv⟩ | rfl
  · rw [hv.reaches_iff]
    -- the numbers just below `2 ^ 64` lie `2 ^ 11` apart, too far for one of them to round up to it
    -- as nanoseconds
    have hgrid := hv.reaches_of_lt (k := 2 ^ 53) (p := 11) (by decide)
    obtain ⟨m, e, rfl, -, rfl⟩ := hv
    -- `2 ^ 53 * 2 ^ 11` is `2 ^ 64`, the first number of seconds that does not fit.
    have hlimit : (limit : ℚ) = 2 ^ 64 * 10 ^ 9 := by norm_num [limit, perSecond]
    have hrounded : limit ≤ roundedNanoseconds m e ↔ RoundsTo limit (m * 2 ^ e * 10 ^ 9) := by
      rw [roundedNanoseconds, le_divHalfEven_iff (twoTo_pos (-e)), ← twoTo_div e]
      have hseconds : (perSecond : ℚ) = 10 ^ 9 := by norm_num [perSecond]
      push_cast
      rw [hseconds, mul_div_right_comm, mul_div_assoc]
    rw [ofBinary64?, ite_eq_right_iff]
    simp only [reduceCtorEq, imp_false, Nat.not_lt]
    rw [hrounded]
    norm_num at hgrid ⊢
    constructor
    · intro h
      have hlt := h.lt
      apply hgrid
      rw [hlimit] at hlt
      linarith
    · intro h
      apply roundsTo_of_le
      rw [hlimit]
      linarith
  · exact iff_of_true rfl trivial

/-- **A binary number of units is out of range** when it reaches `k * 2 ^ p`, if so many units are
the first that are rounded to `2 ^ 64` seconds. -/
theorem scale_eq_none_iff (hx : x.IsAmount) {a b : ℕ} (ha : 0 < a) (hb : 0 < b) (hlow : 2 ^ 52 < k)
    (hbelow : ((k : ℚ) - 1) * 2 ^ p * (a / b) < 2 ^ 64 - 2 ^ 10)
    (habove : (2 : ℚ) ^ 64 - 2 ^ 10 ≤ k * 2 ^ p * (a / b)) :
    ofBinary64? (x.scale a b) = none ↔ x.Reaches (k * 2 ^ p) := by
  rw [ofBinary64?_eq_none_iff (Binary64.isAmount_scale hx a b)]
  rcases hx with ⟨v, hv⟩ | rfl
  · have hfactor : (0 : ℚ) < a / b := div_pos (by exact_mod_cast ha) (by exact_mod_cast hb)
    have hgrid : (k - 1) * 2 ^ p < v → k * 2 ^ p ≤ v := hv.reaches_of_lt hlow
    rw [hv.reaches_scale_iff ha hb (by decide) le_rfl (by decide) (by decide), hv.reaches_iff,
      roundsTo_iff_of_even (by decide), le_div_iff₀ (by norm_num)]
    norm_num at hbelow habove ⊢
    constructor
    · -- less than the first of them is at most the one before it, which is too little
      intro h
      by_contra hless
      have hprevious : v ≤ (k - 1) * 2 ^ p := not_lt.1 (mt hgrid hless)
      have hscaled : v * (a / b) ≤ (k - 1) * 2 ^ p * (a / b) :=
        mul_le_mul_of_nonneg_right hprevious hfactor.le
      linarith
    · intro h
      have hscaled : k * 2 ^ p * (a / b) ≤ v * (a / b) := mul_le_mul_of_nonneg_right h hfactor.le
      linarith
  · exact iff_of_true trivial trivial

/-- **A decimal number of units is out of range** when it is `RoundsTo k` at the binade `2 ^ p`,
where `k * 2 ^ p` is the first number whose scaling is out of range, by `hbelow` and `habove`. -/
theorem scale_eq_none_iff_roundsTo {number : List Char} {n : ℚ} (hnumber : Decimal number n)
    (hread : Binary64.readUnsigned? false number = some x) {a b : ℕ} (ha : 0 < a) (hb : 0 < b)
    (hlow : 2 ^ 52 < k) (hhigh : k ≤ 2 ^ 53) (hmin : 0 ≤ p) (hmax : p ≤ 100)
    (hbelow : ((k : ℚ) - 1) * 2 ^ p * (a / b) < 2 ^ 64 - 2 ^ 10)
    (habove : (2 : ℚ) ^ 64 - 2 ^ 10 ≤ k * 2 ^ p * (a / b)) :
    ofBinary64? (x.scale a b) = none ↔ RoundsTo k (n / 2 ^ p) := by
  obtain ⟨digits, shift, hdecimal, rfl⟩ := hnumber.reads
  obtain rfl : Binary64.ofDecimal false digits shift = x := by
    simpa [hdecimal] using hread
  rw [scale_eq_none_iff (Binary64.isAmount_ofDecimal digits shift) ha hb hlow hbelow habove,
    Binary64.reaches_ofDecimal_iff digits shift hlow hhigh hmin hmax]

/-- **How much is too much** of a unit. The number is rounded, and but for seconds rounded once more
when it is brought to seconds. Each bound is half-way between two neighbours with 53 bits, of which
the greater one is the first that comes to `2 ^ 64` seconds; half-way itself is rounded up where the
greater one is even. -/
def Exceeds (unit : String) (n : ℚ) : Prop :=
  if unit = "" ∨ unit = "s" then 2 ^ 64 - 2 ^ 10 ≤ n
  else if unit = "ms" then 1000 * 2 ^ 64 - 2 ^ 20 ≤ n
  else if unit = "m" then 307445734561825824 < n
  else if unit = "h" then 10248191152060861 / 2 < n
  else False

/-- **A number of units is out of range** exactly when it is `Exceeds unit`. -/
theorem exceeds_iff {number : List Char} {n : ℚ} (hnumber : Decimal number n)
    (hread : Binary64.readUnsigned? false number = some x) {unit : String} {a b : ℕ}
    (hunit : unitFactor? unit = some (a, b)) :
    ofBinary64? (x.scale a b) = none ↔ Exceeds unit n := by
  unfold unitFactor? at hunit
  -- per unit, `k * 2 ^ p` is the first value that is too long. A text rounds to it from half a
  -- step below, and the half itself counts where `k` is even.
  unfold Exceeds
  split_ifs at hunit ⊢ <;> cases hunit
  · rw [scale_eq_none_iff_roundsTo (k := 2 ^ 53) (p := 11) hnumber hread (by decide) (by decide)
      (by decide) le_rfl (by decide) (by decide) (by norm_num) (by norm_num),
      roundsTo_iff_of_even (by decide), le_div_iff₀ (by norm_num)]
    norm_num
  · rw [scale_eq_none_iff_roundsTo (k := 1000 * 2 ^ 43) (p := 21) hnumber hread (by decide)
      (by decide) (by decide) (by decide) (by decide) (by decide) (by norm_num) (by norm_num),
      roundsTo_iff_of_even (by decide), le_div_iff₀ (by norm_num)]
    norm_num
  · rw [scale_eq_none_iff_roundsTo (k := 4803839602528529) (p := 6) hnumber hread (by decide)
      (by decide) (by decide) (by decide) (by decide) (by decide) (by norm_num) (by norm_num),
      roundsTo_iff_of_odd (by decide), lt_div_iff₀ (by norm_num)]
    norm_num
  · rw [scale_eq_none_iff_roundsTo (k := 5124095576030431) (p := 0) hnumber hread (by decide)
      (by decide) (by decide) (by decide) (by decide) (by decide) (by norm_num) (by norm_num),
      roundsTo_iff_of_odd (by decide), lt_div_iff₀ (by norm_num)]
    norm_num

/-! ## Texts -/

/-- The seconds that a text asks for, a binary number, before they are made a duration. -/
def asked (s : String) : Except DurationError Binary64 :=
  let cs := Text.trim s.toList
  let text := String.ofList cs
  let unit := String.ofList (cs.dropWhile isNumberChar)
  match Binary64.readUnsigned? false (cs.takeWhile isNumberChar) with
  | none => .error (.malformed text)
  | some value =>
    match unitFactor? unit with
    | none => .error (.unknownUnit unit text)
    | some (num, den) => .ok (value.scale num den)

/-- `parse s` is `asked s`, and then the conversion `ofBinary64?` of what the text asks for. -/
theorem parse_eq (s : String) :
    parse s = (asked s).bind fun x => (ofBinary64? x).elim (.error .outOfRange) .ok := by
  unfold parse asked
  dsimp only
  cases Binary64.readUnsigned? false ((Text.trim s.toList).takeWhile isNumberChar) with
  | none => rfl
  | some value =>
    dsimp only
    cases unitFactor? (String.ofList ((Text.trim s.toList).dropWhile isNumberChar)) with
    | none => rfl
    | some factor =>
      obtain ⟨a, b⟩ := factor
      simp only [Except.bind]
      cases ofBinary64? (value.scale a b) <;> rfl

/-- That a text, blanks at its ends aside, is a decimal number of units that is too much. -/
def Overlong (s : String) : Prop :=
  ∃ number unit n, Text.trim s.toList = number ++ unit.toList ∧ Decimal number n ∧ Exceeds unit n

/-- `Exceeds unit n` holds only of a unit that there is. -/
theorem exists_unitFactor_of_exceeds {unit : String} {n : ℚ} (h : Exceeds unit n) :
    ∃ a b, unitFactor? unit = some (a, b) := by
  unfold Exceeds at h
  unfold unitFactor?
  split_ifs at h ⊢ <;> exact ⟨_, _, rfl⟩

/-- A unit does not start with a character of the number in front of it, so that a text is cut
between them in one way only. -/
theorem isNumberChar_of_unitFactor {unit : String} {a b : ℕ} (h : unitFactor? unit = some (a, b)) :
    unit.toList.head?.any isNumberChar = false := by
  unfold unitFactor? at h
  split_ifs at h with hseconds hmillis hminutes hhours
  · rcases hseconds with rfl | rfl <;> rfl
  · rw [hmillis]
    rfl
  · rw [hminutes]
    rfl
  · rw [hhours]
    rfl

/-- **What a text asks for** is a `Decimal` number of units, for a unit that there is. -/
theorem asked_eq_ok_iff {s : String} : asked s = .ok x ↔
    ∃ number unit n value a b, Text.trim s.toList = number ++ unit.toList ∧ Decimal number n ∧
      Binary64.readUnsigned? false number = some value ∧ unitFactor? unit = some (a, b) ∧
      value.scale a b = x := by
  constructor
  · intro h
    unfold asked at h
    dsimp only at h
    split at h
    · cases h
    · next value hvalue =>
      split at h
      · cases h
      · next a b hunit =>
        -- the number is what the reader took: the longest front of number characters
        have hchars : ∀ c ∈ (Text.trim s.toList).takeWhile isNumberChar, isNumberChar c = true :=
          fun c hc => List.mem_takeWhile_imp hc
        obtain ⟨n, hn⟩ := exists_decimal_of_reads hchars hvalue
        refine ⟨_, _, n, value, a, b, ?_, hn, hvalue, hunit, by simpa using h⟩
        rw [String.toList_ofList, List.takeWhile_append_dropWhile]
  · rintro ⟨number, unit, n, value, a, b, hsplit, hnumber, hvalue, hunit, rfl⟩
    -- no unit starts with a number character, so the split is the one given
    obtain ⟨htake, hdrop⟩ := span_append (isNumberChar_of_decimal hnumber) unit.toList
      (isNumberChar_of_unitFactor hunit)
    simp only [asked, hsplit, htake, hdrop, hvalue, String.ofList_toList, hunit]

/-- `asked s = .ok x`: `x.IsAmount`, as it is never negative, and always a number. -/
theorem isAmount_of_asked {s : String} (h : asked s = .ok x) : x.IsAmount := by
  obtain ⟨number, unit, n, value, a, b, -, hnumber, hvalue, -, rfl⟩ := asked_eq_ok_iff.1 h
  obtain ⟨digits, shift, hdecimal, -⟩ := hnumber.reads
  obtain rfl : Binary64.ofDecimal false digits shift = value := by
    simpa [hdecimal] using hvalue
  exact Binary64.isAmount_scale (Binary64.isAmount_ofDecimal digits shift) a b

/-- `asked s` is never `.outOfRange`, since what a text asks for has no upper limit. -/
theorem asked_ne_outOfRange {s : String} : asked s ≠ .error .outOfRange := by
  unfold asked
  dsimp only
  split
  · simp
  · split <;> simp

/-- `parse s = .error .outOfRange` comes from the conversion only. -/
theorem parse_eq_outOfRange_iff_asked {s : String} :
    parse s = .error .outOfRange ↔ ∃ x, asked s = .ok x ∧ ofBinary64? x = none := by
  rw [parse_eq]
  constructor
  · intro h
    cases hasked : asked s with
    | error e =>
      rw [hasked] at h
      cases h
      exact absurd hasked asked_ne_outOfRange
    | ok x =>
      refine ⟨x, rfl, ?_⟩
      rw [hasked] at h
      cases hx : ofBinary64? x with
      | none => rfl
      | some d =>
        simp [Except.bind, hx] at h
  · rintro ⟨x, hasked, hnone⟩
    rw [hasked]
    simp [Except.bind, hnone]

/-- **A text is out of range** exactly when it is `Overlong`: a decimal number of units that is too
much. -/
theorem parse_eq_outOfRange_iff {s : String} : parse s = .error .outOfRange ↔ Overlong s := by
  rw [parse_eq_outOfRange_iff_asked]
  constructor
  · rintro ⟨x, hasked, hnone⟩
    obtain ⟨number, unit, n, value, a, b, hsplit, hnumber, hvalue, hunit, rfl⟩ :=
      asked_eq_ok_iff.1 hasked
    exact ⟨number, unit, n, hsplit, hnumber, (exceeds_iff hnumber hvalue hunit).1 hnone⟩
  · rintro ⟨number, unit, n, hsplit, hnumber, hexceeds⟩
    obtain ⟨digits, shift, hvalue, -⟩ := hnumber.reads
    obtain ⟨a, b, hunit⟩ := exists_unitFactor_of_exceeds hexceeds
    exact ⟨_, asked_eq_ok_iff.2 ⟨number, unit, n, _, a, b, hsplit, hnumber, hvalue, hunit, rfl⟩,
      (exceeds_iff hnumber hvalue hunit).2 hexceeds⟩

end Duration

namespace Configuration

open Duration (Overlong)

/-- **The time to wait is out of range**, `.overflow`, when it is given as a text that is
`Overlong`. -/
theorem waitForMount_eq_overflow_iff {c : Configuration} :
    c.waitForMount = .error ⟨[], .overflow⟩ ↔ ∃ s, c.wait = some (.text s) ∧ Overlong s := by
  unfold waitForMount
  cases c.wait with
  | none => simp
  | some setting =>
    cases setting with
    | seconds n => simp
    | text s =>
      have htext : (∃ t, some (WaitSetting.text s) = some (.text t) ∧ Overlong t) ↔ Overlong s := by
        simp
      rw [htext, ← Duration.parse_eq_outOfRange_iff]
      dsimp only
      cases hparse : Duration.parse s with
      | ok d => simp
      | error e => cases e <;> simp [Failure.ofSession]

end Configuration

namespace Duration

/-- **The durations that are out of range.** A text asks for a number of seconds that is never
negative; `ofBinary64?` has no answer for it exactly when the text is `Overlong`, a decimal number
of units that is too much, and the time to wait has none exactly when it is given as such a text. -/
theorem outOfRange_iff_overlong (s : String) (c : Configuration) :
    (parse s = (asked s).bind fun x => (ofBinary64? x).elim (.error .outOfRange) .ok) ∧
      (∀ x, asked s = .ok x → x.IsAmount) ∧
      (parse s = .error .outOfRange ↔ Overlong s) ∧
      (c.waitForMount = .error ⟨[], .overflow⟩ ↔ ∃ t, c.wait = some (.text t) ∧ Overlong t) := by
  refine ⟨parse_eq s, fun x hasked => ?_, ?_, ?_⟩
  · exact isAmount_of_asked hasked
  · exact parse_eq_outOfRange_iff
  · exact Configuration.waitForMount_eq_overflow_iff

/-- `2 ^ 64` seconds are out of range, on the command line and in a file. -/
theorem outOfRange_twoToThe64 :
    parse "18446744073709551616" = .error .outOfRange ∧
      ∃ c, Configuration.parse "wait-for-mount: 18446744073709551616s" = .ok c ∧
        c.waitForMount = .error ⟨[], .overflow⟩ := by
  refine ⟨by decide +kernel, _, rfl, ?_⟩
  decide +kernel

end Duration

end MountKeeper
