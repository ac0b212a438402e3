import MountKeeper.Proofs.Text.Line

/-! # Numerals in a base

* `Numeral.readOn?_toDigits`: the digits of a number in a base up to ten are read as the number, and
  zeros in front of them change nothing.
* `Numeral.readWord?_octal`: a 32-bit number written in octal is read back. -/

namespace MountKeeper.Numeral

variable {base : Nat}

/-- A number is read on behind the digits before it. -/
theorem readOn?_append (value : Nat) (front back : List Char) :
    readOn? base value (front ++ back)
      = (readOn? base value front).bind fun n => readOn? base n back := by
  induction front generalizing value with
  | nil => rfl
  | cons c cs ih =>
    rw [List.cons_append, readOn?, readOn?]
    cases digitValue? c with
    | none => rfl
    | some d =>
      by_cases hd : d < base
      · simp only [if_pos hd, ih]
      · simp [hd]

/-- The digit of a number below ten stands for it. -/
theorem digitValue?_digitChar {d : Nat} (h : d < 10) : digitValue? d.digitChar = some d := by
  have hdigit : d.digitChar.isDigit = true := by simpa [Nat.isDigit_digitChar] using h
  rw [digitValue?, if_pos hdigit]
  exact congrArg some (Nat.toNat_digitChar_sub_48_of_lt_ten h)

/-- One digit is read on as `base * value + d`. -/
theorem readOn?_digitChar {value d : Nat} (hd : d < base) (hbase : base ≤ 10) :
    readOn? base value [d.digitChar] = some (base * value + d) := by
  simp [readOn?, digitValue?_digitChar (by omega : d < 10), hd]

/-- **The digits of a number** in a base up to ten are read as the number. -/
theorem readOn?_toDigits (h : 1 < base) (hbase : base ≤ 10) (n : Nat) :
    readOn? base 0 (Nat.toDigits base n) = some n := by
  induction n using Nat.strongRecOn with
  | ind n ih =>
    rcases Nat.lt_or_ge n base with hlt | hge
    · rw [Nat.toDigits_of_lt_base hlt, readOn?_digitChar hlt hbase]
      simp
    · -- the last digit is the remainder, and the others are those of the quotient
      have hquotient : n / base < n := Nat.div_lt_self (by omega) h
      rw [Nat.toDigits_of_base_le h hge, readOn?_append, ih _ hquotient, Option.bind_some,
        readOn?_digitChar (Nat.mod_lt n (by omega)) hbase, Nat.div_add_mod]

/-- Zeros in front of a number are nothing. -/
theorem readOn?_zeros (h : 0 < base) (k : Nat) (cs : List Char) :
    readOn? base 0 (List.replicate k '0' ++ cs) = readOn? base 0 cs := by
  have hzero : digitValue? '0' = some 0 := rfl
  induction k with
  | zero => rfl
  | succ k ih =>
    rw [List.replicate_succ, List.cons_append, readOn?, hzero]
    simpa [h] using ih

/-- The digits of an octal numeral are digits. -/
theorem isDigit_of_mem_octal {width n : Nat} {c : Char} (h : c ∈ (octal width n).toList) :
    c.isDigit = true := by
  rw [octal, String.toList_ofList, padded, List.mem_append] at h
  rcases h with h | h
  · rw [List.eq_of_mem_replicate h]
    rfl
  · exact Nat.isDigit_of_mem_toDigits (by decide) (by decide) h

/-- **A 32-bit number written in octal is read back**, however many digits it is filled up to. -/
theorem readWord?_octal (width : Nat) (n : UInt32) :
    readWord? 8 (octal width n.toNat) = some n := by
  have hread : readDigits? 8 (octal width n.toNat).toList = some n.toNat := by
    rw [readDigits?, octal, String.toList_ofList, padded, if_neg (by simp [Nat.toDigits_ne_nil]),
      readOn?_zeros (by decide), readOn?_toDigits (by decide) (by decide)]
  obtain ⟨c, cs, hcs⟩ : ∃ c cs, (octal width n.toNat).toList = c :: cs :=
    List.exists_cons_of_ne_nil (by simp [octal, padded, Nat.toDigits_ne_nil])
  have hsign : c ≠ '+' := by
    rintro rfl
    exact absurd (isDigit_of_mem_octal (hcs ▸ List.mem_cons_self)) (by decide)
  rw [hcs] at hread
  rw [← String.ofList_toList (s := octal width n.toNat), hcs,
    readWord?_of_head hsign hread n.toNat_lt_size, UInt32.ofNat_toNat]

end MountKeeper.Numeral
