import MountKeeper.Text.Basic

/-! # Numerals

Writing and reading whole numbers in a base, and the unsigned 32-bit numbers that process ids,
option values and intervals are.

* `decimal n`, `octal width n` and `hex width n` are the written forms.
* `readDigits? base cs` is the value of a non-empty run of digits of the base.
* `readWord? base s` reads a 32-bit number, with one plus sign allowed in front. -/

namespace MountKeeper.Numeral

/-! ## Writing -/

/-- A number in decimal. -/
def decimal (n : Nat) : String :=
  String.ofList (Nat.toDigits 10 n)

/-- Digits filled up with zeros in front to at least `width`. -/
def padded (width : Nat) (digits : List Char) : List Char :=
  List.replicate (width - digits.length) '0' ++ digits

/-- A number in octal, with at least `width` digits. -/
def octal (width n : Nat) : String :=
  String.ofList (padded width (Nat.toDigits 8 n))

/-- A number in lower-case hexadecimal, with at least `width` digits. -/
def hex (width n : Nat) : String :=
  String.ofList (padded width (Nat.toDigits 16 n))

/-! ## Reading -/

/-- The value of a digit, letters of either case counting from ten. -/
def digitValue? (c : Char) : Option Nat :=
  if c.isDigit then some (c.toNat - '0'.toNat)
  else if 'a' ≤ c ∧ c ≤ 'z' then some (c.toNat - 'a'.toNat + 10)
  else if 'A' ≤ c ∧ c ≤ 'Z' then some (c.toNat - 'A'.toNat + 10)
  else none

/-- The value of digits of the base, read on from the value before them. -/
def readOn? (base : Nat) : Nat → List Char → Option Nat
  | value, [] => some value
  | value, c :: cs =>
    match digitValue? c with
    | some d => if d < base then readOn? base (base * value + d) cs else none
    | none => none

/-- The value of a non-empty run of digits of the base. -/
def readDigits? (base : Nat) (cs : List Char) : Option Nat :=
  if cs.isEmpty then none else readOn? base 0 cs

/-- A 32-bit number: an optional plus sign and digits of the base, with a value below `2 ^ 32`. -/
def readWord? (base : Nat) (s : String) : Option UInt32 :=
  let digits := match s.toList with
    | '+' :: rest => rest
    | cs => cs
  match readDigits? base digits with
  | some n => if n < UInt32.size then some (UInt32.ofNat n) else none
  | none => none

/-- A 32-bit number with an optional sign, which only zero may have as a minus. -/
def readSignedWord? (s : String) : Option UInt32 :=
  match s.toList with
  | '-' :: digits => if readDigits? 10 digits = some 0 then some 0 else none
  | _ => readWord? 10 s

end MountKeeper.Numeral
