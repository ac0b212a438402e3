import MountKeeper.Text.Numeral

/-! # Binary floating point, exactly

Configuration values such as cache sizes and durations are 64-bit binary floating point numbers.
They are kept here as an integer times a power of two, so that every rounding is a statement about
natural numbers.

* `divHalfEven n d` is the quotient rounded to nearest, a half going to the even neighbour.
* `Binary64.ofRatio` is the number nearest to a fraction, and `Binary64.scale` multiplies a number
  by a fraction with one rounding.
* `Binary64.read?` reads decimal notation. -/

namespace MountKeeper

/-- The quotient `n / d` rounded to nearest, a half going to the even neighbour. -/
def divHalfEven (n d : Nat) : Nat :=
  let q := n / d
  let r := n % d
  if 2 * r < d then q
  else if d < 2 * r then q + 1
  else if q % 2 = 0 then q else q + 1

/-! ## Powers -/

/-- The power of two with an exponent, `1` when it is negative. -/
def twoTo (e : Int) : Nat :=
  Nat.pow 2 e.toNat

/-- The power of ten with an exponent, `1` when it is negative. -/
def tenTo (e : Int) : Nat :=
  Nat.pow 10 e.toNat

/-! ## Numbers -/

/-- A 64-bit binary floating point number. -/
inductive Binary64 where
  /-- The number `mantissa * 2 ^ exponent`, or its negative. -/
  | finite (negative : Bool) (mantissa : Nat) (exponent : Int)
  /-- An infinity. -/
  | infinite (negative : Bool)
  /-- The one value that is not a number. -/
  | nan
  deriving DecidableEq, Repr, Inhabited

namespace Binary64

/-- The least exponent of a finite number. -/
def minExponent : Int := -1074

/-- The greatest exponent of a finite number with a full mantissa. -/
def maxExponent : Int := 971

/-- Zero, or its negative. -/
def zero (negative : Bool) : Binary64 :=
  .finite negative 0 minExponent

/-- Mantissas are less than this number, which is `2 ^ 53`. -/
def mantissaLimit : Nat := 0x20000000000000

/-- The least mantissa of 53 bits, which is `2 ^ 52`. -/
def fullMantissa : Nat := 0x10000000000000

/-- The fraction `num / (den * 2 ^ e)` as numerator and denominator. -/
def scaled (num den : Nat) (e : Int) : Nat × Nat :=
  (num * twoTo (-e), den * twoTo e)

/-- The exponent that leaves the fraction a mantissa of 53 bits, or the least exponent. -/
def exponentFor (num den : Nat) : Int :=
  let guess : Int := (Nat.log2 num : Int) - (Nat.log2 den : Int) - 53
  let (n, d) := scaled num den guess
  let e := if n / d < mantissaLimit then guess else guess + 1
  max minExponent e

/-- The number nearest to the fraction `num / den`, a half going to the even mantissa. -/
def ofRatio (negative : Bool) (num den : Nat) : Binary64 :=
  if num = 0 ∨ den = 0 then zero negative
  else
    let e := exponentFor num den
    let (n, d) := scaled num den e
    let m := divHalfEven n d
    let (m, e) := if m = mantissaLimit then (fullMantissa, e + 1) else (m, e)
    if maxExponent < e then .infinite negative else .finite negative m e

/-- A non-negative number times the fraction `num / den`, rounded once. -/
def scale (x : Binary64) (num den : Nat) : Binary64 :=
  match x with
  | .finite s m e => ofRatio s (m * twoTo e * num) (den * twoTo (-e))
  | other => other

/-- Whether the number is finite. -/
def isFinite : Binary64 → Bool
  | .finite .. => true
  | _ => false

/-- Equality of numbers: the two zeros are equal, and here the value that is not a number equals
itself. -/
def sameNumber : Binary64 → Binary64 → Bool
  | .finite _ 0 _, .finite _ 0 _ => true
  | x, y => x == y

/-! ## Reading -/

/-- The number written as `digits * 10 ^ shift`. Exponents far outside the range are settled
without computing the power. -/
def ofDecimal (negative : Bool) (digits : List Char) (shift : Int) : Binary64 :=
  let value := Nat.ofDigitChars 10 digits 0
  if value = 0 then zero negative
  else
    let magnitude : Int := ((Nat.toDigits 10 value).length : Int) + shift
    if 400 < magnitude then .infinite negative
    else if magnitude < -400 then zero negative
    else ofRatio negative (value * tenTo shift) (tenTo (-shift))

/-- The exponent part of decimal notation: nothing, or `e` with a signed run of digits. -/
def readExponent? : List Char → Option Int
  | [] => some 0
  | c :: cs =>
    if c = 'e' ∨ c = 'E' then
      match cs with
      | '+' :: ds => (Numeral.readDigits? 10 ds).map Int.ofNat
      | '-' :: ds => (Numeral.readDigits? 10 ds).map fun n => -Int.ofNat n
      | ds => (Numeral.readDigits? 10 ds).map Int.ofNat
    else none

/-- Unsigned decimal notation: digits with at most one point, at least one digit, and an optional
exponent. -/
def readUnsigned? (negative : Bool) (cs : List Char) : Option Binary64 :=
  let whole := cs.takeWhile Char.isDigit
  let rest := cs.dropWhile Char.isDigit
  let (fraction, rest) := match rest with
    | '.' :: more => (more.takeWhile Char.isDigit, more.dropWhile Char.isDigit)
    | other => ([], other)
  if whole.isEmpty && fraction.isEmpty then none
  else (readExponent? rest).map fun e =>
    ofDecimal negative (whole ++ fraction) (e - fraction.length)

/-- The names of the values that are not finite, in any case. -/
def readNamed? (negative : Bool) (cs : List Char) : Option Binary64 :=
  let name := String.ofList (cs.map Char.toLower)
  if name = "inf" ∨ name = "infinity" then some (.infinite negative)
  else if name = "nan" then some .nan
  else none

/-- Decimal notation with an optional sign, or the name of a value that is not finite. -/
def read? (s : String) : Option Binary64 :=
  let (negative, cs) := match s.toList with
    | '+' :: cs => (false, cs)
    | '-' :: cs => (true, cs)
    | cs => (false, cs)
  (readUnsigned? negative cs).or (readNamed? negative cs)

end Binary64

end MountKeeper
