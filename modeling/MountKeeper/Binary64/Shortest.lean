import MountKeeper.Binary64.Basic

/-! # The fewest digits that read back

The decimal text of a floating point number has the fewest digits that read back as that number,
and among those it is the nearest one.

* `Binary64.shortest m e` is the pair of digits and power of ten of the number `m * 2 ^ e`.
* A `FloatStyle` says how the digits are laid out; `Binary64.write` lays them out. -/

namespace MountKeeper.Binary64

/-- The decimal number `digits * 10 ^ power`. -/
structure DecimalForm where
  /-- The digits, as a number. -/
  digits : Nat
  /-- The power of ten. -/
  power : Int
  deriving DecidableEq, Repr

/-! ## The interval of a number

The number and the ends of the interval that rounds to it are multiples of `2 ^ (e - 2)`. -/

/-- The ends of the interval of `m * 2 ^ e`, in units of `2 ^ (e - 2)`. Below a power of two the
neighbour is half as far. -/
def intervalEnds (m : Nat) (e : Int) : Nat × Nat :=
  (if m = fullMantissa ∧ minExponent < e then 4 * m - 1 else 4 * m - 2, 4 * m + 2)

/-- The factors with which a multiple `x * 2 ^ (e - 2)` and a multiple `c * 10 ^ q` are brought to
one unit: the first is `x` times the first factor, the second `c` times the second. -/
def commonUnits (e q : Int) : Nat × Nat :=
  let binary := e - 2
  (twoTo binary * tenTo (-q), tenTo q * twoTo (-binary))

/-- The multiple of `10 ^ q` that lies in the interval of `m * 2 ^ e` and nearest to it, if one
does. The ends belong to the interval when the mantissa is even. -/
def onGrid? (m : Nat) (e q : Int) : Option Nat :=
  let (b, t) := commonUnits e q
  let (low, high) := intervalEnds m e
  let value := 4 * m * b
  let inside (c : Nat) : Bool :=
    if m % 2 = 0 then low * b ≤ c * t && c * t ≤ high * b
    else low * b < c * t && c * t < high * b
  let below := value / t
  let above := below + 1
  match inside below, inside above with
  | true, true =>
    let down := value - below * t
    let up := above * t - value
    if down < up then some below
    else if up < down then some above
    else if below % 2 = 0 then some below else some above
  | true, false => some below
  | false, true => some above
  | false, false => none

/-- The first grid with a hit, from the power `q` downwards. -/
def firstGrid (m : Nat) (e : Int) : Nat → Int → DecimalForm
  | 0, q => ⟨(onGrid? m e q).getD 0, q⟩
  | fuel + 1, q =>
    match onGrid? m e q with
    | some c => ⟨c, q⟩
    | none => firstGrid m e fuel (q - 1)

/-- The shortest decimal number that reads back as `m * 2 ^ e`. Forty grids cover the seventeen
digits that always suffice and the slack of the first power. -/
def shortest (m : Nat) (e : Int) : DecimalForm :=
  if m = 0 then ⟨0, 0⟩
  else firstGrid m e 40 (((Nat.log2 m : Int) + e) * 30103 / 100000 + 2)

/-! ## Layout -/

/-- How the digits of a number are laid out. -/
structure FloatStyle where
  /-- The least number of digits before the point in positional notation, if there is one. -/
  lowest : Option Int
  /-- The greatest number of digits before the point in positional notation, if there is one. -/
  highest : Option Int
  /-- What follows a whole number in positional notation. -/
  wholeMark : String
  /-- The text of infinity. -/
  infinity : String
  /-- The text of the value that is not a number. -/
  nanText : String
  deriving DecidableEq, Repr

/-- Plain notation: never an exponent, and whole numbers without a point. -/
def FloatStyle.plain : FloatStyle := ⟨none, none, "", "inf", "NaN"⟩

/-- Digits with the decimal point after the first `point` of them, zeros filled in. -/
def positional (style : FloatStyle) (digits : List Char) (point : Int) : List Char :=
  if point ≤ 0 then '0' :: '.' :: (List.replicate (-point).toNat '0' ++ digits)
  else
    let n := point.toNat
    if digits.length ≤ n then
      digits ++ List.replicate (n - digits.length) '0' ++ style.wholeMark.toList
    else digits.take n ++ '.' :: digits.drop n

/-- Digits with one of them before the point, and the power of ten behind an `e`. -/
def exponential (digits : List Char) (point : Int) : List Char :=
  let mantissa := match digits with
    | [] => []
    | [d] => [d]
    | d :: ds => d :: '.' :: ds
  let power := point - 1
  let sign := if power < 0 then ['-'] else []
  mantissa ++ 'e' :: sign ++ Nat.toDigits 10 power.natAbs

/-- The text of a number in a style. -/
def write (style : FloatStyle) : Binary64 → String
  | .nan => style.nanText
  | .infinite negative => (if negative then "-" else "") ++ style.infinity
  | .finite negative m e =>
    let form := shortest m e
    let digits := Nat.toDigits 10 form.digits
    let point : Int := digits.length + form.power
    let low := style.lowest.all (· ≤ point)
    let high := style.highest.all (point ≤ ·)
    let body := if low && high then positional style digits point else exponential digits point
    String.ofList ((if negative then ['-'] else []) ++ body)

end MountKeeper.Binary64
