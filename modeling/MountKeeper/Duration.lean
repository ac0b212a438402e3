import MountKeeper.Binary64.Basic

/-! # Durations

A duration is a whole number of nanoseconds. The written form of the configuration and of the
command line is a decimal number with a unit, `500ms`, `5s`, `2m`, `1h`; a bare number is seconds.

* `Duration.parse` reads the written form; its failures are a `DurationError`.
* `Duration.describe` is the form in which a deadline is shown. -/

namespace MountKeeper

/-- A span of time. -/
structure Duration where
  /-- Its length in nanoseconds. -/
  nanoseconds : Nat
  deriving DecidableEq, Repr, Inhabited

namespace Duration

/-- The nanoseconds of a second. -/
def perSecond : Nat := 1000000000

/-- A whole number of seconds. -/
def ofSeconds (n : Nat) : Duration :=
  ⟨n * perSecond⟩

/-- A whole number of milliseconds. -/
def ofMillis (n : Nat) : Duration :=
  ⟨n * 1000000⟩

/-- The whole seconds of a duration. -/
def seconds (d : Duration) : Nat :=
  d.nanoseconds / perSecond

/-- The nanoseconds beyond the whole seconds. -/
def subsecond (d : Duration) : Nat :=
  d.nanoseconds % perSecond

/-- Seconds are counted in 64 bits, so a duration is shorter than `2 ^ 64` seconds. -/
def limit : Nat := 0x10000000000000000 * perSecond

/-! ## Showing -/

/-- A number of units and the part of the next one, `width` decimals without zeros at the end. -/
def withDecimals (whole part width : Nat) : String :=
  let digits := Numeral.padded width (Nat.toDigits 10 part)
  let kept := (digits.reverse.dropWhile (· == '0')).reverse
  Numeral.decimal whole ++ (if kept.isEmpty then "" else "." ++ String.ofList kept)

/-- The length in the largest unit, from nanoseconds to seconds, that it fills. -/
def describe (d : Duration) : String :=
  let n := d.nanoseconds
  if perSecond ≤ n then withDecimals (n / perSecond) (n % perSecond) 9 ++ "s"
  else if 1000000 ≤ n then withDecimals (n / 1000000) (n % 1000000) 6 ++ "ms"
  else if 1000 ≤ n then withDecimals (n / 1000) (n % 1000) 3 ++ "µs"
  else Numeral.decimal n ++ "ns"

end Duration

/-! ## Reading -/

/-- Why a text is not a duration. -/
inductive DurationError where
  /-- The text does not start with a number. -/
  | malformed (text : String)
  /-- No such unit. -/
  | unknownUnit (unit text : String)
  /-- The number of seconds does not fit 64 bits. -/
  | outOfRange
  deriving DecidableEq, Repr

/-- The text of a duration error. -/
def DurationError.message : DurationError → String
  | .malformed text => s!"invalid duration [{text}]"
  | .unknownUnit unit text => s!"unknown duration unit [{unit}] in [{text}]"
  | .outOfRange => "duration out of range"

namespace Duration

/-- The nanoseconds in `m * 2 ^ e` seconds, a half going to the even one. -/
def roundedNanoseconds (m : Nat) (e : Int) : Nat :=
  divHalfEven (m * twoTo e * perSecond) (twoTo (-e))

/-- A number of seconds as a duration, if it is neither negative nor too large. -/
def ofBinary64? : Binary64 → Option Duration
  | .finite false m e =>
    if roundedNanoseconds m e < limit then some ⟨roundedNanoseconds m e⟩ else none
  | _ => none

/-- The seconds in one unit, as a fraction. -/
def unitFactor? (unit : String) : Option (Nat × Nat) :=
  if unit = "" ∨ unit = "s" then some (1, 1)
  else if unit = "ms" then some (1, 1000)
  else if unit = "m" then some (60, 1)
  else if unit = "h" then some (3600, 1)
  else none

/-- The characters of the number in front of the unit. -/
def isNumberChar (c : Char) : Bool :=
  c.isDigit || c == '.'

/-- Reads a number followed by a unit, with blanks around the whole. The number is rounded to
binary floating point, multiplied by the unit and rounded again. -/
def parse (s : String) : Except DurationError Duration :=
  let cs := Text.trim s.toList
  let text := String.ofList cs
  let unit := String.ofList (cs.dropWhile isNumberChar)
  match Binary64.readUnsigned? false (cs.takeWhile isNumberChar) with
  | none => .error (.malformed text)
  | some value =>
    match unitFactor? unit with
    | none => .error (.unknownUnit unit text)
    | some (num, den) =>
      match ofBinary64? (value.scale num den) with
      | some d => .ok d
      | none => .error .outOfRange

end Duration

end MountKeeper
