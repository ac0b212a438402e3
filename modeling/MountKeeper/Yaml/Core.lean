import MountKeeper.Yaml.Value

/-! # The core schema

What a plain scalar stands for: null, a truth value, a whole number, a floating point number, or a
string.

* `Core.resolve?` is the value of a plain scalar. Whole numbers beyond 64 bits, but within 128, are
  no values of a configuration.
* `Core.resolveAs?` is the value of a scalar with a tag of the core schema. -/

namespace MountKeeper.Yaml.Core

/-- The written forms of null, besides nothing. -/
def isNullText (s : String) : Bool :=
  s == "null" || s == "Null" || s == "NULL" || s == "~"

/-- The written forms of the truth values. -/
def bool? (s : String) : Option Bool :=
  if s = "true" ∨ s = "True" ∨ s = "TRUE" then some true
  else if s = "false" ∨ s = "False" ∨ s = "FALSE" then some false
  else none

/-- A text without a sign in front. -/
def dropSign : List Char → List Char
  | '+' :: cs => cs
  | '-' :: cs => cs
  | cs => cs

/-- Digits with a zero in front are no number. -/
def isZeroFilled (s : String) : Bool :=
  match dropSign s.toList with
  | '0' :: c :: cs => (c :: cs).all Char.isDigit
  | _ => false

/-- The digits behind a base mark. -/
def basedDigits? (cs : List Char) : Option Nat :=
  match cs with
  | '0' :: 'x' :: ds => Numeral.readDigits? 16 ds
  | '0' :: 'o' :: ds => Numeral.readDigits? 8 ds
  | '0' :: 'b' :: ds => Numeral.readDigits? 2 ds
  | _ => none

/-- The magnitude of a whole number without its sign. -/
def magnitude? (s : String) (cs : List Char) : Option Nat :=
  (basedDigits? cs).or (if isZeroFilled s then none else Numeral.readDigits? 10 cs)

/-- A whole number, of any size. -/
def int? (s : String) : Option Int :=
  match s.toList with
  | '-' :: cs => (magnitude? s cs).map fun n => -(n : Int)
  | '+' :: cs => (magnitude? s cs).map Int.ofNat
  | cs => (magnitude? s cs).map Int.ofNat

/-- A floating point number: a finite one in decimal notation, or a named value. -/
def float? (s : String) : Option Binary64 :=
  if s = ".nan" ∨ s = ".NaN" ∨ s = ".NAN" then some .nan
  else if s = "-.inf" ∨ s = "-.Inf" ∨ s = "-.INF" then some (.infinite true)
  else
    let positive := match s.toList with
      | '+' :: cs => cs
      | cs => cs
    if [".inf", ".Inf", ".INF"].contains (String.ofList positive) then some (.infinite false)
    else
      let doubleSign := s.toList.head? == some '+'
        && (positive.head? == some '+' || positive.head? == some '-')
      if doubleSign then none
      else (Binary64.read? (String.ofList positive)).filter Binary64.isFinite

/-- What a whole number becomes: a value when it fits 64 bits, nothing at all when it fits 128, and
otherwise it is left to the floating point numbers. -/
inductive IntSize where
  | fits | refused | tooLarge
  deriving DecidableEq, Repr

/-- How large a whole number is. Numbers of 64 bits go from `-2 ^ 63` to `2 ^ 64 - 1`, those of 128
from `-2 ^ 127` to `2 ^ 128 - 1`. -/
def intSize (n : Int) : IntSize :=
  if -0x8000000000000000 ≤ n ∧ n < 0x10000000000000000 then .fits
  else if -0x80000000000000000000000000000000 ≤ n ∧ n < 0x100000000000000000000000000000000 then
    .refused
  else .tooLarge

/-- The value of a plain scalar that is neither null, nor a truth value, nor a whole number. -/
def floatOrString (s : String) : Value :=
  if isZeroFilled s then .string s
  else match float? s with
    | some x => .float x
    | none => .string s

/-- The value of a plain scalar, `none` for a whole number that is refused. -/
def resolve? (s : String) : Option Value :=
  if s = "" ∨ isNullText s then some .null
  else match bool? s with
    | some b => some (.bool b)
    | none =>
      match int? s with
      | some n => match intSize n with
        | .fits => some (.int n)
        | .refused => none
        | .tooLarge => some (floatOrString s)
      | none => some (floatOrString s)

/-- The value of a scalar that has a tag of the core schema: the content has to suit the tag. Other
such tags make a string. -/
def resolveAs? (tag text : String) : Option Value :=
  if tag = "tag:yaml.org,2002:bool" then (bool? text).map .bool
  else if tag = "tag:yaml.org,2002:int" then
    (int? text).bind fun n => if intSize n = .fits then some (.int n) else none
  else if tag = "tag:yaml.org,2002:float" then (float? text).map .float
  else if tag = "tag:yaml.org,2002:null" then if isNullText text then some .null else none
  else some (.string text)

end MountKeeper.Yaml.Core
