/-! # Text in 16-bit units

* `Utf16.encode` writes characters as 16-bit units, with a pair of surrogates for a character
  beyond `U+FFFF`.
* `Utf16.decode` reads units back; a surrogate without its partner becomes `U+FFFD`. -/

namespace MountKeeper.Utf16

/-- The units of a character. -/
def encodeChar (c : Char) : List UInt16 :=
  let n := c.toNat
  if n < 0x10000 then [UInt16.ofNat n]
  else
    let m := n - 0x10000
    [UInt16.ofNat (0xD800 + m / 0x400), UInt16.ofNat (0xDC00 + m % 0x400)]

/-- The units of characters. -/
def encode (cs : List Char) : List UInt16 :=
  cs.flatMap encodeChar

/-- Whether a unit is the first of a pair. -/
def isHigh (u : UInt16) : Bool :=
  0xD800 ≤ u && u < 0xDC00

/-- Whether a unit is the second of a pair. -/
def isLow (u : UInt16) : Bool :=
  0xDC00 ≤ u && u < 0xE000

/-- The character of a unit that stands alone. -/
def loneChar (u : UInt16) : Char :=
  if isHigh u || isLow u then '\ufffd' else Char.ofNat u.toNat

/-- The character of a pair. -/
def pairChar (high low : UInt16) : Char :=
  Char.ofNat (0x10000 + (high.toNat - 0xD800) * 0x400 + (low.toNat - 0xDC00))

/-- The characters of units. -/
def decode : List UInt16 → List Char
  | [] => []
  | [u] => [loneChar u]
  | u :: v :: rest =>
    if isHigh u && isLow v then pairChar u v :: decode rest
    else loneChar u :: decode (v :: rest)

/-- The empty text has no words. -/
@[simp] theorem encode_nil : encode [] = [] := rfl

/-- UTF-16 is written character by character. -/
@[simp] theorem encode_append (cs ds : List Char) : encode (cs ++ ds) = encode cs ++ encode ds := by
  simp [encode]

end MountKeeper.Utf16
