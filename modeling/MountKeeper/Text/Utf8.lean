/-! # Text in bytes

* `Utf8.decode` reads bytes as UTF-8. A sequence that stops too early and a byte that starts none
  become `U+FFFD` each, and reading goes on with the byte that did not fit. -/

namespace MountKeeper.Utf8

/-- The bytes of a character that are still to come. -/
structure Remainder where
  /-- How many bytes come after the next one. -/
  after : Nat
  /-- The value of the bytes so far. -/
  value : Nat
  /-- The bounds of the next byte. -/
  low : UInt8 := 0x80
  high : UInt8 := 0xBF
  deriving DecidableEq, Repr

/-- The remainder after a byte that starts a longer sequence. The bounds leave out what a shorter
sequence says, surrogates, and what lies beyond the last character. -/
def remainder? (b : UInt8) : Option Remainder :=
  if 0xC2 ≤ b && b ≤ 0xDF then some { after := 0, value := b.toNat % 32 }
  else if b == 0xE0 then some { after := 1, value := 0, low := 0xA0 }
  else if b == 0xED then some { after := 1, value := 13, high := 0x9F }
  else if 0xE1 ≤ b && b ≤ 0xEF then some { after := 1, value := b.toNat % 16 }
  else if b == 0xF0 then some { after := 2, value := 0, low := 0x90 }
  else if 0xF1 ≤ b && b ≤ 0xF3 then some { after := 2, value := b.toNat % 8 }
  else if b == 0xF4 then some { after := 2, value := 4, high := 0x8F }
  else none

/-- What a byte outside a sequence gives: a character, or the remainder of a sequence. -/
def first (b : UInt8) : List Char × Option Remainder :=
  if b < 0x80 then ([Char.ofNat b.toNat], none)
  else match remainder? b with
    | some r => ([], some r)
    | none => (['\ufffd'], none)

/-- What a byte gives inside a sequence. -/
def next (r : Remainder) (b : UInt8) : List Char × Option Remainder :=
  if r.low ≤ b && b ≤ r.high then
    let value := 64 * r.value + b.toNat % 64
    match r.after with
    | 0 => ([Char.ofNat value], none)
    | n + 1 => ([], some { after := n, value := value })
  else
    let (cs, state) := first b
    ('\ufffd' :: cs, state)

/-- The characters of bytes, read on from inside a sequence. -/
def decodeFrom : Option Remainder → List UInt8 → List Char
  | none, [] => []
  | some _, [] => ['\ufffd']
  | none, b :: bs =>
    match first b with
    | (cs, state) => cs ++ decodeFrom state bs
  | some r, b :: bs =>
    match next r b with
    | (cs, state) => cs ++ decodeFrom state bs

/-- The characters of bytes. -/
def decode (bs : List UInt8) : List Char :=
  decodeFrom none bs

/-- No bytes decode to no characters. -/
@[simp] theorem decode_nil : decode [] = [] := rfl

end MountKeeper.Utf8
