/-! # Characters of documents

The character classes that the reading and the writing of YAML documents share. -/

namespace MountKeeper.Yaml

/-- The characters that a document may hold. -/
def isAllowed (c : Char) : Bool :=
  let n := c.toNat
  n == 0x09 || n == 0x0A || n == 0x0D || (0x20 ≤ n && n ≤ 0x7E) || n == 0x85
    || (0xA0 ≤ n && n ≤ 0xD7FF) || (0xE000 ≤ n && n ≤ 0xFFFD) || 0x10000 ≤ n

/-- The characters that end a line. -/
def isBreak (c : Char) : Bool :=
  c == '\n' || c == '\r' || c == '\u0085' || c == '\u2028' || c == '\u2029'

/-- Spaces and tabs. -/
def isSpacing (c : Char) : Bool :=
  c == ' ' || c == '\t'

/-- The characters of names: letters, digits, underscores and hyphens. -/
def isNameChar (c : Char) : Bool :=
  c.isAlphanum || c == '_' || c == '-'

/-- The characters of tags, in which flow indicators count only when `flow` holds. -/
def isTagChar (flow : Bool) (c : Char) : Bool :=
  isNameChar c || ";/?:@&=+$.%!~*'()".toList.contains c || (flow && ",[]".toList.contains c)

/-- The characters that are written as they are. -/
def isPrintable (c : Char) : Bool :=
  let n := c.toNat
  n == 0x0A || (0x20 ≤ n && n ≤ 0x7E) || (0xA0 ≤ n && n ≤ 0xD7FF)
    || (0xE000 ≤ n && n ≤ 0xFFFD && n != 0xFEFF) || 0x10000 ≤ n

/-- Whether a break or nothing follows. -/
def endsLine : Option Char → Bool
  | some c => isBreak c
  | none => true

/-- Whether a space, a tab, a break or nothing follows. -/
def endsWord : Option Char → Bool
  | some c => isSpacing c || isBreak c
  | none => true

end MountKeeper.Yaml
