import MountKeeper.Text.Basic
import MountKeeper.Text.CaseFolding
import MountKeeper.Text.WordCharacter

/-! # Classes of characters

A `CharClass` is built from ranges and properties by set operations. Under case folding a class
holds every character that is alike but for case to one of its own.

* `CharClass.holds` decides membership.
* `CharClass.ofPosixName?` are the classes with a name in brackets and colons. -/

namespace MountKeeper.Pattern

/-- A class of characters. -/
inductive CharClass where
  /-- The characters in some ranges. -/
  | ranges (rs : List (Char × Char))
  /-- The decimal digits of every script. -/
  | digits
  /-- The blanks. -/
  | blanks
  /-- The word characters. -/
  | wordCharacters
  | union (a b : CharClass)
  | intersection (a b : CharClass)
  | difference (a b : CharClass)
  | symmetricDifference (a b : CharClass)
  | complement (a : CharClass)
  deriving DecidableEq, Repr

namespace CharClass

/-- The class without characters. -/
def nothing : CharClass := ranges []

/-- The class of all characters. -/
def anything : CharClass := complement nothing

/-- The class of one character. -/
def single (c : Char) : CharClass := ranges [(c, c)]

/-- Whether a character lies in one of some ranges. -/
def inSome (rs : List (Char × Char)) (c : Char) : Bool :=
  rs.any fun r => r.1 ≤ c && c ≤ r.2

/-- Whether a test succeeds for a character or, under case folding, for one that is alike. -/
def underFolding (foldsCase : Bool) (test : Char → Bool) (c : Char) : Bool :=
  if foldsCase then (Text.alike c).any test else test c

/-- Whether a character belongs to a class. -/
def holds (foldsCase : Bool) : CharClass → Char → Bool
  | ranges rs, c => underFolding foldsCase (inSome rs) c
  | digits, c => Text.isDecimalDigit c
  | blanks, c => Text.isBlank c
  | wordCharacters, c => Text.isWordCharacter c
  | union a b, c => holds foldsCase a c || holds foldsCase b c
  | intersection a b, c => holds foldsCase a c && holds foldsCase b c
  | difference a b, c => holds foldsCase a c && !holds foldsCase b c
  | symmetricDifference a b, c => holds foldsCase a c != holds foldsCase b c
  | complement a, c => !holds foldsCase a c

/-! ## Classes of ASCII -/

/-- The digits of ASCII. -/
def asciiDigits : CharClass := ranges [('0', '9')]

/-- The blanks of ASCII. -/
def asciiBlanks : CharClass := ranges [('\t', '\r'), (' ', ' ')]

/-- The word characters of ASCII. -/
def asciiWordCharacters : CharClass := ranges [('0', '9'), ('A', 'Z'), ('_', '_'), ('a', 'z')]

/-- The classes with a name in brackets and colons, all within ASCII. -/
def ofPosixName? (name : String) : Option CharClass :=
  match name with
  | "alnum" => some (ranges [('0', '9'), ('A', 'Z'), ('a', 'z')])
  | "alpha" => some (ranges [('A', 'Z'), ('a', 'z')])
  | "ascii" => some (ranges [('\x00', '\x7f')])
  | "blank" => some (ranges [('\t', '\t'), (' ', ' ')])
  | "cntrl" => some (ranges [('\x00', '\x1f'), ('\x7f', '\x7f')])
  | "digit" => some asciiDigits
  | "graph" => some (ranges [('!', '~')])
  | "lower" => some (ranges [('a', 'z')])
  | "print" => some (ranges [(' ', '~')])
  | "punct" => some (ranges [('!', '/'), (':', '@'), ('[', '\x60'), ('\x7b', '~')])
  | "space" => some asciiBlanks
  | "upper" => some (ranges [('A', 'Z')])
  | "word" => some asciiWordCharacters
  | "xdigit" => some (ranges [('0', '9'), ('A', 'F'), ('a', 'f')])
  | _ => none

end CharClass

end MountKeeper.Pattern
