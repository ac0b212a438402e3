import MountKeeper.Pattern.Class

/-! # Patterns

A `Pattern` describes texts. It is matched anywhere in a text, at every place at once: what counts
is the set of places that can be reached.

* `Pattern.reach` takes a set of places to the set of places behind what the pattern matches there.
* `Pattern.occursIn` says whether a pattern matches some part of a text. -/

namespace MountKeeper

namespace Pattern

/-- A condition on a place in a text. -/
inductive Edge where
  | textStart
  | textEnd
  /-- The start of a line; `returns` lets carriage returns end lines too. -/
  | lineStart (returns : Bool)
  /-- The end of a line; `returns` lets carriage returns end lines too. -/
  | lineEnd (returns : Bool)
  /-- Between a word character and something else. `ascii` looks at the word characters of ASCII
  only, here and below. -/
  | wordEdge (ascii : Bool)
  /-- Not between a word character and something else. -/
  | noWordEdge (ascii : Bool)
  /-- Where a word starts. -/
  | wordStart (ascii : Bool)
  /-- Where a word ends. -/
  | wordEnd (ascii : Bool)
  /-- Not behind a word character. -/
  | behindNoWord (ascii : Bool)
  /-- Not before a word character. -/
  | beforeNoWord (ascii : Bool)
  deriving DecidableEq, Repr

/-- Whether a neighbour of a place is a word character. -/
def isWordy (ascii : Bool) (c : Option Char) : Bool :=
  match c with
  | none => false
  | some c =>
    (if ascii then CharClass.asciiWordCharacters else CharClass.wordCharacters).holds false c

/-- Whether a condition holds between two neighbours. -/
def Edge.holds (before after : Option Char) : Edge → Bool
  | textStart => before.isNone
  | textEnd => after.isNone
  | lineStart false => before.isNone || before == some '\n'
  | lineStart true =>
    before.isNone || before == some '\n' || (before == some '\r' && after != some '\n')
  | lineEnd false => after.isNone || after == some '\n'
  | lineEnd true =>
    after.isNone || after == some '\r' || (after == some '\n' && before != some '\r')
  | wordEdge ascii => isWordy ascii before != isWordy ascii after
  | noWordEdge ascii => isWordy ascii before == isWordy ascii after
  | wordStart ascii => !isWordy ascii before && isWordy ascii after
  | wordEnd ascii => isWordy ascii before && !isWordy ascii after
  | behindNoWord ascii => !isWordy ascii before
  | beforeNoWord ascii => !isWordy ascii after

end Pattern

/-- A description of texts. -/
inductive Pattern where
  /-- Matches the empty text. -/
  | empty
  /-- Matches one character of a class. -/
  | one (foldsCase : Bool) (cls : Pattern.CharClass)
  /-- Matches the empty text at some places. -/
  | edge (e : Pattern.Edge)
  /-- One pattern after the other. -/
  | sequence (p q : Pattern)
  /-- One pattern or the other. -/
  | either (p q : Pattern)
  /-- A pattern at least `least` times and, if that is given, at most `most` times. -/
  | repeated (p : Pattern) (least : Nat) (most : Option Nat)
  deriving DecidableEq, Repr

namespace Pattern

/-! ## Sets of places -/

/-- The places of two sets. -/
def merge (a b : List Nat) : List Nat :=
  a ++ b.filter fun i => !a.contains i

/-- The places behind `n` steps. -/
def steps (step : List Nat → List Nat) : Nat → List Nat → List Nat
  | 0, places => places
  | n + 1, places => if places.isEmpty then [] else steps step n (step places)

/-- The places behind up to `n` steps. -/
def upTo (step : List Nat → List Nat) : Nat → List Nat → List Nat
  | 0, places => places
  | n + 1, places =>
    let more := merge places (step places)
    if more.length = places.length then places else upTo step n more

/-! ## Matching -/

/-- The character before a place. -/
def before? (text : Array Char) (i : Nat) : Option Char :=
  if i = 0 then none else text[i - 1]?

/-- The places behind what a pattern matches at some places. Without a bound, a repetition takes
no more steps than there are places to reach. -/
def reach (text : Array Char) : Pattern → List Nat → List Nat
  | empty, places => places
  | one foldsCase cls, places =>
    (places.filter fun i => text[i]?.any (cls.holds foldsCase)).map (· + 1)
  | edge e, places => places.filter fun i => e.holds (before? text i) text[i]?
  | sequence p q, places => reach text q (reach text p places)
  | either p q, places => merge (reach text p places) (reach text q places)
  | repeated p least most, places =>
    let start := steps (fun s => reach text p s) least places
    match most with
    | none => upTo (fun s => reach text p s) (text.size + 1) start
    | some m => upTo (fun s => reach text p s) (m - least) start

/-- Whether a pattern matches some part of a text. -/
def occursIn (p : Pattern) (text : String) : Bool :=
  let chars := text.toList.toArray
  !(reach chars p (List.range (chars.size + 1))).isEmpty

/-- Patterns one after the other. -/
def sequenceOf : List Pattern → Pattern
  | [] => empty
  | [p] => p
  | p :: rest => sequence p (sequenceOf rest)

end Pattern

end MountKeeper
