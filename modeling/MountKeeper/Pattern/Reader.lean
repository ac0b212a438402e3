import MountKeeper.Pattern.Basic
import MountKeeper.Text.Numeral

/-! # The written form of patterns

Patterns are written in the common notation: characters stand for themselves, `.` for any but a
line feed, brackets hold classes, a vertical bar separates alternatives, and `*`, `+`, `?` and
counts in braces repeat what stands before them.

* `Pattern.read?` reads a pattern; a text that is none gives nothing.
* `Pattern.reader` is that reading as unmounting asks for it.

**Where this is not the whole notation.** Unmounting takes any `PatternReader`, and this one stands
for a library that reads more:

* of the properties behind `\p` it knows the general ones by name, `Any`, `ASCII`, `Nd` and
  `White_Space`; a script, another general category or a binary property, such as `\pL`, `\p{Lu}`,
  `\p{Greek}` or `\p{Alphabetic}`, is refused;
* it has no limit on how deep groups nest, nor on how large a pattern is once its repetitions are
  written out, so that what the library turns down for its size is read here;
* without Unicode, `.` and negated classes are refused altogether, since they could match a piece of
  a character;
* the marks and the flag that make repetitions lazy are read over, as they change where a match ends
  but not whether there is one;
* why a text is no pattern is not told: `<regex>` stands for the reason. -/

namespace MountKeeper.Pattern

/-! ## Flags -/

/-- The flags in force at a place of a written pattern. -/
structure Flags where
  /-- Letters match in either case. -/
  foldsCase : Bool := false
  /-- `^` and `$` match at lines. -/
  lineEdges : Bool := false
  /-- `.` matches line feeds too. -/
  dotMatchesAll : Bool := false
  /-- Classes go beyond ASCII. -/
  unicode : Bool := true
  /-- Carriage returns end lines too. -/
  returns : Bool := false
  /-- Blanks and comments are left out. -/
  spaced : Bool := false
  deriving DecidableEq, Repr

/-- Flags with one flag set or cleared. -/
def Flags.set (f : Flags) (on : Bool) : Char → Option Flags
  | 'i' => some { f with foldsCase := on }
  | 'm' => some { f with lineEdges := on }
  | 's' => some { f with dotMatchesAll := on }
  | 'U' => some f
  | 'u' => some { f with unicode := on }
  | 'R' => some { f with returns := on }
  | 'x' => some { f with spaced := on }
  | _ => none

/-- Reads the letters of flags up to a colon or a closing parenthesis, which is left. `seen` are the
letters before, and `on` says whether a minus sign stood among them. -/
def readFlags? (f : Flags) (seen : List Char) (on : Bool) :
    List Char → Option (Flags × List Char × List Char)
  | [] => none
  | c :: cs =>
    if c = ':' ∨ c = ')' then
      if seen.head? = some '-' then none else some (f, seen, c :: cs)
    else if seen.contains c then none
    else if c = '-' then readFlags? f ('-' :: seen) false cs
    else match f.set on c with
      | some f' => readFlags? f' (c :: seen) on cs
      | none => none

/-- A text without the blanks and comments at its start, if they are left out. A comment runs from
a number sign to the end of its line. -/
def skipSpace (f : Flags) (cs : List Char) : List Char :=
  if f.spaced then go false cs else cs
where
  /-- `skipSpace`, inside a comment or not. -/
  go (comment : Bool) : List Char → List Char
    | [] => []
    | c :: cs =>
      if comment then go (c != '\n') cs
      else if c = '#' then go true cs
      else if Text.isBlank c then go false cs
      else c :: cs

/-! ## Characters and classes -/

/-- What a character or an escape stands for. -/
inductive Atom where
  | char (c : Char)
  | cls (k : CharClass)
  | edge (e : Edge)
  deriving DecidableEq, Repr

/-- The character of a code point. -/
def charOf? (n : Nat) : Option Char :=
  if n.isValidChar then some (Char.ofNat n) else none

/-- The character of hexadecimal digits. -/
def hexChar? (digits : List Char) : Option Char :=
  (Numeral.readDigits? 16 digits).bind charOf?

/-- Reads hexadecimal digits: as many as `width`, or any number in braces. -/
def readHex? (width : Nat) : List Char → Option (Char × List Char)
  | '\x7b' :: cs =>
    match Text.cutAt? '\x7d' cs with
    | some (digits, rest) => (hexChar? digits).map (·, rest)
    | none => none
  | cs =>
    if cs.length < width then none
    else (hexChar? (cs.take width)).map (·, cs.drop width)

/-- The class of a letter behind a backslash. -/
def escapedClass? (f : Flags) (c : Char) : Option CharClass :=
  let negated (k : CharClass) : Option CharClass :=
    if f.unicode then some (.complement k) else none
  let pick (wide narrow : CharClass) : CharClass := if f.unicode then wide else narrow
  match c with
  | 'd' => some (pick .digits .asciiDigits)
  | 's' => some (pick .blanks .asciiBlanks)
  | 'w' => some (pick .wordCharacters .asciiWordCharacters)
  | 'D' => negated .digits
  | 'S' => negated .blanks
  | 'W' => negated .wordCharacters
  | _ => none

/-- The name of a property without what does not distinguish names. -/
def plainName (name : List Char) : String :=
  String.ofList ((name.filter fun c => c != '_' && c != '-' && !Text.isBlank c).map Char.toLower)

/-- The class of a property. -/
def property? (name : List Char) : Option CharClass :=
  match plainName name with
  | "any" => some .anything
  | "ascii" => some (.ranges [('\x00', '\x7f')])
  | "nd" | "digit" | "decimalnumber" => some .digits
  | "whitespace" | "wspace" => some .blanks
  | _ => none

/-- Reads a property, a letter or a name in braces. -/
def readProperty? (negated : Bool) (cs : List Char) : Option (CharClass × List Char) :=
  let close (k : Option CharClass) (flip : Bool) (rest : List Char) :=
    k.map fun k => ((if negated != flip then .complement k else k : CharClass), rest)
  match cs with
  | '\x7b' :: cs =>
    match Text.cutAt? '\x7d' cs with
    | some ('^' :: name, rest) => close (property? name) true rest
    | some (name, rest) => close (property? name) false rest
    | none => none
  | c :: rest => close (property? [c]) false rest
  | [] => none

/-- Whether a character behind a backslash stands for itself. -/
def isEscapable (c : Char) : Bool :=
  c.toNat < 128 && !c.isAlphanum && c != '<' && c != '>'

/-- The characters that letters behind a backslash stand for. -/
def escapedControl? : Char → Option Char
  | 'a' => some '\x07'
  | 'f' => some '\x0c'
  | 't' => some '\t'
  | 'n' => some '\n'
  | 'r' => some '\r'
  | 'v' => some '\x0b'
  | _ => none

/-- The conditions with a name in braces. -/
def namedEdge? (ascii : Bool) : String → Option Edge
  | "start" => some (.wordStart ascii)
  | "end" => some (.wordEnd ascii)
  | "start-half" => some (.behindNoWord ascii)
  | "end-half" => some (.beforeNoWord ascii)
  | _ => none

/-- Reads what follows the escape of a word edge: a name in braces chooses another condition, and
braces with something else are left. -/
def readWordEdge? (ascii : Bool) : List Char → Option (Edge × List Char)
  | '\x7b' :: cs =>
    let isNameChar (c : Char) : Bool := c.isAlpha || c == '-'
    match cs with
    | [] => none
    | c :: _ =>
      if isNameChar c then
        match cs.dropWhile isNameChar with
        | '\x7d' :: rest =>
          (namedEdge? ascii (String.ofList (cs.takeWhile isNameChar))).map (·, rest)
        | _ => none
      else some (.wordEdge ascii, '\x7b' :: cs)
  | cs => some (.wordEdge ascii, cs)

/-- Reads what stands behind a backslash. -/
def readEscape? (f : Flags) : List Char → Option (Atom × List Char)
  | [] => none
  | c :: cs =>
    let ascii := !f.unicode
    let hex (width : Nat) := (readHex? width cs).map fun (c, rest) => (Atom.char c, rest)
    let property (negated : Bool) :=
      (readProperty? negated cs).map fun (k, rest) => (Atom.cls k, rest)
    match c with
    | 'x' => hex 2
    | 'u' => hex 4
    | 'U' => hex 8
    | 'p' => property false
    | 'P' => property true
    | 'A' => some (.edge .textStart, cs)
    | 'z' => some (.edge .textEnd, cs)
    | 'b' => (readWordEdge? ascii cs).map fun (e, rest) => (.edge e, rest)
    | 'B' => some (.edge (.noWordEdge ascii), cs)
    | '<' => some (.edge (.wordStart ascii), cs)
    | '>' => some (.edge (.wordEnd ascii), cs)
    | c =>
      if isEscapable c then some (.char c, cs)
      else match escapedControl? c, escapedClass? f c with
        | some d, _ => some (.char d, cs)
        | none, some k => some (.cls k, cs)
        | none, none => none

/-! ## Brackets -/

/-- The ways to join two classes in brackets. -/
inductive SetOperation where
  | intersection | difference | symmetricDifference
  deriving DecidableEq, Repr

/-- Joins two classes. -/
def SetOperation.join : SetOperation → CharClass → CharClass → CharClass
  | intersection, a, b => .intersection a b
  | difference, a, b => .difference a b
  | symmetricDifference, a, b => .symmetricDifference a b

/-- The class so far: what was joined before, and what stands behind the last operation. -/
def closeSet (left : Option (SetOperation × CharClass)) (right : CharClass) : CharClass :=
  match left with
  | some (op, a) => op.join a right
  | none => right

/-- Reads the name of a class between colons, up to the bracket that closes it. -/
def readPosix? (cs : List Char) : Option (CharClass × List Char) :=
  let (negated, cs) := match cs with
    | '^' :: rest => (true, rest)
    | cs => (false, cs)
  match Text.cutAt? ':' cs with
  | some (name, ']' :: rest) =>
    (CharClass.ofPosixName? (String.ofList name)).map fun k =>
      ((if negated then .complement k else k : CharClass), rest)
  | _ => none

/-- Reads one character or escape in brackets. -/
def readSetAtom? (f : Flags) : List Char → Option (Atom × List Char)
  | [] => none
  | '\\' :: cs => readEscape? f cs
  | c :: cs => some (.char c, cs)

/-- Whether a minus sign in brackets does not make a range: it stands before the closing bracket or
before another minus sign. -/
def isPlainMinus (f : Flags) (cs : List Char) : Bool :=
  match skipSpace f cs with
  | ']' :: _ | '-' :: _ => true
  | _ => false

/-- The class of an atom in brackets, where conditions have no place. -/
def Atom.inSet? : Atom → Option CharClass
  | char c => some (.single c)
  | cls k => some k
  | edge _ => none

/-- Reads a character, an escape or a range in brackets. -/
def readSetItem? (f : Flags) (cs : List Char) : Option (CharClass × List Char) :=
  match readSetAtom? f cs with
  | none => none
  | some (a, rest) =>
    match skipSpace f rest with
    | [] => none
    | '-' :: more =>
      if isPlainMinus f more then (a.inSet?).map (·, '-' :: more)
      else match a, readSetAtom? f (skipSpace f more) with
        | .char low, some (.char high, rest) =>
          if low ≤ high then some (.ranges [(low, high)], rest) else none
        | _, _ => none
    | rest => (a.inSet?).map (·, rest)

/-- The minus signs at the start of brackets, which stand for themselves. -/
def leadingMinus (f : Flags) (fuel : Nat) (acc : CharClass) (cs : List Char) :
    CharClass × List Char :=
  match fuel, cs with
  | fuel + 1, '-' :: rest => leadingMinus f fuel (.union acc (.single '-')) (skipSpace f rest)
  | _, cs => (acc, cs)

/-- The start of brackets behind the opening one: whether they are negated, and the characters that
stand for themselves only there. -/
def openSet (f : Flags) (cs : List Char) : Bool × CharClass × List Char :=
  let cs := skipSpace f cs
  let (negated, cs) := match cs with
    | '^' :: rest => (true, skipSpace f rest)
    | cs => (false, cs)
  match cs with
  | ']' :: rest => (negated, .single ']', rest)
  | cs =>
    let (k, rest) := leadingMinus f cs.length .nothing cs
    (negated, k, rest)

/-- Reads brackets up to the closing one. `left` is what was joined before the last operation,
`acc` the class behind it. -/
def readSet? (f : Flags) (fuel : Nat) (negated : Bool) (left : Option (SetOperation × CharClass))
    (acc : CharClass) (cs : List Char) : Option (CharClass × List Char) :=
  match fuel with
  | 0 => none
  | fuel + 1 =>
    let join (op : SetOperation) (rest : List Char) :=
      readSet? f fuel negated (some (op, closeSet left acc)) .nothing rest
    let nested (cs : List Char) : Option (CharClass × List Char) :=
      let (negated, k, rest) := openSet f cs
      readSet? f fuel negated none k rest
    let add (item : Option (CharClass × List Char)) :=
      match item with
      | some (k, rest) => readSet? f fuel negated left (.union acc k) rest
      | none => none
    match skipSpace f cs with
    | [] => none
    | ']' :: rest =>
      let k := closeSet left acc
      if negated then (if f.unicode then some (.complement k, rest) else none) else some (k, rest)
    | '[' :: ':' :: rest =>
      match readPosix? rest with
      | some found => add (some found)
      | none => add (nested (':' :: rest))
    | '[' :: rest => add (nested rest)
    | '&' :: '&' :: rest => join .intersection rest
    | '-' :: '-' :: rest => join .difference rest
    | '~' :: '~' :: rest => join .symmetricDifference rest
    | cs => add (readSetItem? f cs)

/-- Reads brackets behind the opening one. -/
def readBrackets? (f : Flags) (cs : List Char) : Option (CharClass × List Char) :=
  let (negated, k, rest) := openSet f cs
  readSet? f (cs.length + 1) negated none k rest

/-! ## Repetitions -/

/-- Reads a number with blanks around it. -/
def readCount? (cs : List Char) : Option (Nat × List Char) :=
  let cs := Text.trimStart cs
  match Numeral.readDigits? 10 (cs.takeWhile Char.isDigit) with
  | some n => if n < UInt32.size then some (n, Text.trimStart (cs.dropWhile Char.isDigit)) else none
  | none => none

/-- Reads the bounds of a repetition behind the opening brace. -/
def readBounds? (cs : List Char) : Option (Nat × Option Nat × List Char) :=
  match readCount? cs with
  | none => none
  | some (least, '\x7d' :: rest) => some (least, some least, rest)
  | some (least, ',' :: rest) =>
    match Text.trimStart rest with
    | '\x7d' :: rest => some (least, none, rest)
    | rest =>
      match readCount? rest with
      | some (most, '\x7d' :: rest) => if least ≤ most then some (least, some most, rest) else none
      | _ => none
  | some _ => none

/-- The mark that makes a repetition take as little as it can, which does not change what
matches. -/
def dropLazyMark : List Char → List Char
  | '?' :: rest => rest
  | cs => cs

/-! ## Patterns -/

/-- An item of a written pattern; a change of flags is one that matches nothing and cannot be
repeated. -/
abbrev Item := Option Pattern

/-- The items so far, the last one first, with the last one repeated. -/
def repeatLast? (items : List Item) (least : Nat) (most : Option Nat) : Option (List Item) :=
  match items with
  | some p :: rest => some (some (.repeated p least most) :: rest)
  | _ => none

/-- The alternatives so far, joined with the items behind the last bar. -/
def closeBranch (done : Option Pattern) (items : List Item) : Pattern :=
  let branch := sequenceOf (items.reverse.filterMap id)
  match done with
  | some p => .either p branch
  | none => branch

/-- Whether a character can stand in the name of a group. -/
def isNameChar (first : Bool) (c : Char) : Bool :=
  c == '_' || (Text.isWordCharacter c && !(first && Text.isDecimalDigit c))
    || (!first && (c == '.' || c == '[' || c == ']'))

/-- Reads the name of a group up to the mark that closes it. -/
def readName? (cs : List Char) : Option (List Char × List Char) :=
  match Text.cutAt? '>' cs with
  | some (c :: name, rest) =>
    if isNameChar true c && name.all (isNameChar false) then some (c :: name, rest) else none
  | _ => none

/-- How a parenthesis opens. -/
inductive Opening where
  /-- A group, with the flags inside. -/
  | group (inside : Flags)
  /-- A group with a name. -/
  | named (name : List Char)
  /-- A change of flags for what follows. -/
  | flags (f : Flags)
  deriving DecidableEq, Repr

/-- Reads what stands behind an opening parenthesis. Looking ahead or behind is no part of the
notation. -/
def readOpening? (f : Flags) : List Char → Option (Opening × List Char)
  | '?' :: 'P' :: '<' :: cs => (readName? cs).map fun (n, rest) => (.named n, rest)
  | '?' :: '<' :: cs => (readName? cs).map fun (n, rest) => (.named n, rest)
  | '?' :: cs =>
    match readFlags? f [] true cs with
    | some (f', _, ':' :: rest) => some (.group f', rest)
    | some (f', seen, ')' :: rest) => if seen.isEmpty then none else some (.flags f', rest)
    | _ => none
  | cs => some (.group f, cs)

/-- What an atom matches. -/
def Atom.pattern (f : Flags) : Atom → Pattern
  | char c => .one f.foldsCase (.single c)
  | cls k => .one f.foldsCase k
  | edge e => .edge e

/-- What a point stands for. -/
def dot? (f : Flags) : Option Pattern :=
  if !f.unicode then none
  else if f.dotMatchesAll then some (.one false .anything)
  else if f.returns then some (.one false (.complement (.ranges [('\n', '\n'), ('\r', '\r')])))
  else some (.one false (.complement (.single '\n')))

/-- Reads alternatives up to a closing parenthesis, which is left, or to the end. `names` are the
names of the groups before, `done` the alternatives and `items` the items so far. -/
def readBody? (fuel : Nat) (f : Flags) (names : List (List Char)) (done : Option Pattern)
    (items : List Item) (cs : List Char) : Option (Pattern × List (List Char) × List Char) :=
  match fuel with
  | 0 => none
  | fuel + 1 =>
    let push (p : Option (Pattern × List Char)) :=
      match p with
      | some (p, rest) => readBody? fuel f names done (some p :: items) rest
      | none => none
    let repetition (least : Nat) (most : Option Nat) (rest : List Char) :=
      match repeatLast? items least most with
      | some items => readBody? fuel f names done items (dropLazyMark rest)
      | none => none
    let group (inside : Flags) (names : List (List Char)) (rest : List Char) :=
      match readBody? fuel inside names none [] rest with
      | some (p, names, ')' :: rest) => readBody? fuel f names done (some p :: items) rest
      | _ => none
    match skipSpace f cs with
    | [] => some (closeBranch done items, names, [])
    | ')' :: rest => some (closeBranch done items, names, ')' :: rest)
    | '|' :: rest => readBody? fuel f names (some (closeBranch done items)) [] rest
    | '(' :: rest =>
      match readOpening? f (skipSpace f rest) with
      | some (.group inside, rest) => group inside names rest
      | some (.named name, rest) =>
        if names.contains name then none else group f (name :: names) rest
      | some (.flags f', rest) => readBody? fuel f' names done (none :: items) rest
      | none => none
    | '[' :: rest => push ((readBrackets? f rest).map fun (k, rest) => (.one f.foldsCase k, rest))
    | '*' :: rest => repetition 0 none rest
    | '+' :: rest => repetition 1 none rest
    | '?' :: rest => repetition 0 (some 1) rest
    | '\x7b' :: rest =>
      match readBounds? rest with
      | some (least, most, rest) => repetition least most rest
      | none => none
    | '.' :: rest => push ((dot? f).map (·, rest))
    | '^' :: rest =>
      push (some (.edge (if f.lineEdges then .lineStart f.returns else .textStart), rest))
    | '$' :: rest =>
      push (some (.edge (if f.lineEdges then .lineEnd f.returns else .textEnd), rest))
    | '\\' :: rest => push ((readEscape? f rest).map fun (a, rest) => (a.pattern f, rest))
    | c :: rest => push (some (.one f.foldsCase (.single c), rest))

/-- Reads a pattern. -/
def read? (text : String) : Option Pattern :=
  match readBody? (text.length + 1) {} [] none [] text.toList with
  | some (p, _, []) => some p
  | _ => none

/-- `reader text`: the pattern that `text` stands for selects the texts that it occurs in. -/
def reader (text : String) : Except String (String → Bool) :=
  match read? text with
  | some p => .ok p.occursIn
  | none => .error "<regex>"

end MountKeeper.Pattern
