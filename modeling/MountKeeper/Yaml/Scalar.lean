import MountKeeper.Yaml.Cursor
import MountKeeper.Text.Numeral

/-! # Scalars in a document

Reading the four written forms of a scalar: quoted with single or double quotes, plain, and block
scalars. Each reader answers with the characters of the scalar and the cursor behind it. -/

namespace MountKeeper.Yaml.Scalar

/-! ## Quoted scalars -/

/-- The characters behind a backslash that stand for one character. -/
def simpleEscape? (c : Char) : Option Char :=
  match c with
  | '0' => some '\x00'
  | 'a' => some '\x07'
  | 'b' => some '\x08'
  | 't' | '\t' => some '\t'
  | 'n' => some '\n'
  | 'v' => some '\x0b'
  | 'f' => some '\x0c'
  | 'r' => some '\r'
  | 'e' => some '\x1b'
  | ' ' => some ' '
  | '"' => some '"'
  | '/' => some '/'
  | '\\' => some '\\'
  | 'N' => some '\u0085'
  | '_' => some '\u00a0'
  | 'L' => some '\u2028'
  | 'P' => some '\u2029'
  | _ => none

/-- The number of hexadecimal digits that follow a numeric escape. -/
def escapeWidth? (c : Char) : Option Nat :=
  match c with
  | 'x' => some 2
  | 'u' => some 4
  | 'U' => some 8
  | _ => none

/-- The character of an escape whose backslash stands here, and the cursor behind it. -/
def readEscape? (c : Cursor) : Option (Char × Cursor) :=
  match c.at? 1 with
  | none => none
  | some mark =>
    match simpleEscape? mark, escapeWidth? mark with
    | some ch, _ => some (ch, c.skip 2)
    | none, some width =>
      let digits := (c.rest.drop 2).take width
      if digits.length != width then none
      else match Numeral.readDigits? 16 digits with
        | some n => if h : n.isValidChar then some (Char.ofNatAux n h, c.skip (2 + width)) else none
        | none => none
    | none, none => none

/-- The pieces of a quoted scalar up to spacing, a break or the closing quote. The last component
says that an escaped break ended them. -/
def quotedPiece (single : Bool) :
    Nat → List Char → Cursor → Option (List Char × Cursor × Bool)
  | 0, _, _ => none
  | fuel + 1, acc, c =>
    match c.at? 0 with
    | none => some (acc, c, false)
    | some ch =>
      if isSpacing ch || isBreak ch then some (acc, c, false)
      else if single && ch == '\'' && c.at? 1 == some '\'' then
        quotedPiece single fuel ('\'' :: acc) (c.skip 2)
      else if ch == (if single then '\'' else '"') then some (acc, c, false)
      else if !single && ch == '\\' then
        if (c.at? 1).any isBreak then some (acc, c.skip.readBreak.2, true)
        else match readEscape? c with
          | some (e, c) => quotedPiece single fuel (e :: acc) c
          | none => none
      else quotedPiece single fuel (ch :: acc) c.skip

/-- The inside of a quoted scalar, gathered in reverse, up to its closing quote. -/
def quotedInside (single : Bool) : Nat → List Char → Cursor → Option (List Char × Cursor)
  | 0, _, _ => none
  | fuel + 1, acc, c =>
    if c.atMarker || c.rest.isEmpty then none
    else match quotedPiece single (c.rest.length + 1) acc c with
      | none => none
      | some (acc, c, escaped) =>
        if c.at? 0 == some (if single then '\'' else '"') then some (acc.reverse, c.skip)
        else match Gap.scanAll none { broken := escaped } c with
          | none => none
          | some (g, c) => quotedInside single fuel (g.text.reverse ++ acc) c

/-- A quoted scalar whose opening quote stands here. -/
def quoted? (single : Bool) (c : Cursor) : Option (List Char × Cursor) :=
  quotedInside single (c.rest.length + 1) [] c.skip

/-! ## Plain scalars -/

/-- The characters that end a plain scalar, or may not follow a colon, inside flow collections. -/
def isFlowMark (c : Char) : Bool :=
  c == ',' || c == '[' || c == ']' || c == '{' || c == '}'

/-- A piece of a plain scalar without spacing, gathered in reverse. -/
def plainPiece (flow : Bool) : List Char → Cursor → List Char → Option (List Char × Cursor)
  | acc, c, [] => some (acc, c)
  | acc, c, ch :: more =>
    if isSpacing ch || isBreak ch then some (acc, c)
    else if flow && ch == ':' && more.head?.any (fun n => isFlowMark n || n == '?') then none
    else if ch == ':' && endsWord more.head? then some (acc, c)
    else if flow && isFlowMark ch then some (acc, c)
    else plainPiece flow (ch :: acc) c.skip more

/-- A plain scalar, gathered in reverse. The gap before a piece counts only when the piece has
characters. The last component says that a break was passed. -/
def plainInside (flow : Bool) (indent : Int) :
    Nat → Gap → List Char → Cursor → Option (List Char × Cursor × Bool)
  | 0, _, _, _ => none
  | fuel + 1, gap, acc, c =>
    if c.atMarker || c.at? 0 == some '#' then some (acc.reverse, c, gap.broken)
    else match plainPiece flow [] c c.rest with
      | none => none
      | some (piece, c') =>
        let (acc, gap) :=
          if piece.isEmpty then (acc, gap) else (piece ++ (gap.text.reverse ++ acc), {})
        if !(c'.at? 0).any (fun ch => isSpacing ch || isBreak ch) then
          some (acc.reverse, c', gap.broken)
        else match Gap.scanAll (some indent) gap c' with
          | none => none
          | some (gap, c) =>
            if !flow && (c.column : Int) < indent then some (acc.reverse, c, gap.broken)
            else plainInside flow indent fuel gap acc c

/-- A plain scalar that starts here. -/
def plain? (flow : Bool) (indent : Int) (c : Cursor) : Option (List Char × Cursor × Bool) :=
  plainInside flow indent (c.rest.length + 1) {} [] c

/-! ## Block scalars -/

/-- What becomes of the breaks at the end of a block scalar. -/
inductive Chomping where
  | strip | clip | keep
  deriving DecidableEq, Repr

/-- The header of a block scalar: the indentation that it states, if any, and its chomping. -/
def blockHeader? (c : Cursor) : Option (Option Nat × Chomping × Cursor) :=
  let chomping? (c : Cursor) : Option Chomping :=
    if c.at? 0 == some '+' then some .keep
    else if c.at? 0 == some '-' then some .strip
    else none
  let indent? (c : Cursor) : Option (Option Nat × Cursor) :=
    match c.at? 0 with
    | some ch =>
      if ch == '0' then none
      else if ch.isDigit then some (some (ch.toNat - '0'.toNat), c.skip)
      else some (none, c)
    | none => some (none, c)
  match chomping? c with
  | some chomping => (indent? c.skip).map fun (n, c) => (n, chomping, c)
  | none => (indent? c).map fun (n, c) =>
    if n.isNone then (n, .clip, c)
    else match chomping? c with
      | some chomping => (n, chomping, c.skip)
      | none => (n, .clip, c)

/-- The empty lines that stand here, up to the first line with a character behind the indentation.
`indent` is zero while the indentation is still open; the last component is the greatest column
that spaces reached. -/
def blockBreaks (indent : Nat) :
    Nat → List Char → Nat → Cursor → Option (List Char × Nat × Cursor)
  | 0, _, _, _ => none
  | fuel + 1, breaks, deepest, c =>
    let spaces := (c.rest.takeWhile (· == ' ')).length
    let c := c.skip (if indent = 0 then spaces else min spaces (indent - c.column))
    let deepest := max deepest c.column
    if (indent = 0 || c.column < indent) && c.at? 0 == some '\t' then none
    else if (c.at? 0).any isBreak then
      let (b, c) := c.readBreak
      blockBreaks indent fuel (breaks ++ b) deepest c
    else some (breaks, deepest, c)

/-- The lines of a block scalar: the text so far, the break after its last line, and the breaks of
the empty lines behind that. -/
def blockLines (literal : Bool) (indent : Nat) :
    Nat → List Char → List Char → List Char → Bool → Cursor →
      Option (List Char × List Char × List Char × Cursor)
  | 0, _, _, _, _, _ => none
  | fuel + 1, acc, lastBreak, breaks, spaced, c =>
    if c.column != indent || c.rest.isEmpty then some (acc, lastBreak, breaks, c)
    else
      let spacedNow := (c.at? 0).any isSpacing
      let joint :=
        if !literal && lastBreak.head? == some '\n' && !spaced && !spacedNow then
          (if breaks.isEmpty then [' '] else []) ++ breaks
        else lastBreak ++ breaks
      let (line, c) := c.span fun ch => !isBreak ch
      let (lastBreak, c) := c.readBreak
      match blockBreaks indent (c.rest.length + 1) [] 0 c with
      | none => none
      | some (breaks, _, c) =>
        blockLines literal indent fuel (acc ++ joint ++ line) lastBreak breaks spacedNow c

/-- A block scalar whose indicator stands here, inside a collection of the given indentation. -/
def block? (literal : Bool) (parent : Int) (c : Cursor) : Option (List Char × Cursor) :=
  match blockHeader? c.skip with
  | none => none
  | some (stated, chomping, c) =>
    match c.restOfLine? with
    | none => none
    | some c =>
      let open_ := match stated with
        | some n => if 0 ≤ parent then parent.toNat + n else n
        | none => 0
      match blockBreaks open_ (c.rest.length + 1) [] 0 c with
      | none => none
      | some (breaks, deepest, c) =>
        let indent := if open_ = 0 then max (max deepest (parent + 1).toNat) 1 else open_
        match blockLines literal indent (c.rest.length + 1) [] [] breaks false c with
        | none => none
        | some (acc, lastBreak, breaks, c) =>
          let tail := match chomping with
            | .strip => []
            | .clip => lastBreak
            | .keep => lastBreak ++ breaks
          some (acc ++ tail, c)

end MountKeeper.Yaml.Scalar
