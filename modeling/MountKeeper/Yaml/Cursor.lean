import MountKeeper.Yaml.Character

/-! # A place in a document

A `Cursor` is what is left of a document together with the line, the column and the index of its
first character. -/

namespace MountKeeper.Yaml

/-- What is left of a document, and where it stands. -/
structure Cursor where
  /-- The characters that are left. -/
  rest : List Char
  /-- How many characters stand before them. -/
  index : Nat := 0
  /-- How many lines stand before them. -/
  line : Nat := 0
  /-- How many characters stand before them on their line. -/
  column : Nat := 0
  deriving Repr

namespace Cursor

/-- The character `k` places ahead. -/
def at? (c : Cursor) (k : Nat) : Option Char :=
  c.rest[k]?

/-- Whether the next characters are those of `piece`. -/
def startsWith (c : Cursor) (piece : List Char) : Bool :=
  piece.isPrefixOf c.rest

/-- The cursor `k` characters of the same line further on. -/
def skip (c : Cursor) (k : Nat := 1) : Cursor :=
  { c with rest := c.rest.drop k, index := c.index + k, column := c.column + k }

/-- The next characters with a property, all on one line, and the cursor behind them. -/
def span (p : Char → Bool) (c : Cursor) : List Char × Cursor :=
  let taken := c.rest.takeWhile p
  (taken, c.skip taken.length)

/-- The break that stands here, as it is kept in values, and the cursor behind it. A carriage
return and the line feed after it are one break. -/
def readBreak (c : Cursor) : List Char × Cursor :=
  let next (k : Nat) : Cursor := ⟨c.rest.drop k, c.index + k, c.line + 1, 0⟩
  match c.rest with
  | '\r' :: '\n' :: _ => (['\n'], next 2)
  | ch :: _ =>
    if ch == '\u2028' || ch == '\u2029' then ([ch], next 1)
    else if isBreak ch then (['\n'], next 1)
    else ([], c)
  | [] => ([], c)

/-- Whether a document marker, `---` or `...`, stands at the start of this line. -/
def atMarker (c : Cursor) : Bool :=
  c.column == 0 && (c.startsWith ['-', '-', '-'] || c.startsWith ['.', '.', '.'])
    && endsWord (c.at? 3)

/-- The cursor behind a comment, if one starts here. -/
def skipComment (c : Cursor) : Cursor :=
  if c.at? 0 == some '#' then (c.span fun ch => !isBreak ch).2 else c

/-- The cursor at the start of the next line, if only spacing and a comment are left of this one. -/
def restOfLine? (c : Cursor) : Option Cursor :=
  let c := (c.span isSpacing).2.skipComment
  if endsLine (c.at? 0) then some c.readBreak.2 else none

end Cursor

/-! ## Gaps inside scalars -/

/-- Spacing and breaks between two pieces of a scalar. -/
structure Gap where
  /-- Whether a break belongs to the gap. -/
  broken : Bool := false
  /-- The spacing before the first break. -/
  spacing : List Char := []
  /-- The first break. -/
  firstBreak : List Char := []
  /-- The breaks after the first. -/
  moreBreaks : List Char := []
  deriving Repr

namespace Gap

/-- Breaks as they are folded: one line feed alone becomes a space, and otherwise a first line feed
is left out. -/
def fold (firstBreak moreBreaks : List Char) : List Char :=
  if firstBreak.head? == some '\n' then
    if moreBreaks.isEmpty then [' '] else moreBreaks
  else firstBreak ++ moreBreaks

/-- What the gap stands for in the scalar. -/
def text (g : Gap) : List Char :=
  if g.broken then fold g.firstBreak g.moreBreaks else g.spacing

/-- The gap that goes on here and the cursor behind it. When `tabLimit` is given, a tab before that
column of a later line is refused. -/
def scan (tabLimit : Option Int) : Nat → Gap → Cursor → Option (Gap × Cursor)
  | 0, _, _ => none
  | fuel + 1, g, c =>
    match c.at? 0 with
    | none => some (g, c)
    | some ch =>
      if isSpacing ch then
        if g.broken then
          if ch == '\t' && tabLimit.any ((c.column : Int) < ·) then none
          else scan tabLimit fuel g c.skip
        else scan tabLimit fuel { g with spacing := g.spacing ++ [ch] } c.skip
      else if isBreak ch then
        let (b, c) := c.readBreak
        if g.broken then scan tabLimit fuel { g with moreBreaks := g.moreBreaks ++ b } c
        else scan tabLimit fuel { g with broken := true, spacing := [], firstBreak := b } c
      else some (g, c)

/-- `scan` with as many steps as there are characters. -/
def scanAll (tabLimit : Option Int) (g : Gap) (c : Cursor) : Option (Gap × Cursor) :=
  scan tabLimit (c.rest.length + 1) g c

end Gap

end MountKeeper.Yaml
