import MountKeeper.Yaml.Core
import MountKeeper.Yaml.Character

/-! # Writing documents

A value is written in block style: one entry or item a line, nested collections indented by two
columns, and the items of a sequence that is an entry's value in the column of its key.

* `ScalarForm.ofText` is what the characters of a scalar allow, and `ScalarStyle` the form chosen.
* A `Sheet` is the text written so far; `Sheet.node` writes a value onto it.
* `Value.toText` is the document of a value. -/

namespace MountKeeper.Yaml

/-! ## Forms of scalars -/

/-- The written forms of a scalar. -/
inductive ScalarStyle where
  | plain | single | double | literal
  deriving DecidableEq, Repr

/-- What the characters of a scalar allow. -/
structure ScalarForm where
  /-- Whether it runs over several lines. -/
  multiline : Bool
  /-- Whether it may stand plain. -/
  plain : Bool
  /-- Whether it may stand in single quotes. -/
  single : Bool
  /-- Whether it may stand as a block. -/
  block : Bool
  deriving DecidableEq, Repr

namespace ScalarForm

/-- Whether the first character, given the one behind it, keeps a scalar from standing plain. -/
def marksStart (c : Char) (next : Option Char) : Bool :=
  "#,[]\x7b\x7d&*!|>'\"%@`".toList.contains c
    || ((c == '?' || c == ':' || c == '-') && endsWord next)

/-- Whether a later character, given its neighbours, keeps a scalar from standing plain. -/
def marksInside (before c : Char) (next : Option Char) : Bool :=
  (c == ':' && endsWord next) || (c == '#' && endsWord (some before))

/-- Whether some character behind the first keeps a scalar from standing plain. -/
def marksLater : List Char → Bool
  | before :: c :: rest => marksInside before c rest.head? || marksLater (c :: rest)
  | _ => false

/-- Whether a character with the first property directly precedes one with the second. -/
def meets (p q : Char → Bool) : List Char → Bool
  | a :: b :: rest => (p a && q b) || meets p q (b :: rest)
  | _ => false

/-- What the characters of a scalar allow. -/
def ofText (cs : List Char) : ScalarForm :=
  match cs with
  | [] => ⟨false, true, true, false⟩
  | first :: rest =>
    let isSpace (c : Char) : Bool := c == ' '
    let marker := ['-', '-', '-'].isPrefixOf cs || ['.', '.', '.'].isPrefixOf cs
    let marks := marker || marksStart first rest.head? || marksLater cs
    let special := cs.any fun c => !isPrintable c
    let breaks := cs.any isBreak
    let edges (p : Char → Bool) : Bool := p first || (cs.getLast?.any p)
    let breakSpace := meets isBreak isSpace cs
    let spaceBreak := meets isSpace isBreak cs
    let hidden := spaceBreak || special
    { multiline := breaks
      plain := !(edges isSpace || edges isBreak || breakSpace || hidden || breaks || marks)
      single := !(breakSpace || hidden)
      block := !(cs.getLast?.any isSpace || hidden) }

end ScalarForm

/-- Words that other readers take for truth values. -/
def isTruthWord (s : String) : Bool :=
  ["y", "Y", "yes", "Yes", "YES", "n", "N", "no", "No", "NO", "true", "True", "TRUE", "false",
    "False", "FALSE", "on", "On", "ON", "off", "Off", "OFF"].contains s

/-- The form that a string asks for: quotes where a plain one would be read as something else, a
block where it has line feeds. -/
def wantedStyle (s : String) : ScalarStyle :=
  if isTruthWord s then .single
  else if s.toList.contains '\n' then .literal
  else match Core.resolve? s with
    | some (.string _) => if Core.isZeroFilled s then .single else .plain
    | _ => .single

/-- The form in which a scalar is written, given the one it asks for and whether it is a key on the
line of its value. -/
def chosenStyle (form : ScalarForm) (empty asKey : Bool) (wanted : ScalarStyle) : ScalarStyle :=
  let style := if asKey && form.multiline then .double else wanted
  let style := if style = .plain && (!form.plain || (empty && asKey)) then .single else style
  let style := if style = .single && !form.single then .double else style
  if style = .literal && (!form.block || asKey) then .double else style

/-! ## The text written so far -/

/-- The text written so far, with what decides about the next blank or break. -/
structure Sheet where
  /-- The text, the last character first. -/
  written : List Char := []
  /-- The column of the next character. -/
  column : Nat := 0
  /-- Whether the last character written was a blank or a break. -/
  blank : Bool := true
  /-- Whether only indentation and indicators stand on this line. -/
  indenting : Bool := true
  deriving Repr

namespace Sheet

/-- Writes characters that are no breaks. -/
def put (cs : List Char) (s : Sheet) : Sheet :=
  { s with written := cs.reverse ++ s.written, column := s.column + cs.length }

/-- Ends the line. -/
def newLine (s : Sheet) : Sheet :=
  { s with written := '\n' :: s.written, column := 0 }

/-- Writes a break as it is. -/
def putBreak (c : Char) (s : Sheet) : Sheet :=
  if c == '\n' then s.newLine else { s with written := c :: s.written, column := 0 }

/-- Goes to the column `indent`, on a new line unless this one is still free up to there. -/
def indentTo (indent : Nat) (s : Sheet) : Sheet :=
  let s := if !s.indenting || indent < s.column || (s.column = indent && !s.blank) then s.newLine
    else s
  let s := s.put (List.replicate (indent - s.column) ' ')
  { s with blank := true, indenting := true }

/-- Writes an indicator, behind a space when it needs one. -/
def indicator (cs : List Char) (spaced isBlank isIndent : Bool) (s : Sheet) : Sheet :=
  let s := if spaced && !s.blank then s.put [' '] else s
  let s := s.put cs
  { s with blank := isBlank, indenting := s.indenting && isIndent }

/-! ## Scalars -/

/-- Writes a plain scalar. -/
def plainScalar (cs : List Char) (s : Sheet) : Sheet :=
  let s := if !s.blank && !cs.isEmpty then s.put [' '] else s
  let s := s.put cs
  if cs.isEmpty then s else { s with blank := false, indenting := false }

/-- The characters of a scalar in single quotes. `breaks` says that the character before was a
break; a line feed is written twice. -/
def singleInside (indent : Nat) : List Char → Bool → Sheet → Sheet
  | [], breaks, s => if breaks then s.indentTo indent else s
  | c :: cs, breaks, s =>
    if isBreak c then
      let s := if !breaks && c == '\n' then s.newLine else s
      singleInside indent cs true { s.putBreak c with indenting := true }
    else
      let s := if breaks && c != ' ' then s.indentTo indent else s
      let s := if c == '\'' then s.put ['\'', '\''] else s.put [c]
      singleInside indent cs (breaks && c == ' ')
        (if c == ' ' then s else { s with indenting := false })

/-- Writes a scalar in single quotes. -/
def singleScalar (indent : Nat) (cs : List Char) (s : Sheet) : Sheet :=
  (singleInside indent cs false (s.indicator ['\''] true false false)).indicator ['\'']
    false false false

/-- The escape of a character in double quotes. -/
def escape (c : Char) : List Char :=
  let n := c.toNat
  let hex (mark : Char) (width : Nat) : List Char :=
    mark :: (Numeral.padded width (Nat.toDigits 16 n)).map Char.toUpper
  '\\' :: match n with
    | 0x00 => ['0']
    | 0x07 => ['a']
    | 0x08 => ['b']
    | 0x09 => ['t']
    | 0x0A => ['n']
    | 0x0B => ['v']
    | 0x0C => ['f']
    | 0x0D => ['r']
    | 0x1B => ['e']
    | 0x22 => ['"']
    | 0x5C => ['\\']
    | 0x85 => ['N']
    | 0xA0 => ['_']
    | 0x2028 => ['L']
    | 0x2029 => ['P']
    | _ => if n ≤ 0xFF then hex 'x' 2 else if n ≤ 0xFFFF then hex 'u' 4 else hex 'U' 8

/-- Whether a character is escaped in double quotes. -/
def needsEscape (c : Char) : Bool :=
  !isPrintable c || isBreak c || c == '"' || c == '\\'

/-- Writes a scalar in double quotes. -/
def doubleScalar (cs : List Char) (s : Sheet) : Sheet :=
  let body := cs.flatMap fun c => if needsEscape c then escape c else [c]
  ((s.indicator ['"'] true false false).put body).indicator ['"'] false false false

/-- What the header of a block scalar says about the breaks at its end. -/
def chompMark (cs : List Char) : List Char :=
  match cs.reverse with
  | [] => ['-']
  | last :: before =>
    if !isBreak last then ['-']
    else match before with
      | [] => ['+']
      | c :: _ => if isBreak c then ['+'] else []

/-- The lines of a block scalar. -/
def literalLines (indent : Nat) : List Char → Bool → Sheet → Sheet
  | [], _, s => s
  | c :: cs, breaks, s =>
    if isBreak c then literalLines indent cs true { s.putBreak c with indenting := true }
    else
      let s := if breaks then s.indentTo indent else s
      literalLines indent cs false { s.put [c] with indenting := false }

/-- Writes a block scalar. -/
def literalScalar (indent : Nat) (cs : List Char) (s : Sheet) : Sheet :=
  let s := s.indicator ['|'] true false false
  let s := if cs.head?.any (fun c => c == ' ' || isBreak c) then
    s.indicator ['2'] false false false else s
  let s := s.indicator (chompMark cs) false false false
  literalLines indent cs true { s.newLine with blank := true, indenting := true }

/-- Writes a scalar whose form is wanted to be `wanted`, inside a collection at `indent`. -/
def scalar (text : String) (wanted : ScalarStyle) (indent : Nat) (asKey : Bool)
    (s : Sheet) : Sheet :=
  let cs := text.toList
  match chosenStyle (ScalarForm.ofText cs) cs.isEmpty asKey wanted with
  | .plain => s.plainScalar cs
  | .single => s.singleScalar indent cs
  | .double => s.doubleScalar cs
  | .literal => s.literalScalar indent cs

/-- The characters of a tag as they are written. -/
def tagBody (tag : String) : List Char :=
  tag.toList.flatMap fun c =>
    if isTagChar false c && c != '%' && c != '!' then [c]
    else c.toString.toUTF8.toList.flatMap fun b =>
      '%' :: (Numeral.padded 2 (Nat.toDigits 16 b.toNat)).map Char.toUpper

/-- Writes an application's tag. -/
def tag (t : String) (s : Sheet) : Sheet :=
  let s := if s.blank then s else s.put [' ']
  let s := s.put ('!' :: tagBody t)
  { s with blank := false, indenting := false }

end Sheet

/-! ## Nodes -/

/-- How floating point numbers are written: with a point, and with an exponent from `1e16` on and
below `1e-5`. -/
def floatStyle : Binary64.FloatStyle := ⟨some (-4), some 16, ".0", ".inf", ".nan"⟩

/-- The text of a scalar value and the form it asks for. -/
def scalarText? : Value → Option (String × ScalarStyle)
  | .null => some ("null", .plain)
  | .bool b => some (if b then "true" else "false", .plain)
  | .int n => some ((if n < 0 then "-" else "") ++ Numeral.decimal n.natAbs, .plain)
  | .float .nan => some (".nan", .plain)
  | .float x => some (x.write floatStyle, .plain)
  | .string s => some (s, wantedStyle s)
  | _ => none

/-- Whether a value may be a key on the line of its value, when the tag in front of it has `extra`
characters: a short scalar on one line, or an empty collection. -/
def fitsAsKey (extra : Nat) : Value → Bool
  | .sequence items => items.isEmpty && extra ≤ 128
  | .mapping entries => entries.isEmpty && extra ≤ 128
  | .tagged t v => fitsAsKey (extra + 1 + t.utf8ByteSize) v
  | v => match scalarText? v with
    | some (text, _) =>
      !(ScalarForm.ofText text.toList).multiline && extra + text.utf8ByteSize ≤ 128
    | none => false

namespace Sheet

/-- The indentation inside a collection. -/
def deeper (indent : Option Nat) : Nat :=
  match indent with
  | none => 0
  | some n => n + 2

/-- The indentation inside a scalar. -/
def scalarIndent (indent : Option Nat) : Nat :=
  match indent with
  | none => 2
  | some n => n + 2

mutual

/-- Writes a value inside a collection at `indent`. `inMapping` says that the value belongs to an
entry, and `asKey` that it is a key on the line of its value. -/
def node (indent : Option Nat) (inMapping asKey : Bool) (v : Value) (s : Sheet) : Sheet :=
  match v with
  | .tagged t v => node indent inMapping asKey v (s.tag t)
  | .sequence [] =>
    (s.indicator ['['] true true false).indicator [']'] false false false
  | .sequence (v :: vs) =>
    let level := if inMapping && !s.indenting then indent.getD 0 else deeper indent
    items level (v :: vs) s
  | .mapping [] =>
    (s.indicator ['\x7b'] true true false).indicator ['\x7d'] false false false
  | .mapping (e :: es) => entries (deeper indent) (e :: es) s
  | .string text => s.scalar text (wantedStyle text) (scalarIndent indent) asKey
  | other =>
    match scalarText? other with
    | some (text, wanted) => s.scalar text wanted (scalarIndent indent) asKey
    | none => s

/-- Writes the items of a sequence at a column. -/
def items (level : Nat) (vs : List Value) (s : Sheet) : Sheet :=
  match vs with
  | [] => s
  | v :: vs =>
    let s := (s.indentTo level).indicator ['-'] true false true
    items level vs (node (some level) false false v s)

/-- Writes the entries of a mapping at a column. -/
def entries (level : Nat) (es : List (Value × Value)) (s : Sheet) : Sheet :=
  match es with
  | [] => s
  | (k, v) :: es =>
    let s := s.indentTo level
    let s :=
      if fitsAsKey 0 k then
        (node (some level) true true k s).indicator [':'] false false false
      else
        let s := node (some level) true false k (s.indicator ['?'] true false true)
        (s.indentTo level).indicator [':'] true false true
    entries level es (node (some level) true false v s)

end

end Sheet

/-- The document of a value. -/
def Value.toText (v : Value) : String :=
  let s := Sheet.node none false false v {}
  String.ofList (s.indentTo 0).written.reverse

end MountKeeper.Yaml
