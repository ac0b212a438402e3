import MountKeeper.Yaml.Scalar

/-! # Tokens of documents

A document is cut into tokens before its structure is read. Indentation becomes tokens that open
and close block collections, and the mark of a mapping key is put in front of a scalar once the
colon behind it is seen.

* `Token` are the tokens; `KeyPlace` is a place where such a key may start.
* A `Lexer` is the state of the cut; `Lexer.step` takes one step, and `Token.ofChars?` runs it over
  a whole document. -/

namespace MountKeeper.Yaml

/-- A token of a document. -/
inductive Token where
  | versionDirective (major minor : Nat)
  | tagDirective (handle front : List Char)
  | documentStart | documentEnd | streamEnd
  | blockSequenceStart | blockMappingStart | blockEnd
  | flowSequenceStart | flowSequenceEnd | flowMappingStart | flowMappingEnd
  | blockEntry | flowEntry | key | value
  | alias (name : List Char)
  | anchor (name : List Char)
  | tag (handle suffix : List Char)
  | scalar (text : List Char) (plain : Bool)
  deriving DecidableEq, Repr

/-- A place where a mapping key without an indicator may start. -/
structure KeyPlace where
  /-- Whether a key has to start there, because the place is at the indentation. -/
  required : Bool
  /-- How many tokens stand before it. -/
  tokens : Nat
  /-- Where it stands. -/
  cursor : Cursor
  deriving Repr

/-- The state of cutting a document into tokens. -/
structure Lexer where
  /-- What is left of the document. -/
  cursor : Cursor
  /-- The tokens so far, the last one first. -/
  done : List Token := []
  /-- The indentation of the innermost block collection, `-1` outside all of them. -/
  indent : Int := -1
  /-- The indentations around it. -/
  outer : List Int := []
  /-- Whether a key may start here. -/
  keyAllowed : Bool := true
  /-- The place of a possible key on the innermost level. -/
  place : Option KeyPlace := none
  /-- The places on the levels around it, one for each open flow collection. -/
  places : List (Option KeyPlace) := []
  deriving Repr

namespace Lexer

/-- Whether a flow collection is open. -/
def inFlow (l : Lexer) : Bool :=
  !l.places.isEmpty

/-- The lexer with one more token. -/
def emit (t : Token) (l : Lexer) : Lexer :=
  { l with done := t :: l.done }

/-- The lexer with a token put in after the first `n` ones. -/
def insert (n : Nat) (t : Token) (l : Lexer) : Lexer :=
  let later := l.done.length - n
  { l with done := l.done.take later ++ t :: l.done.drop later }

/-! ## Indentation -/

/-- Opens a block collection when the column lies deeper than the indentation. The token goes to
the place `at_`, or to the end. -/
def roll (column : Nat) (at_ : Option Nat) (t : Token) (l : Lexer) : Lexer :=
  if !l.inFlow && l.indent < column then
    let l := { l with indent := column, outer := l.indent :: l.outer }
    match at_ with
    | some n => l.insert n t
    | none => l.emit t
  else l

/-- Closes the block collections that lie deeper than the column. -/
def unrollTo (column indent : Int) : List Int → Lexer → Lexer
  | [], l => { l with indent := indent, outer := [] }
  | o :: os, l =>
    if column < indent then unrollTo column o os (l.emit .blockEnd)
    else { l with indent := indent, outer := o :: os }

/-- Closes the block collections that lie deeper than the column, outside flow collections. -/
def unroll (column : Int) (l : Lexer) : Lexer :=
  if l.inFlow then l else unrollTo column l.indent l.outer l

/-! ## Places of keys -/

/-- Forgets the place of a possible key; a required one may not be forgotten. -/
def dropPlace? (l : Lexer) : Option Lexer :=
  if l.place.any (·.required) then none else some { l with place := none }

/-- Notes this place as that of a possible key, if one may start here. -/
def savePlace? (l : Lexer) : Option Lexer :=
  if l.keyAllowed then
    let here : KeyPlace :=
      ⟨!l.inFlow && l.indent == (l.cursor.column : Int), l.done.length, l.cursor⟩
    l.dropPlace?.map fun l => { l with place := some here }
  else some l

/-- Whether a place is out of reach: a key stands on one line and has at most 1024 characters. -/
def isStale (c : Cursor) (p : KeyPlace) : Bool :=
  p.cursor.line < c.line || p.cursor.index + 1024 < c.index

/-- Forgets the places that are out of reach; a required one may not be. -/
def dropStale? (l : Lexer) : Option Lexer :=
  let stale (p : Option KeyPlace) : Bool := p.any (isStale l.cursor)
  if (l.place :: l.places).any fun p => stale p && p.any (·.required) then none
  else
    let keep (p : Option KeyPlace) : Option KeyPlace := if stale p then none else p
    some { l with place := keep l.place, places := l.places.map keep }

/-! ## Blanks between tokens -/

/-- Passes spaces, comments and breaks. A break allows a key in block context, and there tabs count
as spacing only where no key may start. -/
def passBlanks : Nat → Lexer → Lexer
  | 0, l => l
  | fuel + 1, l =>
    let c := if l.cursor.column == 0 && l.cursor.at? 0 == some '\ufeff' then l.cursor.skip
      else l.cursor
    let tabs := l.inFlow || !l.keyAllowed
    let c := (c.span fun ch => ch == ' ' || (tabs && ch == '\t')).2.skipComment
    if (c.at? 0).any isBreak then
      passBlanks fuel { l with cursor := c.readBreak.2, keyAllowed := l.keyAllowed || !l.inFlow }
    else { l with cursor := c }

/-! ## Directives -/

/-- A number of a version: one to nine digits. -/
def versionNumber? (c : Cursor) : Option (Nat × Cursor) :=
  let (digits, c) := c.span Char.isDigit
  if digits.length > 9 then none else (Numeral.readDigits? 10 digits).map fun n => (n, c)

/-- The escaped characters of a tag that stand here. -/
def tagEscape? (c : Cursor) : Option (Char × Cursor) :=
  let octet? (k : Nat) : Option UInt8 :=
    if c.at? k == some '%' then
      let digits := (c.rest.drop (k + 1)).take 2
      if digits.length == 2 then (Numeral.readDigits? 16 digits).map UInt8.ofNat else none
    else none
  match octet? 0 with
  | none => none
  | some lead =>
    let width := if lead < 0x80 then 1 else if lead < 0xC0 then 0 else if lead < 0xE0 then 2
      else if lead < 0xF0 then 3 else if lead < 0xF8 then 4 else 0
    let octets := (List.range width).filterMap fun k => octet? (3 * k)
    if width = 0 ∨ octets.length ≠ width then none
    else match String.fromUTF8? ⟨octets.toArray⟩ with
      | some s => s.toList.head?.map fun ch => (ch, c.skip (3 * width))
      | none => none

/-- The characters of a tag that stand here. -/
def tagText (flow : Bool) : Nat → List Char → Cursor → Option (List Char × Cursor)
  | 0, _, _ => none
  | fuel + 1, acc, c =>
    match c.at? 0 with
    | none => some (acc.reverse, c)
    | some ch =>
      if ch == '%' then match tagEscape? c with
        | some (e, c) => tagText flow fuel (e :: acc) c
        | none => none
      else if isTagChar flow ch then tagText flow fuel (ch :: acc) c.skip
      else some (acc.reverse, c)

/-- `tagText` with as many steps as there are characters. -/
def tagAll (flow : Bool) (c : Cursor) : Option (List Char × Cursor) :=
  tagText flow (c.rest.length + 1) [] c

/-- A tag handle: `!`, `!name!`, or a `!name` that turns out to be part of a tag. -/
def tagHandle? (c : Cursor) : Option (List Char × Cursor) :=
  if c.at? 0 == some '!' then
    let (name, c) := c.skip.span isNameChar
    if c.at? 0 == some '!' then some ('!' :: name ++ ['!'], c.skip) else some ('!' :: name, c)
  else none

/-- The directive whose percent sign stands here. -/
def directive? (c : Cursor) : Option (Token × Cursor) :=
  let (name, c) := c.skip.span isNameChar
  if name.isEmpty || !endsWord (c.at? 0) then none
  else if name = "YAML".toList then
    match versionNumber? (c.span isSpacing).2 with
    | none => none
    | some (major, c) =>
      if c.at? 0 == some '.' then
        match versionNumber? c.skip with
        | none => none
        | some (minor, c) => c.restOfLine?.map fun c => (.versionDirective major minor, c)
      else none
  else if name = "TAG".toList then
    match tagHandle? (c.span isSpacing).2 with
    | none => none
    | some (handle, c) =>
      if (handle != ['!'] && handle.getLast? != some '!') || !(c.at? 0).any isSpacing then none
      else match tagAll true (c.span isSpacing).2 with
        | none => none
        | some (front, c) =>
          if front.isEmpty || !endsWord (c.at? 0) then none
          else c.restOfLine?.map fun c => (.tagDirective handle front, c)
  else none

/-! ## Properties of nodes -/

/-- The name behind `&` or `*`, and the cursor behind it. -/
def anchorName? (c : Cursor) : Option (List Char × Cursor) :=
  let (name, c) := c.skip.span isNameChar
  let ends := endsWord (c.at? 0) || (c.at? 0).any fun ch => "?:,]\x7d%@`".toList.contains ch
  if name.isEmpty || !ends then none else some (name, c)

/-- The handle and the suffix of the tag that starts here. -/
def tagParts? (c : Cursor) : Option ((List Char × List Char) × Cursor) :=
  if c.at? 1 == some '<' then
    match tagAll true (c.skip 2) with
    | some (uri, c) =>
      if uri.isEmpty || c.at? 0 != some '>' then none else some (([], uri), c.skip)
    | none => none
  else match tagHandle? c with
    | none => none
    | some (handle, c) =>
      if 1 < handle.length && handle.getLast? == some '!' then
        match tagAll false c with
        | some (suffix, c) => if suffix.isEmpty then none else some ((handle, suffix), c)
        | none => none
      else match tagAll false c with
        | some (more, c) =>
          let suffix := handle.drop 1 ++ more
          some (if suffix.isEmpty then ([], ['!']) else (['!'], suffix), c)
        | none => none

/-! ## Steps -/

/-- A token that opens or closes a document. -/
def markerStep? (t : Token) (width : Nat) (l : Lexer) : Option Lexer :=
  (l.unroll (-1)).dropPlace?.map fun l =>
    { l.emit t with keyAllowed := false, cursor := l.cursor.skip width }

/-- A token that opens a flow collection. -/
def openStep? (t : Token) (l : Lexer) : Option Lexer :=
  l.savePlace?.map fun l =>
    { l.emit t with
      keyAllowed := true, cursor := l.cursor.skip, place := none, places := l.place :: l.places }

/-- A token that closes a flow collection. -/
def closeStep? (t : Token) (l : Lexer) : Option Lexer :=
  l.dropPlace?.map fun l =>
    let l := match l.places with
      | p :: ps => { l with place := p, places := ps }
      | [] => l
    { l.emit t with keyAllowed := false, cursor := l.cursor.skip }

/-- A comma between the items of a flow collection. -/
def commaStep? (l : Lexer) : Option Lexer :=
  l.dropPlace?.map fun l =>
    { l.emit .flowEntry with keyAllowed := true, cursor := l.cursor.skip }

/-- A hyphen in front of an item. -/
def hyphenStep? (l : Lexer) : Option Lexer :=
  if !l.inFlow && !l.keyAllowed then none
  else (l.roll l.cursor.column none .blockSequenceStart).dropPlace?.map fun l =>
    { l.emit .blockEntry with keyAllowed := true, cursor := l.cursor.skip }

/-- A question mark in front of a key. -/
def questionStep? (l : Lexer) : Option Lexer :=
  if !l.inFlow && !l.keyAllowed then none
  else (l.roll l.cursor.column none .blockMappingStart).dropPlace?.map fun l =>
    { l.emit .key with keyAllowed := !l.inFlow, cursor := l.cursor.skip }

/-- A colon in front of a value. It makes a key of the possible key before it. -/
def colonStep? (l : Lexer) : Option Lexer :=
  match l.place with
  | some p =>
    let l := (l.insert p.tokens .key).roll p.cursor.column (some p.tokens) .blockMappingStart
    some { l.emit .value with place := none, keyAllowed := false, cursor := l.cursor.skip }
  | none =>
    if !l.inFlow && !l.keyAllowed then none
    else
      let l := l.roll l.cursor.column none .blockMappingStart
      some { l.emit .value with keyAllowed := !l.inFlow, cursor := l.cursor.skip }

/-- A property of a node, or a scalar that may be a key. -/
def nodeStep? (read : Cursor → Option (Token × Cursor)) (l : Lexer) : Option Lexer :=
  l.savePlace?.bind fun l => (read l.cursor).map fun (t, c) =>
    { l.emit t with keyAllowed := false, cursor := c }

/-- A plain scalar. Behind a break a key may start again. -/
def plainStep? (l : Lexer) : Option Lexer :=
  l.savePlace?.bind fun l =>
    (Scalar.plain? l.inFlow (l.indent + 1) l.cursor).map fun (text, c, broken) =>
      { l.emit (.scalar text true) with keyAllowed := broken, cursor := c }

/-- A block scalar. -/
def blockStep? (literal : Bool) (l : Lexer) : Option Lexer :=
  l.dropPlace?.bind fun l => (Scalar.block? literal l.indent l.cursor).map fun (text, c) =>
    { l.emit (.scalar text false) with keyAllowed := true, cursor := c }

/-- A directive. -/
def directiveStep? (l : Lexer) : Option Lexer :=
  (l.unroll (-1)).dropPlace?.bind fun l => (directive? l.cursor).map fun (t, c) =>
    { l.emit t with keyAllowed := false, cursor := c }

/-- Whether a plain scalar may start with a character, given the one behind it. -/
def startsPlain (flow : Bool) (ch : Char) (next : Option Char) : Bool :=
  if ch == '-' then !next.any isSpacing
  else if ch == '?' || ch == ':' then !flow && !endsWord next
  else !(isSpacing ch || isBreak ch || ",[]\x7b\x7d#&*!|>'\"%@`".toList.contains ch)

/-- The token that starts with the character `ch`, when no blanks stand before it. -/
def tokenStep? (ch : Char) (l : Lexer) : Option Lexer :=
  let c := l.cursor
  let next := c.at? 1
  if c.column == 0 && ch == '%' then l.directiveStep?
  else if c.atMarker then
    l.markerStep? (if ch == '-' then .documentStart else .documentEnd) 3
  else if ch == '[' then l.openStep? .flowSequenceStart
  else if ch == '\x7b' then l.openStep? .flowMappingStart
  else if ch == ']' then l.closeStep? .flowSequenceEnd
  else if ch == '\x7d' then l.closeStep? .flowMappingEnd
  else if ch == ',' then l.commaStep?
  else if ch == '-' && endsWord next then l.hyphenStep?
  else if ch == '?' && (l.inFlow || endsWord next) then l.questionStep?
  else if ch == ':' && (l.inFlow || endsWord next) then l.colonStep?
  else if ch == '*' then
    l.nodeStep? fun c => (anchorName? c).map fun (name, c) => (.alias name, c)
  else if ch == '&' then
    l.nodeStep? fun c => (anchorName? c).map fun (name, c) => (.anchor name, c)
  else if ch == '!' then
    l.nodeStep? fun c => match tagParts? c with
      | some ((handle, suffix), c) =>
        let ends := endsWord (c.at? 0) || (l.inFlow && c.at? 0 == some ',')
        if ends then some (.tag handle suffix, c) else none
      | none => none
  else if ch == '|' && !l.inFlow then l.blockStep? true
  else if ch == '>' && !l.inFlow then l.blockStep? false
  else if ch == '\'' || ch == '"' then
    l.nodeStep? fun c =>
      (Scalar.quoted? (ch == '\'') c).map fun (text, c) => (.scalar text false, c)
  else if startsPlain l.inFlow ch next then l.plainStep?
  else none

/-- Closes everything at the end of the document. -/
def finish? (l : Lexer) : Option (List Token) :=
  (l.unroll (-1)).dropPlace?.map fun l => (Token.streamEnd :: l.done).reverse

/-- Takes steps up to the end of the document. -/
def run : Nat → Lexer → Option (List Token)
  | 0, _ => none
  | fuel + 1, l =>
    match (l.passBlanks (l.cursor.rest.length + 1)).dropStale? with
    | none => none
    | some l =>
      let l := l.unroll l.cursor.column
      match l.cursor.at? 0 with
      | none => l.finish?
      | some ch =>
        match l.tokenStep? ch with
        | none => none
        | some l => run fuel l

end Lexer

/-- The tokens of a document, if it can be cut into tokens. A byte order mark may stand in front. -/
def Token.ofChars? (cs : List Char) : Option (List Token) :=
  let cs := match cs with
    | '\ufeff' :: rest => rest
    | _ => cs
  if cs.all isAllowed then Lexer.run (cs.length + 2) { cursor := ⟨cs, 0, 0, 0⟩ } else none

end MountKeeper.Yaml
