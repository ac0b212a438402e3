import MountKeeper.Yaml.Token

/-! # Events of documents

The structure of a document as a flat list: scalars, aliases, and marks around the items of
sequences and mappings.

* `Event` are the events, with the anchor and the tag of a node.
* `Expectation` says what may come next; a `Reading` is a stack of them over the tokens left.
* `Event.ofTokens?` is the event list of a stream with at most one document. -/

namespace MountKeeper.Yaml

/-- The properties of a node: its anchor and its tag, written out. -/
structure Properties where
  /-- The name under which aliases refer to the node. -/
  anchor : Option String := none
  /-- The tag, with its handle replaced by what it stands for. -/
  tag : Option String := none
  deriving DecidableEq, Repr

/-- An event of a document. -/
inductive Event where
  | alias (name : String)
  | scalar (properties : Properties) (text : String) (plain : Bool)
  | sequenceStart (properties : Properties)
  | sequenceEnd
  | mappingStart (properties : Properties)
  | mappingEnd
  deriving DecidableEq, Repr

/-- The scalar that stands where a node is left out. -/
def Event.empty : Event :=
  .scalar {} "" true

/-- What may come next in a document. -/
inductive Expectation where
  | document | documentContent | documentEnd | blockNode
  | blockItem | indentlessItem
  | blockKey | blockValue
  | flowItem (first : Bool)
  | pairKey | pairValue | pairEnd
  | flowKey (first : Bool) | flowValue | flowNoValue
  deriving DecidableEq, Repr

/-- The state of reading events from tokens. -/
structure Reading where
  /-- The tokens that are left. -/
  tokens : List Token
  /-- What comes next, innermost first. -/
  stack : List Expectation
  /-- What the tag handles stand for. -/
  handles : List (List Char × List Char) := []
  deriving Repr

namespace Reading

/-- One event, after which the reading goes on. -/
abbrev Step := Option (List Event × Reading)

/-- The tag handles that are always known. -/
def defaultHandles : List (List Char × List Char) :=
  [(['!'], ['!']), (['!', '!'], "tag:yaml.org,2002:".toList)]

/-- Reads the directives in front of a document: at most one version, which is 1.1 or 1.2, and tag
handles that differ. -/
def directives? :
    List Token → Bool → List (List Char × List Char) →
      Option (List Token × List (List Char × List Char))
  | .versionDirective major minor :: ts, versioned, handles =>
    if versioned || major != 1 || (minor != 1 && minor != 2) then none
    else directives? ts true handles
  | .tagDirective handle front :: ts, versioned, handles =>
    if handles.any (·.1 == handle) then none
    else directives? ts versioned (handles ++ [(handle, front)])
  | ts, _, handles => some (ts, handles ++ defaultHandles)

/-- A tag with its handle replaced by what it stands for. -/
def tagText? (handles : List (List Char × List Char)) (handle suffix : List Char) :
    Option String :=
  if handle.isEmpty then some (String.ofList suffix)
  else (handles.find? (·.1 == handle)).map fun h => String.ofList (h.2 ++ suffix)

/-- The properties in front of a node, in either order, and the tokens behind them. -/
def properties? (r : Reading) : Option (Properties × List Token) :=
  match r.tokens with
  | .anchor a :: .tag h s :: ts =>
    (tagText? r.handles h s).map fun t => (⟨some (String.ofList a), some t⟩, ts)
  | .anchor a :: ts => some (⟨some (String.ofList a), none⟩, ts)
  | .tag h s :: .anchor a :: ts =>
    (tagText? r.handles h s).map fun t => (⟨some (String.ofList a), some t⟩, ts)
  | .tag h s :: ts => (tagText? r.handles h s).map fun t => (⟨none, some t⟩, ts)
  | ts => some ({}, ts)

/-- Reads the start of a node, after which `stack` is expected. The tag `!` on a scalar says the
same as a plain scalar without a tag. -/
def node? (block indentless : Bool) (r : Reading) (stack : List Expectation) : Step :=
  let go (e : Event) (ts : List Token) (stack : List Expectation) : Step :=
    some ([e], { r with tokens := ts, stack := stack })
  match r.tokens with
  | .alias name :: ts => go (.alias (String.ofList name)) ts stack
  | _ =>
    match r.properties? with
    | none => none
    | some (p, ts) =>
      match ts with
      | .blockEntry :: _ =>
        if indentless then go (.sequenceStart p) ts (.indentlessItem :: stack)
        else if p != {} then go (.scalar p "" true) ts stack
        else none
      | .scalar text plain :: rest =>
        let p := if p.tag == some "!" then { p with tag := none } else p
        go (.scalar p (String.ofList text) plain) rest stack
      | .flowSequenceStart :: rest => go (.sequenceStart p) rest (.flowItem true :: stack)
      | .flowMappingStart :: rest => go (.mappingStart p) rest (.flowKey true :: stack)
      | t :: rest =>
        if block && t == .blockSequenceStart then go (.sequenceStart p) rest (.blockItem :: stack)
        else if block && t == .blockMappingStart then go (.mappingStart p) rest (.blockKey :: stack)
        else if p != {} then go (.scalar p "" true) ts stack
        else none
      | [] => none

/-- Reads a node unless the next token is one of `ends`; then the node is left out. -/
def nodeUnless (ends : List Token) (block indentless : Bool) (r : Reading) (ts : List Token)
    (stack : List Expectation) : Step :=
  match ts with
  | [] => none
  | t :: _ =>
    if ends.contains t then some ([.empty], { r with tokens := ts, stack := stack })
    else node? block indentless { r with tokens := ts } stack

/-- Closes a collection. -/
def close (e : Event) (r : Reading) (ts : List Token) (stack : List Expectation) : Step :=
  some ([e], { r with tokens := ts, stack := stack })

/-- An item of a flow sequence, with the comma before it passed. -/
def flowItemStep (r : Reading) (ts : List Token) (stack : List Expectation) : Step :=
  match ts with
  | .key :: rest => close (.mappingStart {}) r rest (.pairKey :: stack)
  | .flowSequenceEnd :: rest => close .sequenceEnd r rest stack
  | _ => node? false false { r with tokens := ts } (.flowItem false :: stack)

/-- A key of a flow mapping, with the comma before it passed. -/
def flowKeyStep (r : Reading) (ts : List Token) (stack : List Expectation) : Step :=
  match ts with
  | .key :: rest =>
    nodeUnless [.value, .flowEntry, .flowMappingEnd] false false r rest (.flowValue :: stack)
  | .flowMappingEnd :: rest => close .mappingEnd r rest stack
  | _ => node? false false { r with tokens := ts } (.flowNoValue :: stack)

/-- Reads on where `e` is expected, and `stack` after it. -/
def step (e : Expectation) (r : Reading) (stack : List Expectation) : Step :=
  match e, r.tokens with
  | .document, ts =>
    match directives? ts false [] with
    | none => none
    | some (.documentStart :: rest, handles) =>
      some ([], { tokens := rest, stack := .documentContent :: stack, handles := handles })
    | some (_, handles) =>
      match ts with
      | .versionDirective .. :: _ | .tagDirective .. :: _ => none
      | _ => some ([], { r with stack := .blockNode :: stack, handles := handles })
  | .documentContent, ts =>
    match ts with
    | .versionDirective .. :: _ | .tagDirective .. :: _ | .documentStart :: _
    | .documentEnd :: _ | .streamEnd :: _ => close .empty r ts stack
    | _ => node? true false r stack
  | .documentEnd, .documentEnd :: rest => some ([], { r with tokens := rest, stack := e :: stack })
  | .documentEnd, [.streamEnd] => some ([], { r with tokens := [], stack := stack })
  | .documentEnd, _ => none
  | .blockNode, _ => node? true false r stack
  | .blockItem, .blockEntry :: rest =>
    nodeUnless [.blockEntry, .blockEnd] true false r rest (.blockItem :: stack)
  | .blockItem, .blockEnd :: rest => close .sequenceEnd r rest stack
  | .blockItem, _ => none
  | .indentlessItem, .blockEntry :: rest =>
    nodeUnless [.blockEntry, .key, .value, .blockEnd] true false r rest (.indentlessItem :: stack)
  | .indentlessItem, ts => close .sequenceEnd r ts stack
  | .blockKey, .key :: rest =>
    nodeUnless [.key, .value, .blockEnd] true true r rest (.blockValue :: stack)
  | .blockKey, .blockEnd :: rest => close .mappingEnd r rest stack
  | .blockKey, _ => none
  | .blockValue, .value :: rest =>
    nodeUnless [.key, .value, .blockEnd] true true r rest (.blockKey :: stack)
  | .blockValue, ts => close .empty r ts (.blockKey :: stack)
  | .flowItem true, ts => flowItemStep r ts stack
  | .flowItem false, .flowEntry :: rest => flowItemStep r rest stack
  | .flowItem false, .flowSequenceEnd :: rest => close .sequenceEnd r rest stack
  | .flowItem false, _ => none
  | .pairKey, t :: rest =>
    if t == .value || t == .flowEntry || t == .flowSequenceEnd then
      close .empty r rest (.pairValue :: stack)
    else node? false false r (.pairValue :: stack)
  | .pairKey, [] => none
  | .pairValue, .value :: rest =>
    nodeUnless [.flowEntry, .flowSequenceEnd] false false r rest (.pairEnd :: stack)
  | .pairValue, ts => close .empty r ts (.pairEnd :: stack)
  | .pairEnd, ts => close .mappingEnd r ts (.flowItem false :: stack)
  | .flowKey true, ts => flowKeyStep r ts stack
  | .flowKey false, .flowEntry :: rest => flowKeyStep r rest stack
  | .flowKey false, .flowMappingEnd :: rest => close .mappingEnd r rest stack
  | .flowKey false, _ => none
  | .flowValue, .value :: rest =>
    nodeUnless [.flowEntry, .flowMappingEnd] false false r rest (.flowKey false :: stack)
  | .flowValue, ts => close .empty r ts (.flowKey false :: stack)
  | .flowNoValue, ts => close .empty r ts (.flowKey false :: stack)

/-- Reads until nothing is expected any more. -/
def run : Nat → Reading → Option (List Event)
  | 0, _ => none
  | fuel + 1, r =>
    match r.stack with
    | [] => some []
    | e :: stack =>
      match step e r stack with
      | none => none
      | some (events, r) => (run fuel r).map (events ++ ·)

end Reading

/-- The events of a stream with at most one document. A stream without a document has none. A token
is passed at least in every third step. -/
def Event.ofTokens? (ts : List Token) : Option (List Event) :=
  match ts with
  | [.streamEnd] => some []
  | _ => Reading.run (4 * ts.length + 8) { tokens := ts, stack := [.document, .documentEnd] }

end MountKeeper.Yaml
