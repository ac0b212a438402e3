import MountKeeper.Yaml.Core
import MountKeeper.Yaml.Event

/-! # Documents

From the events of a document to its value.

* `Node.value?` builds the value of the node at a place among the events, with limits on nesting
  and on the use of aliases.
* `Value.ofText?` is the value of a text that is one document. -/

namespace MountKeeper.Yaml

/-- The events of a document with the places that its aliases refer to. Anchors are numbered by how
many names are known before them; a number refers to the node that took it last. -/
structure Outline where
  /-- The events. -/
  events : Array Event
  /-- For each event that is an alias, the place of the node it stands for. -/
  targets : List (Nat × Nat)
  deriving Repr

namespace Outline

/-- The numbers of the anchor names, and the place of each number. -/
structure Anchors where
  /-- The names with their numbers, the latest first. -/
  names : List (String × Nat) := []
  /-- The numbers with their places, the latest first. -/
  places : List (Nat × Nat) := []

/-- Notes the anchor of the node at a place, if it has one. Its number is the count of the
different names known so far. -/
def Anchors.note (a : Anchors) (p : Properties) (place : Nat) : Anchors :=
  match p.anchor with
  | none => a
  | some name =>
    let number := a.names.length
    { names := (name, number) :: a.names.filter (·.1 != name)
      places := (number, place) :: a.places }

/-- Looks at the events in order. An alias has to follow an anchor of its name. The result lists the
places of aliases with the numbers they refer to. -/
def scan? : List Event → Nat → Anchors → List (Nat × Nat) → Option (Anchors × List (Nat × Nat))
  | [], _, a, found => some (a, found)
  | e :: es, place, a, found =>
    match e with
    | .alias name =>
      match a.names.find? (·.1 == name) with
      | some (_, number) => scan? es (place + 1) a ((place, number) :: found)
      | none => none
    | .scalar p _ _ | .sequenceStart p | .mappingStart p =>
      scan? es (place + 1) (a.note p place) found
    | _ => scan? es (place + 1) a found

/-- The outline of a list of events, if every alias is known. -/
def ofEvents? (es : List Event) : Option Outline :=
  (scan? es 0 {} []).map fun (a, found) =>
    let target (number : Nat) : Nat := ((a.places.find? (·.1 == number)).map (·.2)).getD 0
    ⟨es.toArray, found.map fun (place, number) => (place, target number)⟩

end Outline

/-! ## Nodes -/

namespace Node

/-- How far the reading has come: the place of the next event and the number of aliases used. -/
structure Progress where
  /-- The place of the next event. -/
  place : Nat
  /-- How many aliases have been followed. -/
  jumps : Nat
  deriving Repr

/-- The reading of one node. -/
abbrev Reader := Progress → Option (Value × Progress)

/-- Reads the items up to the end of a sequence. -/
def items (o : Outline) (node : Reader) :
    Nat → List Value → Progress → Option (List Value × Progress)
  | 0, _, _ => none
  | fuel + 1, acc, p =>
    match o.events[p.place]? with
    | some .sequenceEnd => some (acc.reverse, { p with place := p.place + 1 })
    | _ => match node p with
      | some (v, p) => items o node fuel (v :: acc) p
      | none => none

/-- Reads the entries up to the end of a mapping. No key may stand twice. -/
def entries (o : Outline) (node : Reader) :
    Nat → List (Value × Value) → Progress → Option (List (Value × Value) × Progress)
  | 0, _, _ => none
  | fuel + 1, acc, p =>
    match o.events[p.place]? with
    | some .mappingEnd => some (acc.reverse, { p with place := p.place + 1 })
    | _ => match node p with
      | none => none
      | some (k, p) =>
        if acc.any (fun e => e.1.same k) then none
        else match node p with
          | some (v, p) => entries o node fuel ((k, v) :: acc) p
          | none => none

/-- The tag of an application: it starts with an exclamation mark, of which one is left out. -/
def ownTag? (p : Properties) : Option String :=
  p.tag.bind fun t => match t.toList with
    | '!' :: '!' :: c :: rest => some (String.ofList (c :: rest))
    | '!' :: rest => some (String.ofList rest)
    | _ => none

/-- Puts an application's tag on a value; the empty tag is refused. -/
def withTag? (p : Properties) (r : Option (Value × Progress)) : Option (Value × Progress) :=
  match ownTag? p with
  | none => r
  | some t => if t = "" then none else r.map fun (v, p) => (.tagged t v, p)

/-- The value of a scalar without an application's tag. -/
def scalar? (p : Properties) (text : String) (plain : Bool) : Option Value :=
  match p.tag with
  | some t =>
    if ownTag? p |>.isSome then (if plain then Core.resolve? text else some (.string text))
    else Core.resolveAs? t text
  | none => if plain then Core.resolve? text else some (.string text)

/-- The node at a place that is no alias, inside at most `depth` further collections. -/
def atPlace? (o : Outline) (inner : Reader) (deep : Bool) (p : Progress) :
    Option (Value × Progress) :=
  let next : Progress := { p with place := p.place + 1 }
  match o.events[p.place]? with
  | some (.scalar props text plain) =>
    withTag? props ((scalar? props text plain).map fun v => (v, next))
  | some (.sequenceStart props) =>
    if deep then withTag? props ((items o inner (o.events.size + 1) [] next).map
      fun (vs, p) => (.sequence vs, p))
    else none
  | some (.mappingStart props) =>
    if deep then withTag? props ((entries o inner (o.events.size + 1) [] next).map
      fun (es, p) => (.mapping es, p))
    else none
  | _ => none

/-- The node at a place. An alias stands for the node it refers to, and aliases may be followed at
most a hundred times for each event. -/
def follow? (o : Outline) (inner : Reader) (deep : Bool) (p : Progress) :
    Option (Value × Progress) :=
  match o.events[p.place]? with
  | some (.alias _) =>
    let jumps := p.jumps + 1
    if o.events.size * 100 < jumps then none
    else match o.targets.find? (·.1 == p.place) with
      | some (_, target) =>
        (atPlace? o inner deep ⟨target, jumps⟩).map fun (v, q) => (v, ⟨p.place + 1, q.jumps⟩)
      | none => none
  | _ => atPlace? o inner deep p

/-- The node at a place, inside at most `depth` collections. -/
def value? (o : Outline) : Nat → Reader
  | 0 => follow? o (fun _ => none) false
  | depth + 1 => follow? o (value? o depth) true

/-- How deeply collections may be nested. -/
def depthLimit : Nat := 128

end Node

/-- The value of a text that is a stream with at most one document. A stream without a document
stands for null. -/
def Value.ofText? (s : String) : Option Value :=
  match (Token.ofChars? s.toList).bind Event.ofTokens? with
  | none => none
  | some [] => some .null
  | some es =>
    (Outline.ofEvents? es).bind fun o =>
      (Node.value? o Node.depthLimit ⟨0, 0⟩).map (·.1)

end MountKeeper.Yaml
