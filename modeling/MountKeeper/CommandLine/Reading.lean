import MountKeeper.CommandLine.Grammar
import MountKeeper.Duration

/-! # Reading a command line

The words of a command line are read from left to right. A setting takes its value from its own
word, behind `=`, or from the word after it. After `--` every word is a path.

* `Reader` is the state of reading at one level; `Reader.read` reads words.
* `Reading` is what was read; `Reading.ofWords` reads a whole command line.
* `UsageError` are the ways in which words are no command line. -/

namespace MountKeeper.CommandLine

/-- Why words are not run as a command. -/
inductive UsageError where
  /-- They ask for help. -/
  | help
  /-- They ask for the version. -/
  | version
  /-- A group of commands is named and nothing else is said. -/
  | nothingGiven
  /-- A group of commands is named and none of them. -/
  | noCommand
  /-- There is no command of that name. -/
  | unknownCommand
  /-- A word means nothing where it stands. -/
  | unknownArgument
  /-- A path is missing. -/
  | missingPath
  /-- A setting that is given once is repeated. -/
  | repeated
  /-- A value is given for a setting that takes none. -/
  | needlessValue
  /-- The value of a setting is missing. -/
  | missingValue
  /-- The value of a setting is not one that it takes. -/
  | badValue
  /-- A duration is out of range. -/
  | overflow
  deriving DecidableEq, Repr

/-- What was given for a setting. -/
inductive Value where
  | present
  | text (text : String)
  | texts (texts : List String)
  | duration (duration : Duration)
  | word (word : UInt32)
  deriving DecidableEq, Repr

/-! ## What was given -/

/-- What was given at a level. -/
structure Given where
  /-- What was given for settings. -/
  values : List (Setting × Value) := []
  /-- The path. -/
  place : Option String := none
  deriving DecidableEq, Repr

namespace Given

/-- What was given for a setting. -/
def value? (g : Given) (s : Setting) : Option Value :=
  g.values.lookup s

/-- Whether a setting was given. -/
def has (g : Given) (s : Setting) : Bool :=
  (g.value? s).isSome

/-- The text given for a setting. -/
def text? (g : Given) (s : Setting) : Option String :=
  match g.value? s with
  | some (.text t) => some t
  | _ => none

/-- The texts given for a setting. -/
def texts (g : Given) (s : Setting) : List String :=
  match g.value? s with
  | some (.texts ts) => ts
  | _ => []

/-- The duration given for a setting. -/
def duration? (g : Given) (s : Setting) : Option Duration :=
  match g.value? s with
  | some (.duration d) => some d
  | _ => none

/-- The number given for a setting. -/
def word? (g : Given) (s : Setting) : Option UInt32 :=
  match g.value? s with
  | some (.word n) => some n
  | _ => none

/-- With a value for a setting. -/
def withValue (g : Given) (s : Setting) (v : Value) : Given :=
  { g with values := (s, v) :: g.values.filter fun e => e.1 != s }

/-- The pieces of a text between commas. -/
def pieces (t : String) : List String :=
  (t.toList.splitOn ',').map String.ofList

/-- The value that a typed text is for a setting. -/
def valueOf (s : Setting) (typed : String) : Except UsageError Value :=
  match s.taking with
  | .nothing => .error .needlessValue
  | .text => .ok (.text typed)
  | .texts => .ok (.texts (pieces typed))
  | .duration => match Duration.parse typed with
    | .ok d => .ok (.duration d)
    | .error .outOfRange => .error .overflow
    | .error _ => .error .badValue
  | .word => match Numeral.readSignedWord? typed with
    | some n => .ok (.word n)
    | none => .error .badValue

/-- Takes a typed text for a setting. Only texts add up; another setting cannot be given twice. -/
def take (g : Given) (s : Setting) (typed : String) : Except UsageError Given :=
  if s.taking = .texts then .ok (g.withValue s (.texts (g.texts s ++ pieces typed)))
  else if g.has s then .error .repeated
  else (valueOf s typed).map (g.withValue s)

/-- Takes a setting without a value. -/
def takeBare (g : Given) (s : Setting) : Except UsageError Given :=
  match s with
  | .help => .error .help
  | .version => .error .version
  | s => if g.has s then .error .repeated else .ok (g.withValue s .present)

end Given

/-- What was read: the command, and what was given to it. -/
structure Reading where
  level : Level
  given : Given
  /-- Whether the user asked for detail, at any level. -/
  verbose : Bool
  deriving DecidableEq, Repr

/-! ## Reading at a level -/

/-- The state of reading at a level. -/
structure Reader where
  level : Level
  given : Given := {}
  /-- A setting whose value was not taken yet, and the value if it has been read. -/
  pending : Option (Setting × Option String) := none
  /-- Whether a setting or a path has been read. -/
  begun : Bool := false
  deriving DecidableEq, Repr

namespace Reader

/-- The setting that waits for the next word. -/
def waiting? (r : Reader) : Option Setting :=
  match r.pending with
  | some (s, none) => some s
  | _ => none

/-- Takes what is pending. -/
def settle (r : Reader) : Except UsageError Reader :=
  match r.pending with
  | none => .ok r
  | some (_, none) => .error .missingValue
  | some (s, some typed) =>
    (r.given.take s typed).map fun g => { r with given := g, pending := none }

/-- The complaint about a word. A pending duration that is out of range comes first. -/
def complaint (r : Reader) (e : UsageError) : UsageError :=
  match r.settle with
  | .error .overflow => .overflow
  | _ => e

/-- Reads a setting with its value. -/
def receive (r : Reader) (s : Setting) (typed : String) : Except UsageError Reader := do
  let r ← r.settle
  let g ← r.given.take s typed
  return { r with given := g, begun := true }

/-- Reads a setting that takes nothing. -/
def receiveBare (r : Reader) (s : Setting) : Except UsageError Reader := do
  let r ← r.settle
  let g ← r.given.takeBare s
  return { r with given := g, begun := true }

/-- Reads a setting whose value is the next word. -/
def await (r : Reader) (s : Setting) : Except UsageError Reader := do
  let r ← r.settle
  return { r with pending := some (s, none), begun := true }

/-- Reads a word behind its two dashes. -/
def readLong (r : Reader) (body : List Char) : Except UsageError Reader :=
  let (name, typed) := match Text.cutAt? '=' body with
    | some (name, typed) => (name, some (String.ofList typed))
    | none => (body, none)
  match r.level.long? (String.ofList name) with
  | none => .error (r.complaint .unknownArgument)
  | some s =>
    match s.taking, typed with
    | .nothing, none => r.receiveBare s
    | .nothing, some _ => .error (r.complaint .needlessValue)
    | _, some typed => r.receive s typed
    | _, none => r.await s

/-- Reads letters behind their single dash. The letters behind one that takes a value are the value,
with or without `=`. -/
def readLetters (r : Reader) : List Char → Except UsageError Reader
  | [] => .ok r
  | c :: cs =>
    match r.level.letter? c with
    | none => .error (r.complaint .unknownArgument)
    | some s =>
      if s.taking = .nothing then do
        let r ← r.receiveBare s
        r.readLetters cs
      else match cs with
        | [] => r.await s
        | '=' :: typed => r.receive s (String.ofList typed)
        | typed => r.receive s (String.ofList typed)

/-- Whether names of levels can still follow. -/
def canDescend (r : Reader) : Bool :=
  !(r.level.isCommandAndGroup && r.begun)

/-- What a word means here as the name of a level. -/
def turn (r : Reader) (word : String) : Turn :=
  if r.canDescend then r.level.turn word else .stays

/-- The complaint about a word for which there is no place. -/
def stray (r : Reader) (afterDashes : Bool) (word : String) : UsageError :=
  if afterDashes && r.turn word != .stays then .unknownArgument
  else if r.canDescend && !r.level.below.isEmpty && r.level.place = .none then .unknownCommand
  else .unknownArgument

/-- Reads a path. -/
def readPlace (r : Reader) (afterDashes : Bool) (word : String) : Except UsageError Reader := do
  if r.level.place = .none || r.given.place.isSome then
    throw (r.complaint (r.stray afterDashes word))
  let r ← r.settle
  return { r with given := { r.given with place := some word }, begun := true }

/-- Reads a word that is no name of a level. -/
def readWord (r : Reader) (word : String) : Except UsageError Reader :=
  match word.toList with
  | '-' :: '-' :: body => r.readLong body
  | '-' :: c :: cs => r.readLetters (c :: cs)
  | _ =>
    match r.waiting? with
    | some s => .ok { r with pending := some (s, some word) }
    | none => r.readPlace false word

/-- Ends reading at a level. -/
def finish (r : Reader) : Except UsageError Reading := do
  let r ← r.settle
  if r.level.isGroup then
    throw (if r.given.values.isEmpty then .nothingGiven else .noCommand)
  if r.level.place = .required && r.given.place.isNone then
    throw .missingPath
  return ⟨r.level, r.given, r.given.has .verbose⟩

/-- Reads paths to the end. -/
def readPlaces (r : Reader) : List String → Except UsageError Reading
  | [] => r.finish
  | word :: rest => do
    let r ← r.readPlace true word
    r.readPlaces rest

/-- What asking for help about a level comes to: the help, if the words name a level. -/
def helpAbout (l : Level) : List String → UsageError
  | [] => .help
  | word :: rest =>
    match l.turn word with
    | .enters sub => helpAbout sub rest
    | .helps => if rest.isEmpty then .help else .unknownCommand
    | .stays => .unknownCommand

/-- Reads words to the end. -/
def read (r : Reader) : List String → Except UsageError Reading
  | [] => r.finish
  | word :: rest =>
    match (if r.waiting?.isSome then .stays else r.turn word) with
    | .helps => .error (helpAbout r.level rest)
    | .enters sub => do
      let inner ← read { level := sub } rest
      return { inner with verbose := inner.verbose || r.given.has .verbose }
    | .stays =>
      if word = "--" then r.readPlaces rest
      else do
        let r ← r.readWord word
        r.read rest

end Reader

/-- Reads a command line. -/
def Reading.ofWords (words : List String) : Except UsageError Reading :=
  Reader.read { level := .top } words

end MountKeeper.CommandLine
