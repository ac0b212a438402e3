import MountKeeper.Act
import MountKeeper.Path

/-! # Files and directories

A `Disk` is a tree of directories and files, seen from a current directory. There are no links.

* `Disk.resolve` follows a path to a place; `Disk.find` is what stands there.
* `Disk.readText`, `Disk.list` read, `Disk.writeFile`, `Disk.makeDirs`, `Disk.removeFile` and
  `Disk.rename` write. An operation that fails says why with an `OsError`.
* `Disk.nodeAt_setNode_self` and its companions say what a change does to the places. -/

namespace MountKeeper

/-- What stands at a place of a disk. -/
inductive Node where
  | directory
  | file (content : ByteArray)

/-- The names on the way from the root. -/
abbrev Place := List String

/-- A tree of directories and files, with a current directory. -/
structure Disk where
  /-- What stands where, the root aside. -/
  nodes : List (Place × Node) := []
  /-- The current directory. -/
  current : Place := []

namespace Disk

/-! ## Places -/

/-- The entry of a place in a list of nodes. -/
def nodeIn (place : Place) : List (Place × Node) → Option Node
  | [] => none
  | (p, n) :: rest => if p = place then some n else nodeIn place rest

/-- A list of nodes with another node at a place, which keeps its position. -/
def setEntry (place : Place) (node : Node) : List (Place × Node) → List (Place × Node)
  | [] => [(place, node)]
  | (p, n) :: rest =>
    if p = place then (place, node) :: rest else (p, n) :: setEntry place node rest

/-- What stands at a place. The root is a directory. -/
def nodeAt (d : Disk) (place : Place) : Option Node :=
  if place = [] then some .directory else nodeIn place d.nodes

/-- The disk with another node at a place. -/
def setNode (d : Disk) (place : Place) (node : Node) : Disk :=
  { d with nodes := setEntry place node d.nodes }

/-- The disk without what stands at a place. -/
def dropNode (d : Disk) (place : Place) : Disk :=
  { d with nodes := d.nodes.filter fun e => e.1 != place }

/-- `setEntry place node` puts `node` at `place`. -/
theorem nodeIn_setEntry_self (place : Place) (node : Node) (es : List (Place × Node)) :
    nodeIn place (setEntry place node es) = some node := by
  induction es with
  | nil => simp [setEntry, nodeIn]
  | cons e rest ih =>
    obtain ⟨p, n⟩ := e
    by_cases h : p = place <;> simp [setEntry, nodeIn, h, ih]

/-- `setEntry place node` leaves the other places. -/
theorem nodeIn_setEntry_of_ne {place other : Place} (h : other ≠ place) (node : Node)
    (es : List (Place × Node)) :
    nodeIn other (setEntry place node es) = nodeIn other es := by
  induction es with
  | nil => simp [setEntry, nodeIn, Ne.symm h]
  | cons e rest ih =>
    obtain ⟨p, n⟩ := e
    by_cases hp : p = place
    · subst hp; simp [setEntry, nodeIn, Ne.symm h]
    · simp [setEntry, nodeIn, hp, ih]

/-- A node that was set is there. -/
theorem nodeAt_setNode_self {d : Disk} {place : Place} (h : place ≠ []) (node : Node) :
    (d.setNode place node).nodeAt place = some node := by
  simp [nodeAt, setNode, h, nodeIn_setEntry_self]

/-- Setting a node changes no other place. -/
theorem nodeAt_setNode_of_ne {d : Disk} {place other : Place} (h : other ≠ place) (node : Node) :
    (d.setNode place node).nodeAt other = d.nodeAt other := by
  simp [nodeAt, setNode, nodeIn_setEntry_of_ne h]

/-- To drop the entries of a place leaves the other places. -/
theorem nodeIn_filter_of_ne {place other : Place} (h : other ≠ place) (es : List (Place × Node)) :
    nodeIn other (es.filter fun e => e.1 != place) = nodeIn other es := by
  induction es with
  | nil => rfl
  | cons e rest ih =>
    obtain ⟨p, n⟩ := e
    by_cases hp : p = place
    · subst hp; simp [nodeIn, ih, Ne.symm h]
    · simp [nodeIn, hp, ih]

/-- Nothing stands at a place whose entries were dropped. -/
theorem nodeIn_filter_self (place : Place) (es : List (Place × Node)) :
    nodeIn place (es.filter fun e => e.1 != place) = none := by
  induction es with
  | nil => rfl
  | cons e rest ih =>
    obtain ⟨p, n⟩ := e
    by_cases hp : p = place
    · subst hp; simp [ih]
    · simp [nodeIn, hp, ih]

/-- A node that was dropped is gone. -/
theorem nodeAt_dropNode_self {d : Disk} {place : Place} (h : place ≠ []) :
    (d.dropNode place).nodeAt place = none := by
  simp [nodeAt, dropNode, h, nodeIn_filter_self]

/-- Dropping a node changes no other place. -/
theorem nodeAt_dropNode_of_ne {d : Disk} {place other : Place} (h : other ≠ place) :
    (d.dropNode place).nodeAt other = d.nodeAt other := by
  simp [nodeAt, dropNode, nodeIn_filter_of_ne h]

/-! ## Following paths -/

/-- The greatest length of a name, in bytes. -/
def nameLimit : Nat := 255

/-- The greatest length of a path, in bytes. -/
def pathLimit : Nat := 4095

/-- Follows names from a place. Each name is looked up in a directory; `..` goes back. -/
def walk (d : Disk) : Place → List String → Except OsError Place
  | place, [] => .ok place
  | place, name :: names =>
    match d.nodeAt place with
    | none => .error .notFound
    | some (.file _) => .error .notDirectory
    | some .directory =>
      if name = ".." then walk d place.dropLast names
      else if nameLimit < name.utf8ByteSize then .error .nameTooLong
      else walk d (place ++ [name]) names

/-- The place that a path leads to. All but its last name have to be there. -/
def resolve (d : Disk) (path : String) : Except OsError Place :=
  if path.toList.contains '\x00' then .error .nulInPath
  else if path = "" then .error .notFound
  else if pathLimit < path.utf8ByteSize then .error .nameTooLong
  else d.walk (if Path.isAbsolute path then [] else d.current) (Path.parts path)

/-! ## Reading -/

/-- What a path leads to. -/
def find (d : Disk) (path : String) : Except OsError Node :=
  match d.resolve path with
  | .error e => .error e
  | .ok place =>
    match d.nodeAt place with
    | none => .error .notFound
    | some (.file c) => if Path.wantsDirectory path then .error .notDirectory else .ok (.file c)
    | some .directory => .ok .directory

/-- Whether a path leads to something. -/
def pathExists (d : Disk) (path : String) : Bool :=
  (d.find path).isOk

/-- Whether a path leads to a directory. -/
def isDir (d : Disk) (path : String) : Bool :=
  match d.find path with
  | .ok .directory => true
  | _ => false

/-- Whether a path leads to a file. -/
def isFile (d : Disk) (path : String) : Bool :=
  match d.find path with
  | .ok (.file _) => true
  | _ => false

/-- The bytes of a file. -/
def readBytes (d : Disk) (path : String) : Except OsError ByteArray :=
  match d.find path with
  | .ok (.file c) => .ok c
  | .ok .directory => .error .isDirectory
  | .error e => .error e

/-- The text of a file. -/
def readText (d : Disk) (path : String) : Except OsError String :=
  match d.readBytes path with
  | .error e => .error e
  | .ok c => match String.fromUTF8? c with
    | some s => .ok s
    | none => .error .invalidText

/-- The names in the directory at a place, the newest first. -/
def namesAt (d : Disk) (place : Place) : List String :=
  d.nodes.reverse.filterMap fun e =>
    match e.1.getLast? with
    | some name => if e.1.dropLast = place then some name else none
    | none => none

/-- The names in a directory, the newest first. -/
def list (d : Disk) (path : String) : Except OsError (List String) :=
  match d.resolve path with
  | .error e => .error e
  | .ok place =>
    match d.nodeAt place with
    | none => .error .notFound
    | some (.file _) => .error .notDirectory
    | some .directory => .ok (d.namesAt place)

/-! ## Writing -/

/-- Checks that the directory of a place is there. -/
def checkParent (d : Disk) (place : Place) : Except OsError Unit :=
  match d.nodeAt place.dropLast with
  | none => .error .notFound
  | some (.file _) => .error .notDirectory
  | some .directory => .ok ()

/-- Writes a file, replacing the one that is there. -/
def writeFile (d : Disk) (path : String) (content : ByteArray) : Except OsError Disk := do
  let place ← d.resolve path
  d.checkParent place
  match d.nodeAt place with
  | some .directory => throw .isDirectory
  | some (.file _) =>
    if Path.wantsDirectory path then throw .notDirectory
    pure (d.setNode place (.file content))
  | none =>
    if Path.wantsDirectory path then throw .isDirectory
    pure (d.setNode place (.file content))

/-- Writes a text to a file. -/
def writeText (d : Disk) (path text : String) : Except OsError Disk :=
  d.writeFile path text.toUTF8

/-- Makes sure that a file is there that can be appended to. -/
def touch (d : Disk) (path : String) : Except OsError Disk :=
  match d.readBytes path with
  | .ok _ => .ok d
  | .error .notFound => d.writeFile path ByteArray.empty
  | .error e => .error e

/-- Makes one directory. -/
def makeDir (d : Disk) (path : String) : Except OsError Disk := do
  let place ← d.resolve path
  d.checkParent place
  match d.nodeAt place with
  | some _ => throw .alreadyExists
  | none => pure (d.setNode place .directory)

/-- The path without its last name, as far as there is one. -/
def parentPath (path : String) : Option String :=
  Path.parent? path

/-- Makes a directory and the directories on the way to it. `fuel` bounds the way. -/
def makeDirsUpTo : Nat → String → Act Disk Unit
  | 0, _ => Act.fail (.ofOs .notFound)
  | fuel + 1, path => fun d =>
    if path = "" then (.ok (), d)
    else match d.makeDir path with
      | .ok d' => (.ok (), d')
      | .error .notFound =>
        match parentPath path with
        | none => (.error (.ofOs .notFound), d)
        | some parent =>
          match (makeDirsUpTo fuel parent).runOn d with
          | (.error f, d') => (.error f, d')
          | (.ok (), d') =>
            match d'.makeDir path with
            | .ok d'' => (.ok (), d'')
            | .error e => if d'.isDir path then (.ok (), d') else (.error (.ofOs e), d')
      | .error e => if d.isDir path then (.ok (), d) else (.error (.ofOs e), d)

/-- Makes a directory and the directories on the way to it. -/
def makeDirs (path : String) : Act Disk Unit :=
  makeDirsUpTo (path.length + 1) path

/-- Removes a file. -/
def removeFile (d : Disk) (path : String) : Except OsError Disk := do
  let place ← d.resolve path
  match d.nodeAt place with
  | none => throw .notFound
  | some .directory => throw .isDirectory
  | some (.file _) =>
    if Path.wantsDirectory path then throw .notDirectory
    pure (d.dropNode place)

/-- Moves a file to another path, replacing the file that is there. -/
def rename (d : Disk) (old new : String) : Except OsError Disk := do
  let source ← d.resolve old
  let target ← d.resolve new
  match d.nodeAt source, d.nodeAt target with
  | some (.file c), some (.file _) =>
    pure (((d.dropNode source).dropNode target).setNode target (.file c))
  | some (.file c), none =>
    d.checkParent target
    pure ((d.dropNode source).setNode target (.file c))
  | some (.file _), some .directory => throw .isDirectory
  | some .directory, _ => throw .isDirectory
  | none, _ => throw .notFound

/-- Whether a place is at or below another one. -/
def isUnder (place base : Place) : Bool :=
  base.isPrefixOf place

/-- Everything at or below a path, with the names behind it. -/
def below (d : Disk) (path : String) : List (List String × Node) :=
  match d.resolve path with
  | .error _ => []
  | .ok base =>
    match d.nodeAt base with
    | none => []
    | some n =>
      ([], n) :: (d.nodes.filter fun e => isUnder e.1 base && e.1 != base).map fun e =>
        (e.1.drop base.length, e.2)

/-- Removes everything at or below a path. -/
def removeAll (d : Disk) (path : String) : Disk :=
  match d.resolve path with
  | .error _ => d
  | .ok base => { d with nodes := d.nodes.filter fun e => !isUnder e.1 base }

/-! ## Acts on the disk -/

/-- Changes the disk by an operation that may fail. -/
def update (f : Disk → Except OsError Disk) : Act Disk Unit :=
  fun d => match f d with
    | .ok d' => (.ok (), d')
    | .error e => (.error (.ofOs e), d)

/-- Reads from the disk by an operation that may fail. -/
def query {α : Type} (f : Disk → Except OsError α) : Act Disk α :=
  fun d => match f d with
    | .ok a => (.ok a, d)
    | .error e => (.error (.ofOs e), d)

end Disk

end MountKeeper
