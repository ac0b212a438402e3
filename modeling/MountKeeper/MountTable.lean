import MountKeeper.Disk.Basic
import MountKeeper.Session

/-! # What is mounted

The table of the mounts that the system has at present, as far as they are ours.

* `MountTable` and `Unmounter` are what the lifecycle needs: the listed paths, and taking a mount
  away. `MountTable.isMounted` goes by session key.
* `MountTable.entries` reads the text of a table file; `MountTable.unescape` undoes the escapes of
  a path in it, and `MountTable.escape` writes them. -/

namespace MountKeeper

/-- The mounts that are present. -/
structure MountTable (σ : Type) where
  /-- The path of every mount of ours. -/
  list : Act σ (List String)
  /-- Whether a path is mounted although the process behind it is gone. -/
  isDisconnected : SessionKey → Act σ Bool

/-- Takes mounts away. -/
structure Unmounter (σ : Type) where
  /-- Unmounts a path; a lazy unmount detaches it even while it is in use. -/
  unmount : String → Bool → Act σ Unit

namespace MountTable

/-- Whether some listed path has the key. -/
def lists (paths : List String) (key : SessionKey) : Bool :=
  paths.any fun p => SessionKey.ofPath p == key

/-- Whether a path with the key is mounted. -/
def isMounted {σ : Type} (t : MountTable σ) (key : SessionKey) : Act σ Bool := do
  return lists (← t.list) key

/-! ## The text of a table -/

/-- The source of our entries starts with this. -/
def sourceName : String := "cloudfuse"

/-- The value of three octal digits, when it fits a byte. -/
def octalByte? (a b c : Char) : Option Nat :=
  match Numeral.readDigits? 8 [a, b, c] with
  | some n => if n < 256 then some n else none
  | none => none

/-- A path with its escapes undone: a backslash and three octal digits stand for one character. -/
def unescape : List Char → List Char
  | '\\' :: a :: b :: c :: rest =>
    match octalByte? a b c with
    | some n => Char.ofNat n :: unescape rest
    | none => '\\' :: unescape (a :: b :: c :: rest)
  | x :: rest => x :: unescape rest
  | [] => []

/-- The three octal digits of a character below 256. -/
def octalDigits (c : Char) : List Char :=
  let n := c.toNat
  [Nat.digitChar (n / 64), Nat.digitChar (n / 8 % 8), Nat.digitChar (n % 8)]

/-- A path with the characters of a class written as escapes. -/
def escape (special : Char → Bool) (cs : List Char) : List Char :=
  cs.flatMap fun c => if special c then '\\' :: octalDigits c else [c]

/-- The path of a line, if the line is one of our entries. -/
def ownPath? (line : List Char) : Option String :=
  if sourceName.toList.isPrefixOf line then
    match Text.words line with
    | _ :: path :: _ => some (String.ofList (unescape path))
    | _ => none
  else none

/-- The paths of our entries in the text of a table, in order. -/
def entries (text : String) : List String :=
  (Text.lines text.toList).filterMap ownPath?

/-! ## A table file -/

/-- The paths of our entries in a table file. -/
def readTable (path : String) (disk : Disk) : Except Failure (List String) :=
  match disk.readText path with
  | .ok text => .ok (entries text)
  | .error e => .error ((Failure.ofOs e).within s!"failed to read mount table {path}")

/-- The mounts that a table file lists. None of them is seen as disconnected, because every path of
a disk can be asked about. -/
def ofFile (path : String) : MountTable Disk where
  list := fun d => (readTable path d, d)
  isDisconnected _ := pure false

/-- A mount table on a part of a larger host. -/
def on {σ τ : Type} (t : MountTable τ) (part : Part σ τ) : MountTable σ where
  list := t.list.on part
  isDisconnected k := (t.isDisconnected k).on part

end MountTable

end MountKeeper
