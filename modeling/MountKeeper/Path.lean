import MountKeeper.Text.Basic

/-! # Paths

A path is a text; slashes separate its parts.

* `Path.join` puts a path below another one; an absolute right side replaces the left side.
* `Path.parts` are the names on the way, without empty ones and without `.`.
* `Path.fileName?`, `Path.parent?` and `Path.withExtension` take a path apart at its last name, and
  `Path.splitName` cuts a name at its last dot.
* `Path.expand` makes what a user typed absolute, given the `Surroundings`. -/

namespace MountKeeper

namespace Path

/-! ## Joining -/

/-- Whether a path starts at the root. -/
def isAbsolute (p : String) : Bool :=
  p.toList.head? == some '/'

/-- `join`, on characters. -/
def joinChars (base p : List Char) : List Char :=
  if p.head? = some '/' then p
  else if base = [] ∨ base.getLast? = some '/' then base ++ p
  else base ++ '/' :: p

/-- The path `p` seen from `base`. An empty `p` leaves a slash at the end. -/
def join (base p : String) : String :=
  String.ofList (joinChars base.toList p.toList)

/-- An absolute path that is joined to a base replaces it. -/
theorem joinChars_of_absolute {base p : List Char} (h : p.head? = some '/') :
    joinChars base p = p := by
  simp [joinChars, h]

/-! ## Parts -/

/-- The names on the way, without empty ones and without `.`. -/
def parts (p : String) : List String :=
  ((p.toList.splitOn '/').map String.ofList).filter fun name => name != "" && name != "."

/-- Whether a path can only name a directory: it ends in a slash or in `.`. -/
def wantsDirectory (p : String) : Bool :=
  match (p.toList.splitOn '/').getLast? with
  | some name => name == [] || name == ['.']
  | none => false

/-- The absolute path with the given names. -/
def ofParts (names : List String) : String :=
  "/" ++ "/".intercalate names

/-- The last name of a path, unless that is `..`. -/
def fileName? (p : String) : Option String :=
  (parts p).getLast?.filter (· != "..")

/-- A name cut at its last dot. A name without a dot, or with its only dot in front, is all stem. -/
def splitName (name : String) : String × Option String :=
  match Text.cutAt? '.' name.toList.reverse with
  | some (ext, stem) =>
    if stem.isEmpty then (name, none)
    else (String.ofList stem.reverse, some (String.ofList ext.reverse))
  | none => (name, none)

/-- The directory in which the last name stands. -/
def parent? (p : String) : Option String :=
  match (parts p).reverse with
  | [] => none
  | _ :: before =>
    some ((if isAbsolute p then "/" else "") ++ "/".intercalate before.reverse)

/-- The path with another extension for its last name. -/
def withExtension (p ext : String) : String :=
  match fileName? p with
  | none => p
  | some name =>
    let before := (p.toList.reverse.dropWhile (· == '/')).drop name.length
    String.ofList before.reverse ++ (splitName name).1 ++ "." ++ ext

end Path

/-! ## What a user typed -/

/-- The directories that the meaning of a typed path depends on. -/
structure Surroundings where
  /-- The user's home directory. -/
  home : String
  /-- The current directory. -/
  currentDir : String
  deriving DecidableEq, Repr

namespace Path

/-- A bare drive letter such as `Z:`. -/
def isDriveLetter : List Char → Bool
  | [letter, ':'] => letter.isAlpha
  | _ => false

/-- The rest of a path that starts in the home directory. -/
def underHome? (cs : List Char) : Option (List Char) :=
  (Text.dropFront? "~/".toList cs).or (Text.dropFront? "$HOME/".toList cs)

/-- A typed path, without the blanks around it, with its home directory written out. -/
def withHome (env : Surroundings) (cs : List Char) : List Char :=
  if cs = ['~'] then env.home.toList
  else match underHome? cs with
    | some rest => joinChars env.home.toList rest
    | none => cs

/-- `expand`, on characters without blanks around them. -/
def expandChars (env : Surroundings) (cs : List Char) : List Char :=
  if isDriveLetter cs then cs
  else joinChars env.currentDir.toList (withHome env cs)

/-- The absolute path that a typed one means: `~` and `$HOME` in front stand for the home
directory, and other relative paths are seen from the current directory. A bare drive letter stays
as it is. -/
def expand (env : Surroundings) (typed : String) : String :=
  String.ofList (expandChars env (Text.trim typed.toList))

end Path

end MountKeeper
