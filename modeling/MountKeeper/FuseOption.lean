import MountKeeper.Failure

/-! # Mount options

The `-o` options that are handed to the data path. Each given value may be a comma separated list.

* `FuseOption.display` is the written form of an option.
* `FuseOption.readItem` reads one item of a list, `FuseOption.readAll` reads values. -/

namespace MountKeeper

/-- An option handed to the data path. -/
inductive FuseOption where
  | allowOther | allowRoot | readOnly | nonEmpty | directIo
  | umask (mask : UInt32)
  | uid (id : UInt32)
  | gid (id : UInt32)
  | attrTimeout (seconds : UInt32)
  | entryTimeout (seconds : UInt32)
  | negativeTimeout (seconds : UInt32)
  deriving DecidableEq, Repr

namespace FuseOption

/-! ## Writing -/

/-- The written form of an option. A mask has at least three octal digits. -/
def display : FuseOption → String
  | allowOther => "allow_other"
  | allowRoot => "allow_root"
  | readOnly => "ro"
  | nonEmpty => "nonempty"
  | directIo => "direct_io"
  | umask mask => "umask=" ++ Numeral.octal 3 mask.toNat
  | uid id => "uid=" ++ Numeral.decimal id.toNat
  | gid id => "gid=" ++ Numeral.decimal id.toNat
  | attrTimeout seconds => "attr_timeout=" ++ Numeral.decimal seconds.toNat
  | entryTimeout seconds => "entry_timeout=" ++ Numeral.decimal seconds.toNat
  | negativeTimeout seconds => "negative_timeout=" ++ Numeral.decimal seconds.toNat

/-! ## Reading -/

/-- Options that are accepted and have no effect. -/
def ignored : List String :=
  ["default_permissions", "rw", "dev", "nodev", "suid", "nosuid", "delay_connect", "auto", "noauto",
    "user", "nouser", "exec", "noexec", "_netdev"]

/-- The option of a name that takes no value. -/
def flag? (name : String) : Option FuseOption :=
  if name = "allow_other" then some allowOther
  else if name = "allow_root" then some allowRoot
  else if name = "ro" then some readOnly
  else if name = "nonempty" then some nonEmpty
  else if name = "direct_io" then some directIo
  else none

/-- The option of a name that takes a decimal number. -/
def numbered? (name : String) (n : UInt32) : Option FuseOption :=
  if name = "uid" then some (uid n)
  else if name = "gid" then some (gid n)
  else if name = "attr_timeout" then some (attrTimeout n)
  else if name = "entry_timeout" then some (entryTimeout n)
  else if name = "negative_timeout" then some (negativeTimeout n)
  else none

/-- The failure for an option that is not known. -/
def unknown (item : String) : SessionError :=
  .validation s!"invalid FUSE option [{item}]"

/-- The failure for a value that is not a number. -/
def badNumber (name value : String) : SessionError :=
  .validation s!"failed to parse {name} [{value}]"

/-- Reads an item without blanks around it: nothing for an empty or ignored one. A value is looked
at before its name, so that an unknown name with a bad value is a bad value. -/
def readTrimmed (cs : List Char) : Except SessionError (Option FuseOption) :=
  let item := String.ofList cs
  if cs.isEmpty || ignored.contains item then .ok none
  else match Text.cutAt? '=' cs with
    | none => match flag? item with
      | some o => .ok (some o)
      | none => .error (unknown item)
    | some (name, value) =>
      let name := String.ofList name
      let value := String.ofList value
      if name = "umask" then match Numeral.readWord? 8 value with
        | some mask => .ok (some (umask mask))
        | none => .error (badNumber name value)
      else match Numeral.readWord? 10 value with
        | none => .error (badNumber name value)
        | some n => match numbered? name n with
          | some o => .ok (some o)
          | none => .error (unknown item)

/-- Reads one item of a comma separated list. -/
def readItem (cs : List Char) : Except SessionError (Option FuseOption) :=
  readTrimmed (Text.trim cs)

/-- Reads items in order up to the first failure. -/
def readItems : List (List Char) → Except SessionError (List FuseOption)
  | [] => .ok []
  | item :: items =>
    match readItem item with
    | .error e => .error e
    | .ok found =>
      match readItems items with
      | .error e => .error e
      | .ok rest => .ok (found.toList ++ rest)

/-- Reads values, each a comma separated list. -/
def readAll (values : List String) : Except SessionError (List FuseOption) :=
  readItems (values.flatMap fun v => v.toList.splitOn ',')

end FuseOption

end MountKeeper
