import MountKeeper.Disk.Basic
import MountKeeper.ExitStatus

/-! # Small programs

The programs that every system has, as far as a rehearsal needs them.

* `Effects` is what running a program comes to.
* `Utility.run?` runs a program by its name. -/

namespace MountKeeper.Rehearsal

/-- What running a program comes to. -/
structure Effects where
  stdout : List UInt8 := []
  stderr : List UInt8 := []
  status : ExitStatus := .exited 0
  /-- How long it takes. -/
  lasts : Duration := ⟨0⟩
  deriving Repr

/-- The bytes of a text. -/
def bytesOf (s : String) : List UInt8 :=
  s.toUTF8.toList

namespace Utility

/-- A program that complains and ends with a code. -/
def complains (text : String) (code : Nat) : Effects :=
  { stderr := bytesOf (text ++ "\n"), status := .exited code }

/-! ## Formats -/

/-- A step of writing by a format. -/
inductive Directive where
  | byte (b : UInt8)
  /-- Writes the next argument. -/
  | insert
  deriving DecidableEq, Repr

/-- The byte that a letter behind a backslash stands for. -/
def control? : Char → Option UInt8
  | 'n' => some 10
  | 'r' => some 13
  | 't' => some 9
  | 'a' => some 7
  | 'b' => some 8
  | 'f' => some 12
  | 'v' => some 11
  | '\\' => some 92
  | _ => none

/-- The value of an octal digit. -/
def octal? (c : Char) : Option Nat :=
  if '0' ≤ c ∧ c ≤ '7' then some (c.toNat - '0'.toNat) else none

/-- The bytes of a character. -/
def plain (c : Char) : List Directive :=
  (bytesOf (String.singleton c)).map .byte

/-- The steps of a format, read on after the octal digits of a byte, of which there are at most
three: their number and their value. -/
def directives : Option (Nat × Nat) → List Char → List Directive
  | some (_, value), [] => [.byte (.ofNat value)]
  | none, [] => []
  | some (count, value), c :: cs =>
    match (if count < 3 then octal? c else none) with
    | some d => directives (some (count + 1, 8 * value + d)) cs
    | none => .byte (.ofNat value) :: directives none (c :: cs)
  | none, '\\' :: c :: cs =>
    match control? c, octal? c with
    | some b, _ => .byte b :: directives none cs
    | none, some d => directives (some (1, d)) cs
    | none, none => .byte 92 :: (plain c ++ directives none cs)
  | none, '%' :: '%' :: cs => .byte 37 :: directives none cs
  | none, '%' :: c :: cs =>
    if ['s', 'd', 'i', 'b'].contains c then .insert :: directives none cs
    else .byte 37 :: (plain c ++ directives none cs)
  | none, c :: cs => plain c ++ directives none cs
termination_by state cs => (cs.length, if state.isSome then 1 else 0)

/-- What steps write, and the arguments that are left. -/
def fill : List Directive → List String → List UInt8 × List String
  | [], args => ([], args)
  | .byte b :: ds, args =>
    let (out, left) := fill ds args
    (b :: out, left)
  | .insert :: ds, args =>
    let (out, left) := fill ds args.tail
    (bytesOf (args.headD "") ++ out, left)

/-- Writes by a format, over and over until all arguments are written; `rounds` bounds how often. -/
def fillAll (ds : List Directive) : Nat → List String → List UInt8
  | 0, _ => []
  | rounds + 1, args =>
    let (out, left) := fill ds args
    if left.isEmpty || left.length = args.length then out else out ++ fillAll ds rounds left

/-- Writes by a format. -/
def printf : List String → Effects
  | [] => complains "printf: usage: printf format [arg ...]" 2
  | format :: args =>
    { stdout := fillAll (directives none format.toList) (args.length + 1) args }

/-! ## Other programs -/

/-- Writes its arguments on a line. -/
def echo : List String → Effects
  | "-n" :: args => { stdout := bytesOf (" ".intercalate args) }
  | args => { stdout := bytesOf (" ".intercalate args ++ "\n") }

/-- Writes the contents of files. There is no input to read. -/
def cat (d : Disk) (args : List String) : Effects :=
  args.foldl (fun e path =>
    if path = "-" then e
    else match d.readBytes path with
      | .ok content => { e with stdout := e.stdout ++ content.toList }
      | .error f =>
        let reason := (f.message.splitOn " (os error").headD ""
        { e with
          stderr := e.stderr ++ bytesOf s!"cat: {path}: {reason}\n"
          status := .exited 1 }) {}

/-- Waits. -/
def sleep (args : List String) : Effects :=
  args.foldl (fun e arg => match Duration.parse arg with
    | .ok d => { e with lasts := ⟨e.lasts.nanoseconds + d.nanoseconds⟩ }
    | .error _ => complains s!"sleep: invalid time interval '{arg}'" 1) {}

/-- The time after which a program that does not end by itself is seen as ended. -/
def endless : Duration := ⟨UInt32.size * 1000000000⟩

/-- Runs a program by its name. What an endless program writes cannot be seen. -/
def run? (d : Disk) (name : String) (args : List String) : Option Effects :=
  match name with
  | "true" => some {}
  | "false" => some { status := .exited 1 }
  | "echo" => some (echo args)
  | "printf" => some (printf args)
  | "cat" => some (cat d args)
  | "sleep" => some (sleep args)
  | "yes" => some { lasts := endless }
  | "pwd" => some { stdout := bytesOf (Path.ofParts d.current ++ "\n") }
  | _ => none

end Utility

end MountKeeper.Rehearsal
