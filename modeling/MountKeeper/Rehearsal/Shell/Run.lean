import MountKeeper.Rehearsal.Shell.Script
import MountKeeper.Rehearsal.Shell.Utility
import MountKeeper.Rehearsal.System

/-! # Running programs in a rehearsal

* `Shell.run` runs a script of the small shell.
* `Host.execute` finds and runs a program; `Host.systemRunner` runs programs with a time limit. -/

namespace MountKeeper.Rehearsal

namespace Shell

/-- The state of a running script. The effects have the status of the last command. -/
structure State where
  disk : Disk
  bindings : List (String × String)
  effects : Effects := {}
  /-- Whether the script has come to its end. -/
  ended : Bool := false

/-- The code of a status, as a shell shows it. -/
def codeOf : ExitStatus → Nat
  | .exited code => code
  | .signaled number => 128 + number

/-! ## Words -/

/-- The arguments of the script. -/
def State.arguments (s : State) : List String :=
  let count := Numeral.readDigits? 10 ((s.bindings.lookup "#").getD "").toList
  (List.range (count.getD 0)).map fun i => (s.bindings.lookup (Numeral.decimal (i + 1))).getD ""

/-- The value of a variable. -/
def State.value (s : State) (name : String) : String :=
  if name = "?" then Numeral.decimal (codeOf s.effects.status)
  else if name = "@" ∨ name = "*" then " ".intercalate s.arguments
  else (s.bindings.lookup name).getD ""

/-- The fields of a word that has been read up to some place: those before, and the last one, if it
has begun. -/
structure Fields where
  before : List (List Char) := []
  last : Option (List Char) := none

/-- Adds a character to the last field. -/
def Fields.push (f : Fields) (c : Char) : Fields :=
  { f with last := some (f.last.getD [] ++ [c]) }

/-- Ends the last field. -/
def Fields.cut (f : Fields) : Fields :=
  match f.last with
  | some cs => { before := f.before ++ [cs] }
  | none => f

/-- Adds texts, each but the first as a field of its own. -/
def Fields.pushEach (f : Fields) : List String → Fields
  | [] => f
  | text :: texts =>
    texts.foldl (fun f text => { f.cut with last := some text.toList })
      (text.toList.foldl Fields.push { f with last := some (f.last.getD []) })

/-- Adds a piece of a word. -/
def State.addPiece (s : State) (f : Fields) : Piece → Fields
  | .char c => f.push c
  | .quotes => { f with last := some (f.last.getD []) }
  | .variable "@" true => f.pushEach s.arguments
  | .variable name true =>
    (s.value name).toList.foldl Fields.push { f with last := some (f.last.getD []) }
  | .variable name false =>
    (s.value name).toList.foldl (fun f c => if c.isWhitespace then f.cut else f.push c) f

/-- The texts that a word stands for. -/
def State.expand (s : State) (w : Word) : List String :=
  (w.foldl s.addPiece {}).cut.before.map String.ofList

/-- The variable that a word gives a value to, and that value. -/
def assignment? (w : Word) : Option (String × Word) :=
  let isPlain (p : Piece) : Bool := match p with
    | .char c => Lexer.isNameChar c
    | _ => false
  let name := (w.takeWhile isPlain).filterMap fun p => match p with
    | .char c => some c
    | _ => none
  match name, w.dropWhile isPlain with
  | c :: cs, .char '=' :: value =>
    if c.isDigit then none else some (String.ofList (c :: cs), value)
  | _, _ => none

/-- The value that a word gives. -/
def State.expandValue (s : State) (w : Word) : String :=
  let quoted := w.map fun p => match p with
    | .variable name _ => .variable name true
    | p => p
  (s.expand quoted).headD ""

/-! ## Commands of the shell itself -/

/-- Writes its arguments on a line, with backslashes read. -/
def echoed : List Char → List UInt8
  | [] => []
  | '\\' :: c :: cs =>
    match Utility.control? c with
    | some b => b :: echoed cs
    | none => 92 :: echoed (c :: cs)
  | c :: cs => bytesOf (String.singleton c) ++ echoed cs

/-- The number of a signal, by number or name. -/
def signal? (text : String) : Option Nat :=
  match Numeral.readDigits? 10 text.toList with
  | some n => some n
  | none =>
    let name := if Text.startsWith "SIG" text then text else "SIG" ++ text
    (ExitStatus.signalNames.findIdx? (· == name)).map (· + 1)

/-- The signal and the process that a call of `kill` names. -/
def killTarget? : List String → Option (Nat × String)
  | ["-s", name, pid] => (signal? name).map fun n => (n, pid)
  | [pid] => some (15, pid)
  | [name, pid] =>
    match name.toList with
    | '-' :: rest => (signal? (String.ofList rest)).map fun n => (n, pid)
    | _ => none
  | _ => none

/-- The greatest number that a script can give as its code. -/
def codeLimit : Nat := 0x7FFFFFFF

/-- What a command comes to, and whether it ends the script. -/
def State.command (s : State) (name : String) (args : List String) : Effects × Bool :=
  match name with
  | ":" => ({}, false)
  | "echo" => match args with
    | "-n" :: args => ({ stdout := echoed (" ".intercalate args).toList }, false)
    | args => ({ stdout := echoed (" ".intercalate args ++ "\n").toList }, false)
  | "exit" => match args with
    | [] => ({ status := .exited (codeOf s.effects.status) }, true)
    | text :: _ => match (Numeral.readDigits? 10 text.toList).filter (· ≤ codeLimit) with
      | some code => ({ status := .exited (code % 256) }, true)
      | none => (Utility.complains s!"sh: 1: exit: Illegal number: {text}" 2, true)
  | "kill" => match killTarget? args with
    | some (n, pid) =>
      if pid != s.value "$" then (Utility.complains "sh: 1: kill: No such process" 1, false)
      else if n = 0 then ({}, false)
      else ({ status := .signaled n }, true)
    | none => (Utility.complains "sh: 1: kill: No such process" 1, false)
  | "read" => ({ status := .exited 1 }, false)
  | name => match Utility.run? s.disk name args with
    | some e => (e, false)
    | none => (Utility.complains s!"sh: 1: {name}: not found" 127, false)

/-! ## Running -/

/-- Where the two streams of a command go: to the output, to the error stream, or nowhere. -/
structure Streams where
  out : Option Nat := some 1
  error : Option Nat := some 2

/-- Where the stream with a number goes. -/
def Streams.goal (s : Streams) (number : Nat) : Option Nat :=
  if number = 1 then s.out else if number = 2 then s.error else none

/-- Redirects a stream. -/
def Streams.redirect (s : Streams) (r : Nat × Target) : Streams :=
  let goal := match r.2 with
    | .stream n => s.goal n
    | .away => none
  if r.1 = 1 then { s with out := goal } else if r.1 = 2 then { s with error := goal } else s

/-- The effects so far, with those of a further command. -/
def Effects.followed (e : Effects) (streams : Streams) (next : Effects) : Effects :=
  let written (number : Nat) : List UInt8 :=
    (if streams.out = some number then next.stdout else [])
      ++ (if streams.error = some number then next.stderr else [])
  { stdout := e.stdout ++ written 1, stderr := e.stderr ++ written 2, status := next.status
    lasts := ⟨e.lasts.nanoseconds + next.lasts.nanoseconds⟩ }

/-- Gives variables their values, for the words at the front that say so; the other words are
left. -/
def State.assign (s : State) : List Word → State × List Word
  | [] => (s, [])
  | w :: ws =>
    match assignment? w with
    | some (name, value) =>
      State.assign { s with bindings := (name, s.expandValue value) :: s.bindings } ws
    | none => (s, w :: ws)

/-- Runs a simple command. -/
def State.simple (s : State) (c : Simple) : State :=
  let (s, words) := s.assign c.words
  let streams := c.redirects.foldl Streams.redirect {}
  match words.flatMap s.expand with
  | [] => { s with effects := { s.effects with status := .exited 0 } }
  | "exec" :: name :: args =>
    let (e, _) := s.command name args
    { s with effects := Effects.followed s.effects streams e, ended := true }
  | ["exec"] => s
  | name :: args =>
    let (e, ended) := s.command name args
    let emptied := if name = "read" then args.map fun a => (a, "") else []
    { s with
      effects := Effects.followed s.effects streams e
      ended := ended
      bindings := emptied ++ s.bindings }

/-- Whether a command is run after the one before it. -/
def State.wants (s : State) : Joint → Bool
  | .always => true
  | .ifSucceeded => s.effects.status.isSuccess
  | .ifFailed => !s.effects.status.isSuccess

/-- Runs commands up to the end of the script. -/
def State.runAll (s : State) : List Simple → State
  | [] => s
  | c :: cs =>
    if s.ended then s
    else if s.wants c.joint then (s.simple c).runAll cs
    else s.runAll cs

/-- The variables that a script starts with: its name, its arguments and its process. -/
def startVariables (pid : UInt32) (names : List String) : List (String × String) :=
  [("$", Numeral.decimal pid.toNat), ("#", Numeral.decimal (names.length - 1))]
    ++ names.zipIdx.map fun (name, i) => (Numeral.decimal i, name)

/-- Runs a text as a script. -/
def runText (d : Disk) (pid : UInt32) (names : List String) (text : String) : Effects :=
  (State.runAll { disk := d, bindings := startVariables pid names } (script text)).effects

/-- Runs the shell. -/
def run (d : Disk) (pid : UInt32) : List String → Effects
  | [] => {}
  | ["-c"] => Utility.complains "sh: 0: -c requires an argument" 2
  | ["-c", text] => runText d pid ["sh"] text
  | "-c" :: text :: names => runText d pid names text
  | path :: args =>
    match d.readText path with
    | .ok text => runText d pid (path :: args) text
    | .error _ => Utility.complains s!"sh: 0: cannot open {path}: No such file" 2

end Shell

namespace Host

/-- The directories in which programs are looked for. -/
def programDirs : List String := ["/usr/local/bin/", "/usr/bin/", "/bin/"]

/-- The name of a program, without the directory in which it would be found anyway. -/
def programName (program : String) : String :=
  (programDirs.findSome? fun dir => Text.stripFront? dir program).getD program

/-- Runs an installed program. -/
def runInstalled? (d : Disk) (pid : UInt32) (program : String) (args : List String) :
    Option Effects :=
  let name := programName program
  if name = "sh" then some (Shell.run d pid args) else Utility.run? d name args

/-- What becomes of a program that is not installed: files and directories cannot be run. -/
def notInstalled (d : Disk) (program : String) : ProgramRun :=
  if program = "." ∨ program = ".." then .refused .permissionDenied
  else if program.toList.contains '/' then
    match d.find program with
    | .ok _ => .refused .permissionDenied
    | .error .notFound => .missing
    | .error e => .refused e
  else if Disk.nameLimit < program.utf8ByteSize then .refused .nameTooLong
  else .missing

/-- Finds and runs a program. -/
def execute (h : Host) (limit : Option Duration) (program : String) (args : List String) :
    ProgramRun :=
  if (program :: args).any fun s => s.toList.contains '\x00' then .refused .nulInArgument
  else match runInstalled? h.disk h.self program args with
    | none => notInstalled h.disk program
    | some e =>
      match limit.filter fun l => l.nanoseconds ≤ e.lasts.nanoseconds with
      | some l => .late l
      | none => .ended e.status e.stdout e.stderr

/-- Runs programs, with a time limit if there is one. -/
def systemRunner (limit : Option Duration) : CommandRunner Host where
  run program args := do
    Act.ofExcept ((execute (← Act.look) limit program args).result program)

end Host

end MountKeeper.Rehearsal
