import MountKeeper.Duration

/-! # Failures

Every operation of the mount lifecycle fails with a `Failure`: a cause and the contexts it passed
through on its way out.

* `SessionError` are the causes of the lifecycle itself, `OsError` those of the operating system.
* `Failure.message` is the whole chain, outermost context first; `Failure.display` its outermost
  text; `Failure.kind?` the kind of the session error at its root. -/

namespace MountKeeper

/-! ## Session errors -/

/-- Failures raised by the mount lifecycle. -/
inductive SessionError where
  /-- The user's input was refused before anything happened. -/
  | validation (reason : String)
  /-- A live session already owns the directory. -/
  | alreadyMounted (path : String)
  /-- Nothing is mounted at the path. -/
  | notMounted (path : String)
  /-- A record exists but cannot be reconciled. -/
  | staleState (path detail : String)
  /-- An external tool could not be found. -/
  | toolNotFound (tool : String)
  /-- An external tool ran and reported failure. -/
  | externalTool (tool status stderr : String)
  /-- An operation did not finish in time. -/
  | timeout (operation : String) (limit : Duration)
  /-- The mount launcher refused a request or answered with something that makes no sense. -/
  | protocol (operation detail : String)
  /-- Some items of a batch failed. -/
  | partialBatch (succeeded total : Nat) (failures : List String)
  /-- The configuration could not be used. -/
  | config (detail : String)
  deriving DecidableEq, Repr

/-- The kinds of session errors. -/
inductive ErrorKind where
  | validation | alreadyMounted | notMounted | staleState | toolNotFound | externalTool | timeout
  | protocol | partialBatch | config
  deriving DecidableEq, Repr

namespace SessionError

/-- The kind of a session error. -/
def kind : SessionError → ErrorKind
  | validation _ => .validation
  | alreadyMounted _ => .alreadyMounted
  | notMounted _ => .notMounted
  | staleState _ _ => .staleState
  | toolNotFound _ => .toolNotFound
  | externalTool _ _ _ => .externalTool
  | timeout _ _ => .timeout
  | protocol _ _ => .protocol
  | partialBatch _ _ _ => .partialBatch
  | config _ => .config

/-- The text of a session error. -/
def message : SessionError → String
  | validation reason => s!"invalid input: {reason}"
  | alreadyMounted path => s!"directory is already mounted: {path}"
  | notMounted path => s!"nothing is mounted at {path}"
  | staleState path detail => s!"stale session at {path}: {detail}"
  | toolNotFound tool => s!"{tool}: executable file not found"
  | externalTool tool status stderr => s!"{tool} failed ({status}): {stderr}"
  | timeout operation limit => s!"{operation} timed out after {limit.describe}"
  | protocol operation detail => s!"unable to {operation} mount instance: {detail}"
  | partialBatch succeeded total failures =>
    Numeral.decimal succeeded ++ " of " ++ Numeral.decimal total ++ " succeeded; failed: "
      ++ "; ".intercalate failures
  | config detail => s!"config error: {detail}"

end SessionError

/-! ## Operating system errors -/

/-- Failures of file operations. -/
inductive OsError where
  | notFound | permissionDenied | alreadyExists | notDirectory | isDirectory | directoryNotEmpty
  | nameTooLong
  /-- A path holds the character NUL. -/
  | nulInPath
  /-- A file that should be text is not UTF-8. -/
  | invalidText
  /-- A program or an argument holds the character NUL. -/
  | nulInArgument
  deriving DecidableEq, Repr

/-- The text of an operating system error. -/
def OsError.message : OsError → String
  | notFound => "No such file or directory (os error 2)"
  | permissionDenied => "Permission denied (os error 13)"
  | alreadyExists => "File exists (os error 17)"
  | notDirectory => "Not a directory (os error 20)"
  | isDirectory => "Is a directory (os error 21)"
  | directoryNotEmpty => "Directory not empty (os error 39)"
  | nameTooLong => "File name too long (os error 36)"
  | nulInPath => "file name contained an unexpected NUL byte"
  | invalidText => "stream did not contain valid UTF-8"
  | nulInArgument => "nul byte found in provided data"

/-! ## Failures -/

/-- What is at the root of a failure. -/
inductive Cause where
  /-- A session error. -/
  | session (error : SessionError)
  /-- An operating system error. -/
  | os (error : OsError)
  /-- A plain text without a kind. -/
  | plain (text : String)
  /-- The program gives up: a duration of `2 ^ 64` seconds or more. -/
  | overflow
  deriving DecidableEq, Repr

/-- The text of a cause. -/
def Cause.message : Cause → String
  | session error => error.message
  | os error => error.message
  | plain text => text
  | overflow => "duration out of range"

/-- A cause with the contexts added on the way out. -/
structure Failure where
  /-- The contexts, outermost first. -/
  contexts : List String := []
  /-- The root of the failure. -/
  cause : Cause
  deriving DecidableEq, Repr

namespace Failure

/-- A failure for which a session error is the only reason. -/
def ofSession (e : SessionError) : Failure := ⟨[], .session e⟩

/-- A failure for which an operating system error is the only reason. -/
def ofOs (e : OsError) : Failure := ⟨[], .os e⟩

/-- A failure that is a plain text. -/
def ofText (text : String) : Failure := ⟨[], .plain text⟩

/-- A failure inside a further context. -/
def within (context : String) (f : Failure) : Failure :=
  { f with contexts := context :: f.contexts }

/-- The chain of texts, outermost first. -/
def chain (f : Failure) : List String :=
  f.contexts ++ [f.cause.message]

/-- The whole chain on one line. -/
def message (f : Failure) : String :=
  ": ".intercalate f.chain

/-- The outermost text of the chain. -/
def display (f : Failure) : String :=
  f.chain.headD ""

/-- The line with which a program that failed ends. -/
def lastLine (f : Failure) : String :=
  "Error: " ++ f.message

/-- The kind of the session error at the root, if there is one. -/
def kind? (f : Failure) : Option ErrorKind :=
  match f.cause with
  | .session e => some e.kind
  | _ => none

/-- Whether the failure says that a program could not be found. -/
def isToolNotFound (f : Failure) : Bool :=
  f.kind? == some .toolNotFound

/-- A context leaves the kind of a failure. -/
@[simp] theorem kind?_within (context : String) (f : Failure) :
    (f.within context).kind? = f.kind? := rfl

end Failure

end MountKeeper
