import MountKeeper.Reconciliation
import MountKeeper.Supervisor

/-! # Unmounting

One path, the mounts whose path matches a pattern, or every mount is taken away.

* `Teardown.unmountKey` takes one mount away. A session that is recorded and alive but not mounted
  yet is stopped instead.
* `Teardown.unmountEach` goes through a list of paths; `Teardown.outcome` says how that went.
* `Teardown.unmount` and `Teardown.unmountAll` are what a user asks for.

How patterns are written is not said here: a platform brings the `PatternReader` that it takes them
from, and nothing below depends on which texts it reads. -/

namespace MountKeeper

/-- A reader of patterns: `.ok selects` says which paths the pattern that a text stands for matches,
`.error reason` why the text stands for none. -/
abbrev PatternReader : Type := String → Except String (String → Bool)

/-- What it takes to unmount. -/
structure Teardown (σ : Type) where
  books : Bookkeeping σ
  supervisor : Supervisor σ
  console : Console σ
  patterns : PatternReader

namespace Teardown

variable {σ : Type}

/-- Targets with this character are patterns. -/
def wildcard : Char := '*'

/-- Whether a target is a pattern. -/
def isPattern (target : String) : Bool :=
  target.toList.contains wildcard

/-! ## One mount -/

/-- Takes a mount away that is there. That its record cannot be removed does not matter. -/
def detach (t : Teardown σ) (key : SessionKey) (lazily : Bool) : Act σ Unit := do
  Act.inContext s!"failed to unmount {key.text}" (t.books.unmounter.unmount key.text lazily)
  t.books.forget key

/-- Whether the owner of a record that is not mounted is alive. -/
def ownerAlive (t : Teardown σ) (record : Session) : Act σ Bool :=
  match record.owner with
  | .process pid => t.books.processes.isAlive pid
  | .service _ => return true

/-- Ends a session that is not mounted. The record of a dead one is dropped. -/
def stopUnmounted (t : Teardown σ) (key : SessionKey) : Option Session → Act σ Unit
  | none => Act.refuse (.notMounted key.text)
  | some record => do
    if ← t.ownerAlive record then
      Act.inContext s!"failed to stop session {key.text}" (t.supervisor.stop record)
    else
      t.books.registry.unregister key
      Act.refuse (.notMounted key.text)

/-- Takes the mount of a key away. -/
def unmountKey (t : Teardown σ) (key : SessionKey) (lazily silent : Bool) : Act σ Unit := do
  let record ← Act.attempt (t.books.registry.lookup key)
  if ← t.books.mounts.isMounted key then
    t.detach key lazily
  else
    t.stopUnmounted key (record.toOption.getD none)
  if !silent then
    t.console.print s!"Successfully unmounted {key.text}"

/-! ## Several mounts -/

/-- Takes the mounts at some paths away, and lists the paths where that failed. -/
def unmountEach (t : Teardown σ) (lazily silent : Bool) : List String → Act σ (List String)
  | [] => return []
  | path :: rest => do
    let result ← Act.attempt (t.unmountKey (.ofPath path) lazily silent)
    let failures ← t.unmountEach lazily silent rest
    match result with
    | .ok () => return failures
    | .error f => return s!"{path} - [{f.message}]" :: failures

/-- The outcome of a batch: a failure when some of it failed. -/
def outcome (total : Nat) (failures : List String) : Act σ Unit :=
  if failures.isEmpty then pure ()
  else Act.refuse (.partialBatch (total - failures.length) total failures)

/-- The listed mounts. -/
def listed (t : Teardown σ) : Act σ (List String) :=
  Act.inContext "failed to list mount points" t.books.mounts.list

/-- Takes the mounts away whose path matches a pattern. -/
def unmountMatching (t : Teardown σ) (target : String) (lazily silent : Bool) : Act σ Unit := do
  match t.patterns target with
  | .error reason => Act.refuse (.validation s!"invalid unmount pattern {target}: {reason}")
  | .ok selects =>
    let paths := (← t.listed).filter selects
    if paths.isEmpty then
      Act.refuse (.notMounted target)
    let failures ← t.unmountEach lazily silent paths
    outcome paths.length failures

/-- Takes away the mount at a path, or the mounts that match a pattern. -/
def unmount (t : Teardown σ) (target : String) (lazily silent : Bool) : Act σ Unit :=
  if isPattern target then t.unmountMatching target lazily silent
  else t.unmountKey (.ofPath target) lazily silent

/-- Takes every mount away. -/
def unmountAll (t : Teardown σ) (lazily : Bool) : Act σ Unit := do
  let paths ← t.listed
  if paths.isEmpty then
    t.console.print "Nothing to unmount"
  else
    let failures ← t.unmountEach lazily true paths
    t.console.print (Numeral.decimal (paths.length - failures.length) ++ " of "
      ++ Numeral.decimal paths.length ++ " mounts were successfully unmounted")
    outcome paths.length failures

end Teardown

end MountKeeper
