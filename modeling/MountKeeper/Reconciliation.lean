import MountKeeper.MountTable
import MountKeeper.Process

/-! # Clearing up behind sessions that have died

Before a mount, what an earlier session at the same path left behind is compared with what is
mounted. A session that is still alive keeps the path; what a dead one left is cleared away, whether
or not that works.

* `Bookkeeping.isTaken` decides whether a path is taken.
* `Bookkeeping.reconcile` decides, and clears. -/

namespace MountKeeper

/-- Where records, mounts and processes are kept. -/
structure Bookkeeping (σ : Type) where
  registry : SessionRegistry σ
  mounts : MountTable σ
  unmounter : Unmounter σ
  processes : ProcessTable σ

/-- What a path is found to be before a mount. -/
inductive Reconciliation where
  /-- The path is free. -/
  | proceed
  /-- A session that is alive has the path. -/
  | alreadyMounted
  deriving DecidableEq, Repr

namespace Bookkeeping

variable {σ : Type}

/-- Removes the record of a key, whether or not that works. -/
def forget (b : Bookkeeping σ) (key : SessionKey) : Act σ Unit := do
  let _ ← Act.attempt (b.registry.unregister key)

/-- The record of a key. One that cannot be read is removed. -/
def readableRecord (b : Bookkeeping σ) (key : SessionKey) : Act σ (Option Session) := do
  match ← Act.attempt (b.registry.lookup key) with
  | .ok record => return record
  | .error _ =>
    b.forget key
    return none

/-- Whether a path is taken, given its record and whether it is mounted. A process owns a path as
long as it exists, the launcher as long as it is mounted, and a mount without a record counts
unless it is disconnected. -/
def isTaken (b : Bookkeeping σ) (key : SessionKey) (mounted : Bool) :
    Option Session → Act σ Bool
  | some record =>
    match record.owner with
    | .process pid => b.processes.isAlive pid
    | .service _ => return mounted
  | none => if mounted then do return !(← b.mounts.isDisconnected key) else return false

/-- Clears away what a dead session left behind. -/
def clearAway (b : Bookkeeping σ) (key : SessionKey) (record : Option Session) (mounted : Bool) :
    Act σ Unit := do
  if mounted then
    let _ ← Act.attempt (b.unmounter.unmount key.text true)
  if record.isSome then
    b.forget key

/-- Says whether a path is free, and frees it from what a dead session left behind. -/
def reconcile (b : Bookkeeping σ) (key : SessionKey) : Act σ Reconciliation := do
  let record ← b.readableRecord key
  let mounted ← b.mounts.isMounted key
  if ← b.isTaken key mounted record then
    return .alreadyMounted
  b.clearAway key record mounted
  return .proceed

end Bookkeeping

end MountKeeper
