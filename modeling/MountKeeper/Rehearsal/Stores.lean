import MountKeeper.Rehearsal.Host
import MountKeeper.Instances

/-! # Records of a rehearsal

* `Host.registry` keeps the records of sessions, one for each key, and notes what is done to them.
* `Shelf.store` is the key store over a shelf; `Host.stores` are the two stores of the host. -/

namespace MountKeeper.Rehearsal

/-! ## Sessions -/

/-- The name of a state in the journal. -/
def stateName : SessionState → String
  | .starting => "Starting"
  | .running => "Running"
  | .stopping => "Stopping"

namespace Records

/-- Records with another record, which replaces the one of its key. They are sorted by key. -/
def insert (s : Session) : List Session → List Session
  | [] => [s]
  | r :: rest =>
    if r.key = s.key then s :: rest
    else if s.key.text < r.key.text then s :: r :: rest
    else r :: insert s rest

/-- The record of a key. -/
def find? (key : SessionKey) (sessions : List Session) : Option Session :=
  sessions.find? fun s => s.key == key

/-- Records without that of a key. -/
def erase (key : SessionKey) (sessions : List Session) : List Session :=
  sessions.filter fun s => s.key != key

end Records

namespace Host

/-- An owner in the journal, where the own process id and that of a daemon have names. -/
def ownerText (h : Host) (owner : Owner) : String :=
  if owner = .process h.self then "pid SELF"
  else if owner = .process h.daemon then "pid CHILD"
  else owner.display

/-- The registry of sessions. -/
def registry : SessionRegistry Host where
  register s := do
    let h ← Act.look
    note s!"register {s.key.text} {h.ownerText s.owner} {stateName s.state}"
    if h.records.registerFails.contains s.key then Act.failText "cannot write record"
    else Act.change fun h =>
      { h with records := { h.records with sessions := Records.insert s h.records.sessions } }
  lookup key := do
    let h ← Act.look
    if h.records.lookupFails.contains key then Act.failText "cannot read record"
    else return Records.find? key h.records.sessions
  unregister key := do
    let h ← Act.look
    note s!"unregister {key.text}"
    if h.records.unregisterFails.contains key then Act.failText "cannot remove record"
    else Act.change fun h =>
      { h with records := { h.records with sessions := Records.erase key h.records.sessions } }
  listAll := do return (← Act.look).records.sessions

end Host

/-! ## Stores -/

namespace Shelf

/-- Entries with other values under a key. They are sorted by key. -/
def setEntry (key : String) (values : Values) : List (String × Values) → List (String × Values)
  | [] => [(key, values)]
  | (k, v) :: rest =>
    if k = key then (key, values) :: rest
    else if key < k then (key, values) :: (k, v) :: rest
    else (k, v) :: setEntry key values rest

/-- Adds values under a key. -/
def write (s : Shelf) (key : String) (values : Values) : Shelf :=
  { s with entries := setEntry key (((s.entries.lookup key).getD []).merge values) s.entries }

/-- Removes a key. -/
def erase (s : Shelf) (key : String) : Shelf :=
  { s with entries := s.entries.filter fun e => e.1 != key }

/-- The failure to change a locked shelf. -/
def denied (key : String) : Failure :=
  .ofText s!"access denied to {key}"

/-- A shelf as a key store. -/
def store : KeyStore Shelf where
  read key := do
    let s ← Act.look
    if s.unreadable.contains key then Act.failText s!"cannot open key {key}"
    else return s.entries.lookup key
  write key values := do
    let s ← Act.look
    if s.locked then Act.fail (denied key)
    else Act.change fun s => s.write key values
  delete key := do
    let s ← Act.look
    if s.locked then Act.fail (denied key)
    else
      Act.change fun s => s.erase key
      return (s.entries.lookup key).isSome
  keys := do
    let s ← Act.look
    if s.hidden then Act.failText "registry unavailable"
    else return s.entries.map (·.1)

end Shelf

/-- A key store on a part of a larger host. -/
def storeOn {σ τ : Type} (k : KeyStore τ) (part : Part σ τ) : KeyStore σ where
  read key := (k.read key).on part
  write key values := (k.write key values).on part
  delete key := (k.delete key).on part
  keys := k.keys.on part

/-- The store of sessions and the store of marks. -/
def Host.stores : InstanceStores Host where
  instances := storeOn Shelf.store Host.instancesPart
  remounts := storeOn Shelf.store Host.remountsPart

end MountKeeper.Rehearsal
