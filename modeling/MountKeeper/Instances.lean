import MountKeeper.KeyStore
import MountKeeper.Remount.Record
import MountKeeper.Session

/-! # Sessions kept in key stores

Sessions that the launcher serves are kept in one store, the marks that make them come back at boot
in another. The stores are independent, so that ending a session leaves its mark.

* `InstanceStores.registry` is the session registry over the first store.
* `InstanceStores.flags` marks and clears in the second store.
* `InstanceStores.boot` lists both for the boot service. -/

namespace MountKeeper

/-- A recorded session and whether it should come back at boot. -/
structure BootInstance where
  session : Session
  /-- Whether it carries a mark. -/
  remount : Bool
  deriving DecidableEq, Repr

/-- The records that the boot service works from. -/
structure BootInstances (σ : Type) where
  /-- Every instance that the service should know about. -/
  list : Act σ (List BootInstance)
  /-- Drops the record of a session. -/
  forget : SessionKey → Act σ Unit

/-- The store of sessions and the store of marks. -/
structure InstanceStores (σ : Type) where
  instances : KeyStore σ
  remounts : KeyStore σ

namespace InstanceStores

variable {σ : Type}

/-! ## Records -/

/-- The name of the value that holds the mount directory. -/
def mountDirName : String := "MountDir"

/-- The name of the value that holds the configuration file. -/
def configFileName : String := "ConfigFile"

/-- The values of a record. -/
def recordValues (mountDir config : String) : Values :=
  [(mountDirName, mountDir), (configFileName, config)]

/-- The session of a record. A record without a mount directory means its key. -/
def sessionOf (key : String) (values : Values) : Except Failure Session :=
  match values.get? configFileName with
  | none => .error (.ofText s!"instance {key} has no {configFileName}")
  | some config => .ok {
      key := .ofPath ((values.get? mountDirName).getD key)
      configPath := some config
      owner := .service key
      state := .running }

/-- The session under a key of a store. -/
def readFrom (store : KeyStore σ) (key : String) : Act σ (Option Session) := do
  match ← store.read key with
  | none => pure none
  | some values => some <$> Act.ofExcept (sessionOf key values)

/-- The sessions under the given keys. A record that cannot be read is passed over. -/
def sessionsAt (store : KeyStore σ) : List String → Act σ (List Session)
  | [] => pure []
  | key :: keys => do
    let found ← Act.attempt (readFrom store key)
    let rest ← sessionsAt store keys
    match found with
    | .ok (some s) => pure (s :: rest)
    | _ => pure rest

/-- The sessions of a store. -/
def sessionsIn (store : KeyStore σ) : Act σ (List Session) := do
  sessionsAt store (← store.keys)

/-! ## Roles -/

/-- The registry of sessions. -/
def registry (s : InstanceStores σ) : SessionRegistry σ where
  register session :=
    s.instances.write session.key.text (recordValues session.key.text session.configText)
  lookup key := readFrom s.instances key.text
  unregister key := do
    let _ ← s.instances.delete key.text
  listAll := sessionsIn s.instances

/-- The order of boot instances by key. -/
def keyLe (a b : BootInstance) : Bool :=
  decide (a.session.key.text ≤ b.session.key.text)

/-- The sessions without a mark and the marked ones, by key. -/
def mergeBoot (sessions marked : List Session) : List BootInstance :=
  let plain := sessions.filter fun s => !(marked.any fun m => m.key == s.key)
  (plain.map (BootInstance.mk · false) ++ marked.map (BootInstance.mk · true)).mergeSort keyLe

/-- What the boot service works from: the marked instances are those to bring back. -/
def boot (s : InstanceStores σ) : BootInstances σ where
  list := do
    let marked ← sessionsIn s.remounts
    let sessions ← sessionsIn s.instances
    return mergeBoot sessions marked
  forget key := s.registry.unregister key

/-- The marks. -/
def flags (s : InstanceStores σ) : RemountFlags σ where
  mark record := s.remounts.write record.key.text (recordValues record.key.text record.configPath)
  clear key := s.remounts.delete key.text

end InstanceStores

end MountKeeper
