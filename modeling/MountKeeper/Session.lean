import MountKeeper.Act
import MountKeeper.SessionKey

/-! # Sessions

A session is one mount of one configuration at one path. Records of sessions are kept by a
`SessionRegistry`, at most one for each session key. -/

namespace MountKeeper

/-- Who keeps a session alive. -/
inductive Owner where
  /-- A process, in the background or in the foreground. -/
  | process (pid : UInt32)
  /-- An instance that the mount launcher serves. -/
  | service (name : String)
  deriving DecidableEq, Repr

/-- The text of an owner. -/
def Owner.display : Owner → String
  | process pid => "pid " ++ Numeral.decimal pid.toNat
  | service name => "service instance " ++ name

/-- Where a session is in its life. -/
inductive SessionState where
  /-- Recorded, but not serving yet. -/
  | starting
  /-- Serving. -/
  | running
  /-- Shutting down. -/
  | stopping
  deriving DecidableEq, Repr

/-- One mount of one configuration at one path. -/
structure Session where
  /-- The canonical mount path. -/
  key : SessionKey
  /-- The configuration file the session was started with. -/
  configPath : Option String := none
  /-- Who keeps the session alive. -/
  owner : Owner
  /-- Where the session is in its life. -/
  state : SessionState := .starting
  deriving DecidableEq, Repr

/-- The path of the configuration file as a text, empty when there is none. -/
def Session.configText (s : Session) : String :=
  s.configPath.getD ""

/-- Storage for the records of sessions, at most one for each key. -/
structure SessionRegistry (σ : Type) where
  /-- Keeps a record, replacing the one with the same key. -/
  register : Session → Act σ Unit
  /-- The record of a key, if there is one. -/
  lookup : SessionKey → Act σ (Option Session)
  /-- Removes the record of a key, if there is one. -/
  unregister : SessionKey → Act σ Unit
  /-- Every record that can be read. -/
  listAll : Act σ (List Session)

/-- A registry on a part of a larger host. -/
def SessionRegistry.on {σ τ : Type} (r : SessionRegistry τ) (part : Part σ τ) :
    SessionRegistry σ where
  register s := (r.register s).on part
  lookup k := (r.lookup k).on part
  unregister k := (r.unregister k).on part
  listAll := r.listAll.on part

end MountKeeper
