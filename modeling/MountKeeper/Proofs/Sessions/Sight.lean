import MountKeeper.Pattern.Reader
import MountKeeper.Proofs.Sessions.Liveness
import Mathlib.Data.Set.Basic
import Mathlib.Logic.Function.Basic

/-! # What is seen of a host

A mount and an unmount go by what they see: the record of a path, the mounts, and the processes that
are alive. What they call for changes what is seen, as far as it works.

* `Sight` is what is seen of a host. `Sight.Held` says when a live session has a path.
* `Observation` is what is seen of every host, together with the keys and the hosts that it is good
  for: `v s` is the sight of `s`, `key ∈ v.keys` says that the parts are only asked about `key`, and
  `v.sound s` is what the parts rely upon and keep up.
* `Observation.OnlyRecord` and `Observation.OnlyMounts` compare what is seen before and behind a
  call, and `Observation.SameElsewhere` before and behind a request about one path.
* `Bookkeeping.Seen` and `Teardown.Seen` are the contract of the parts of a platform. Asked about a
  key of `v.keys` on a sound host, they answer by what is seen, change what they are asked to
  change, or fail, and leave a sound host behind. Nothing is asked of them about other keys: records
  in files whose names two keys share meet the contract for every set of keys of which no two share
  one.
* `Bookkeeping.answered` and `Teardown.answered` write down what was called for with how it ended.
* `PatchyHost` is a host with faults, on which every part can fail; it meets the contract for all
  keys. -/

namespace MountKeeper

variable {σ : Type}

/-- What is seen of a host. -/
structure Sight where
  /-- What looking up a record tells, be it that the record cannot be read. -/
  record : SessionKey → Except Failure (Option Session)
  /-- What listing the mounts tells. -/
  listing : Except Failure (List String)
  /-- The processes that exist. -/
  alive : UInt32 → Bool
  /-- The mounts whose process is gone. -/
  disconnected : SessionKey → Bool

namespace Sight

variable {v w u : Sight} {key : SessionKey}

/-! ## Who has a path -/

/-- The record of a key, as far as there is one that can be read. -/
def readable (v : Sight) (key : SessionKey) : Option Session :=
  (v.record key).toOption.getD none

/-- Whether a record cannot be read. -/
def unreadable (v : Sight) (key : SessionKey) : Bool :=
  match v.record key with
  | .ok _ => false
  | .error _ => true

/-- Whether a key is mounted, unless the mounts cannot be listed. -/
def mounted (v : Sight) (key : SessionKey) : Except Failure Bool :=
  v.listing.map (MountTable.lists · key)

/-- A live session has the path: its process exists, or it is the launcher's and is mounted, or
nobody has recorded it and its mount is not disconnected. -/
inductive Held (v : Sight) (key : SessionKey) : Prop
  | process {session : Session} {pid : UInt32} (found : v.readable key = some session)
      (owner : session.owner = .process pid) (alive : v.alive pid = true)
  | service {session : Session} {name : String} (found : v.readable key = some session)
      (owner : session.owner = .service name) (mounted : v.mounted key = .ok true)
  | unrecorded (found : v.readable key = none) (mounted : v.mounted key = .ok true)
      (connected : v.disconnected key = false)

/-- Whether a path is held, when it is known whether it is mounted. -/
def taken (v : Sight) (key : SessionKey) (mounted : Bool) : Bool :=
  match v.readable key with
  | some session =>
    match session.owner with
    | .process pid => v.alive pid
    | .service _ => mounted
  | none => mounted && !v.disconnected key

/-- Whether the owner of a session that is not mounted is alive. The launcher is. -/
def ownerAlive (v : Sight) (session : Session) : Bool :=
  match session.owner with
  | .process pid => v.alive pid
  | .service _ => true

/-- A record that is found under the key is one of the key. -/
def Own (v : Sight) (key : SessionKey) : Prop :=
  ∀ session, v.record key = .ok (some session) → session.key = key

/-- `v.record key = .ok record → v.readable key = record`: a record that can be read is the one that
is gone by. -/
theorem readable_of_ok {record : Option Session} (h : v.record key = .ok record) :
    v.readable key = record := by
  unfold readable
  rw [h]
  rfl

/-- `v.readable key = some session → v.record key = .ok (some session)`: what is gone by was
read. -/
theorem record_of_readable {session : Session} (h : v.readable key = some session) :
    v.record key = .ok (some session) := by
  unfold readable at h
  cases hrecord : v.record key with
  | error f =>
    rw [hrecord] at h
    exact absurd h nofun
  | ok record =>
    rw [hrecord] at h
    exact congrArg Except.ok h

/-- `v.record key = .error f → v.readable key = none`: one that cannot be read counts as none. -/
theorem readable_of_error {f : Failure} (h : v.record key = .error f) :
    v.readable key = none := by
  unfold readable
  rw [h]
  rfl

/-- `v.record key = .ok record → v.unreadable key = false`, also where `record` is `none`. -/
theorem unreadable_of_ok {record : Option Session} (h : v.record key = .ok record) :
    v.unreadable key = false := by
  unfold unreadable
  rw [h]

/-- `v.record key = .error f → v.unreadable key = true`, whatever the failure is. -/
theorem unreadable_of_error {f : Failure} (h : v.record key = .error f) :
    v.unreadable key = true := by
  unfold unreadable
  rw [h]

/-- `v.mounted key = .error f ↔ v.listing = .error f`: whether a key is mounted is unknown exactly
when the mounts cannot be listed, and for that reason. -/
theorem mounted_eq_error_iff {f : Failure} :
    v.mounted key = .error f ↔ v.listing = .error f := by
  unfold mounted
  cases v.listing with
  | error g => simp [Except.map]
  | ok paths => simp [Except.map]

/-- Where `v.listing = .ok paths`, whether `key` is mounted is known. -/
theorem exists_mounted (key : SessionKey) {paths : List String} (h : v.listing = .ok paths) :
    ∃ m, v.mounted key = .ok m := by
  unfold mounted
  rw [h]
  exact ⟨_, rfl⟩

/-- **`v.taken key m = true ↔ v.Held key`** once `v.mounted key = .ok m`. What reconciliation
computes from a record and a mount is whether one of the three kinds of live session has the
path. -/
theorem taken_iff {m : Bool} (hm : v.mounted key = .ok m) :
    v.taken key m = true ↔ v.Held key := by
  unfold taken
  constructor
  · intro h
    -- a record decides by its owner, and without one the mount decides
    split at h
    · next session hfound =>
      split at h
      · next pid howner => exact .process hfound howner h
      · next name howner => exact .service hfound howner (h ▸ hm)
    · next hfound =>
      obtain ⟨rfl, hconnected⟩ : m = true ∧ v.disconnected key = false := by simpa using h
      exact .unrecorded hfound hm hconnected
  · rintro (⟨hfound, howner, halive⟩ | ⟨hfound, howner, hmounted⟩ | ⟨hfound, hmounted, hconnected⟩)
    · simp only [hfound, howner, halive]
    · simp only [hfound, howner]
      exact Except.ok.inj (hm.symm.trans hmounted)
    · have : m = true := Except.ok.inj (hm.symm.trans hmounted)
      simp [hfound, this, hconnected]

/-- The mounts under other keys. -/
def elsewhere (v : Sight) (key : SessionKey) : Except Failure (List String) :=
  v.listing.map fun paths => paths.filter fun p => SessionKey.ofPath p != key

end Sight

/-! ## Observations -/

/-- What is seen of every host, and what that is good for. -/
structure Observation (σ : Type) where
  /-- What is seen of a host. -/
  sight : σ → Sight
  /-- The keys that the parts of a platform are asked about. -/
  keys : Set SessionKey
  /-- What the parts rely upon. -/
  sound : σ → Prop

namespace Observation

instance : CoeFun (Observation σ) fun _ => σ → Sight := ⟨sight⟩

/-- What is seen of a host that is traced is what is seen of the host. -/
def traced {ε : Type} (v : Observation σ) : Observation (Traced σ ε) where
  sight t := v t.host
  keys := v.keys
  sound t := v.sound t.host

/-! ### Before and behind -/

/-- Nothing was changed but what is recorded under a key. Whether a process exists is its own
affair. -/
structure OnlyRecord (v : Observation σ) (key : SessionKey) (s s' : σ) : Prop where
  sound : v.sound s'
  records : ∀ other ∈ v.keys, other ≠ key → (v s').record other = (v s).record other
  listing : (v s').listing = (v s).listing
  disconnected : ∀ other ∈ v.keys, (v s').disconnected other = (v s).disconnected other

/-- Nothing was changed but what is mounted under a key. A process may have ended by it. -/
structure OnlyMounts (v : Observation σ) (key : SessionKey) (s s' : σ) : Prop where
  sound : v.sound s'
  records : ∀ other ∈ v.keys, (v s').record other = (v s).record other
  mounts : (v s').elsewhere key = (v s).elsewhere key

/-- No record and no mount of another key was changed. -/
structure SameElsewhere (v : Observation σ) (key : SessionKey) (s s' : σ) : Prop where
  sound : v.sound s'
  records : ∀ other ∈ v.keys, other ≠ key → (v s').record other = (v s).record other
  mounts : (v s').elsewhere key = (v s).elsewhere key

variable {v : Observation σ} {key : SessionKey} {s s' s'' : σ}

namespace OnlyRecord

/-- `v.OnlyRecord key s s`: a call that leaves a sound host as it is has changed no other record. -/
theorem refl (key : SessionKey) (hs : v.sound s) : v.OnlyRecord key s s :=
  ⟨hs, fun _ _ _ => rfl, rfl, fun _ _ => rfl⟩

/-- `(v s').mounted key = (v s).mounted key`, since the listing is the same. -/
theorem mounted (h : v.OnlyRecord key s s') : (v s').mounted key = (v s).mounted key :=
  congrArg (Except.map (MountTable.lists · key)) h.listing

/-- `OnlyRecord key` implies `SameElsewhere key`: a call that concerns one record changes nothing
under another key. -/
theorem sameElsewhere (h : v.OnlyRecord key s s') : v.SameElsewhere key s s' :=
  ⟨h.sound, h.records, congrArg (Except.map _) h.listing⟩

end OnlyRecord

namespace OnlyMounts

/-- `v.OnlyMounts key s s`: a call that leaves a sound host as it is has changed no other mount. -/
theorem refl (key : SessionKey) (hs : v.sound s) : v.OnlyMounts key s s :=
  ⟨hs, fun _ _ => rfl, rfl⟩

/-- Mounts that can be listed on `s` can be listed on `s'`: if the listing on `s'` failed, so would
`(v s').elsewhere key`, which is `(v s).elsewhere key`. -/
theorem exists_mounted (h : v.OnlyMounts key s s') {m : Bool} (hm : (v s).mounted key = .ok m) :
    ∃ m', (v s').mounted key = .ok m' := by
  have hmounts := h.mounts
  unfold Sight.elsewhere at hmounts
  cases hbefore : (v s).listing with
  | error f => exact absurd ((Sight.mounted_eq_error_iff.2 hbefore).symm.trans hm) nofun
  | ok paths =>
    cases hbehind : (v s').listing with
    | error f =>
      rw [hbefore, hbehind] at hmounts
      exact absurd hmounts nofun
    | ok paths' => exact Sight.exists_mounted key hbehind

/-- `OnlyMounts key` implies `SameElsewhere key`: a call that concerns the mounts of one key changes
nothing under another key. -/
theorem sameElsewhere (h : v.OnlyMounts key s s') : v.SameElsewhere key s s' :=
  ⟨h.sound, fun other hother _ => h.records other hother, h.mounts⟩

end OnlyMounts

namespace SameElsewhere

/-- `v.SameElsewhere key s s`: nothing was changed anywhere. -/
theorem refl (key : SessionKey) (hs : v.sound s) : v.SameElsewhere key s s :=
  ⟨hs, fun _ _ _ => rfl, rfl⟩

/-- `SameElsewhere key` is transitive: two calls about one key change nothing under another key. -/
theorem trans (h : v.SameElsewhere key s s') (h' : v.SameElsewhere key s' s'') :
    v.SameElsewhere key s s'' where
  sound := h'.sound
  records other hother hne := (h'.records other hother hne).trans (h.records other hother hne)
  mounts := h'.mounts.trans h.mounts

end SameElsewhere

end Observation

open Observation (OnlyRecord OnlyMounts SameElsewhere)

/-! ## Parts that go by what is seen -/

/-- **The contract of records, mounts and processes.** Asked about a key of `v.keys` on a host with
`v.sound s`, they answer by `v s`. To remove a record and to take a mount away may fail; either way
nothing else is changed, and the host is sound. -/
structure Bookkeeping.Seen (b : Bookkeeping σ) (v : Observation σ) : Prop where
  lookup : ∀ key ∈ v.keys, ∀ s, v.sound s →
    (b.registry.lookup key).runOn s = ((v s).record key, s)
  list : ∀ s, v.sound s → b.mounts.list.runOn s = ((v s).listing, s)
  isDisconnected : ∀ key ∈ v.keys, ∀ s, v.sound s →
    (b.mounts.isDisconnected key).runOn s = (.ok ((v s).disconnected key), s)
  isAlive : ∀ pid s, v.sound s → (b.processes.isAlive pid).runOn s = (.ok ((v s).alive pid), s)
  unregister : ∀ key ∈ v.keys, ∀ s, v.sound s →
    v.OnlyRecord key s ((b.registry.unregister key).runOn s).2
  /-- When it worked, there is no record. -/
  unregistered : ∀ key ∈ v.keys, ∀ s, v.sound s →
    ((b.registry.unregister key).runOn s).1 = .ok () →
    (v ((b.registry.unregister key).runOn s).2).record key = .ok none
  unmount : ∀ key ∈ v.keys, ∀ lazily s, v.sound s →
    v.OnlyMounts key s ((b.unmounter.unmount key.text lazily).runOn s).2
  /-- When it worked, the path is not mounted. -/
  unmounted : ∀ key ∈ v.keys, ∀ lazily s, v.sound s →
    ((b.unmounter.unmount key.text lazily).runOn s).1 = .ok () →
    (v ((b.unmounter.unmount key.text lazily).runOn s).2).mounted key ≠ .ok true

/-- **The contract of what it takes to unmount.** A record that is found under a key of `v.keys` is
of that key, and to stop its session may fail, and concerns no other key. -/
structure Teardown.Seen (t : Teardown σ) (v : Observation σ) : Prop where
  books : t.books.Seen v
  own : ∀ key ∈ v.keys, ∀ s, v.sound s → (v s).Own key
  stop : ∀ session : Session, session.key ∈ v.keys → ∀ s, v.sound s →
    v.SameElsewhere session.key s ((t.supervisor.stop session).runOn s).2
  /-- A line can always be shown. -/
  print : ∀ line s, v.sound s → ((t.console.print line).runOn s).1 = .ok ()
  printed : ∀ line s, v.sound s → v ((t.console.print line).runOn s).2 = v s ∧
    v.sound ((t.console.print line).runOn s).2

/-! ## Calls with their answers -/

/-- A call with how it ended. -/
abbrev Dealing := ManagerCall × Except Failure Unit

/-- The path that a call takes away, and whether lazily. -/
def ManagerCall.detached? : ManagerCall → Option (String × Bool)
  | detach path lazily => some (path, lazily)
  | _ => none

/-- The mounts that were to be taken away, in order. -/
def detachings (dealings : List Dealing) : List (String × Bool) :=
  dealings.filterMap fun d => d.1.detached?

/-- `detachings (first ++ later) = detachings first ++ detachings later`: the mounts that the calls
of two stages were to take away, in the order of the stages. -/
theorem detachings_append (first later : List Dealing) :
    detachings (first ++ later) = detachings first ++ detachings later :=
  List.filterMap_append

/-- The records, mounts and processes of a platform, with a trace of the calls and their answers. -/
def Bookkeeping.answered (b : Bookkeeping σ) : Bookkeeping (Traced σ Dealing) where
  registry := {
    register := fun session => (b.registry.register session).answered (.register session)
    lookup := fun key => (b.registry.lookup key).unseen
    unregister := fun key => (b.registry.unregister key).answered (.unregister key)
    listAll := b.registry.listAll.unseen }
  mounts := {
    list := b.mounts.list.unseen
    isDisconnected := fun key => (b.mounts.isDisconnected key).unseen }
  unmounter := {
    unmount := fun path lazily => (b.unmounter.unmount path lazily).answered (.detach path lazily) }
  processes := {
    isAlive := fun pid => (b.processes.isAlive pid).unseen
    childrenOf := fun pid => (b.processes.childrenOf pid).unseen
    pidsNamed := fun name => (b.processes.pidsNamed name).unseen
    terminate := fun pid => (b.processes.terminate pid).unseen
    kill := fun pid => (b.processes.kill pid).unseen }

/-- What it takes to unmount, with a trace of the calls and their answers. An unmount starts no
session. -/
def Teardown.answered (t : Teardown σ) : Teardown (Traced σ Dealing) where
  books := t.books.answered
  supervisor := {
    start := fun session options => (t.supervisor.start session options).unseen
    stop := fun session => (t.supervisor.stop session).answered (.stop session) }
  console := ⟨fun line => (t.console.print line).unseen⟩
  patterns := t.patterns

/-- `b.answered.Seen v.traced`: writing down the calls changes neither what is seen nor how the
parts answer. -/
theorem Bookkeeping.Seen.answered {b : Bookkeeping σ} {v : Observation σ} (h : b.Seen v) :
    b.answered.Seen v.traced where
  lookup key hkey t ht := by
    show (b.registry.lookup key).unseen.runOn t = _
    rw [Act.runOn_unseen, h.lookup key hkey t.host ht]
    rfl
  list t ht := by
    show b.mounts.list.unseen.runOn t = _
    rw [Act.runOn_unseen, h.list t.host ht]
    rfl
  isDisconnected key hkey t ht := by
    show (b.mounts.isDisconnected key).unseen.runOn t = _
    rw [Act.runOn_unseen, h.isDisconnected key hkey t.host ht]
    rfl
  isAlive pid t ht := by
    show (b.processes.isAlive pid).unseen.runOn t = _
    rw [Act.runOn_unseen, h.isAlive pid t.host ht]
    rfl
  unregister key hkey t ht :=
    have honly := h.unregister key hkey t.host ht
    ⟨honly.sound, honly.records, honly.listing, honly.disconnected⟩
  unregistered key hkey t ht := h.unregistered key hkey t.host ht
  unmount key hkey lazily t ht :=
    have honly := h.unmount key hkey lazily t.host ht
    ⟨honly.sound, honly.records, honly.mounts⟩
  unmounted key hkey lazily t ht := h.unmounted key hkey lazily t.host ht

/-- `t.answered.Seen v.traced`, for all that it takes to unmount. -/
theorem Teardown.Seen.answered {t : Teardown σ} {v : Observation σ} (h : t.Seen v) :
    t.answered.Seen v.traced where
  books := h.books.answered
  own key hkey u hu := h.own key hkey u.host hu
  stop session hkey u hu :=
    have hsame := h.stop session hkey u.host hu
    ⟨hsame.sound, hsame.records, hsame.mounts⟩
  print line u hu := h.print line u.host hu
  printed line u hu := h.printed line u.host hu

/-! ## Looking -/

namespace Bookkeeping.Seen

variable {b : Bookkeeping σ} {v : Observation σ} {key : SessionKey} {s : σ}

/-- `b.mounts.isMounted key` answers `(v s).mounted key` and leaves the host as it is. -/
theorem runOn_isMounted (h : b.Seen v) (key : SessionKey) (hs : v.sound s) :
    (b.mounts.isMounted key).runOn s = ((v s).mounted key, s) := by
  unfold MountTable.isMounted Sight.mounted
  rw [Act.runOn_bind, h.list s hs]
  cases (v s).listing with
  | error f => rfl
  | ok paths => rfl

/-- `b.isTaken key mounted` answers `(v s).taken key mounted` when it is given the record that can
be read, by a look at the process of the record, or at the mount where there is none. -/
theorem runOn_isTaken (h : b.Seen v) (hkey : key ∈ v.keys) (mounted : Bool) (hs : v.sound s) :
    (b.isTaken key mounted ((v s).readable key)).runOn s = (.ok ((v s).taken key mounted), s) := by
  unfold Bookkeeping.isTaken Sight.taken
  cases (v s).readable key with
  | some session =>
    obtain ⟨own, config, owner, state⟩ := session
    cases owner with
    | process pid => exact h.isAlive pid s hs
    | service name => rfl
  | none =>
    cases mounted with
    | false => rfl
    | true =>
      rw [if_pos rfl, Act.runOn_bind, h.isDisconnected key hkey s hs]
      rfl

/-- What is seen of other keys is kept by all that is done about a key: `v.SameElsewhere key s` is
an invariant of every part that reconciliation of `key` calls. -/
theorem keeping (h : b.Seen v) (hkey : key ∈ v.keys) (s : σ) :
    b.Keeping key (v.SameElsewhere key s) where
  lookup := .of_final fun s' hs' => by rwa [h.lookup key hkey s' hs'.sound]
  unregister := .of_final fun s' hs' =>
    hs'.trans (h.unregister key hkey s' hs'.sound).sameElsewhere
  list := .of_final fun s' hs' => by rwa [h.list s' hs'.sound]
  isDisconnected := .of_final fun s' hs' => by rwa [h.isDisconnected key hkey s' hs'.sound]
  isAlive pid := .of_final fun s' hs' => by rwa [h.isAlive pid s' hs'.sound]
  unmount := .of_final fun s' hs' => hs'.trans (h.unmount key hkey true s' hs'.sound).sameElsewhere

end Bookkeeping.Seen

/-- `t.ownerAlive session` answers `(v s).ownerAlive session`: the launcher is always alive, and a
process is looked up. -/
theorem Teardown.Seen.runOn_ownerAlive {t : Teardown σ} {v : Observation σ} (h : t.Seen v)
    (session : Session) {s : σ} (hs : v.sound s) :
    (t.ownerAlive session).runOn s = (.ok ((v s).ownerAlive session), s) := by
  unfold Teardown.ownerAlive Sight.ownerAlive
  cases session.owner with
  | process pid => exact h.books.isAlive pid s hs
  | service name => rfl

/-! ## A host with faults -/

/-- A host where records cannot be read or removed, mounts cannot be listed or taken away, and
sessions cannot be stopped, as it is told. -/
structure PatchyHost where
  sight : Sight
  /-- The keys whose record cannot be removed. -/
  fixed : List SessionKey := []
  /-- The keys whose mounts cannot be taken away. -/
  busy : List SessionKey := []
  /-- The keys whose session cannot be stopped. -/
  stubborn : List SessionKey := []

namespace PatchyHost

/-- What is seen without the record of a key. -/
def forget (v : Sight) (key : SessionKey) : Sight :=
  { v with record := Function.update v.record key (.ok none) }

/-- What is seen without the mounts of a key. -/
def detach (v : Sight) (key : SessionKey) : Sight :=
  { v with listing := v.elsewhere key }

/-- Removes a record, unless that is out of order. -/
def unregister (key : SessionKey) : Act PatchyHost Unit := fun h =>
  if key ∈ h.fixed then (.error (.ofText "cannot remove record"), h)
  else (.ok (), { h with sight := forget h.sight key })

/-- Takes a mount away, unless that is out of order. -/
def unmount (path : String) : Act PatchyHost Unit := fun h =>
  if .ofPath path ∈ h.busy then (.error (.ofText "Device or resource busy"), h)
  else (.ok (), { h with sight := detach h.sight (.ofPath path) })

/-- Stops a session by removing its record, unless that is out of order. -/
def stop (session : Session) : Act PatchyHost Unit := fun h =>
  if session.key ∈ h.stubborn then (.error (.ofText "cannot stop session"), h)
  else (unregister session.key).runOn h

def books : Bookkeeping PatchyHost where
  registry := {
    register := fun _ => Act.failText "no record can be kept"
    lookup := fun key h => (h.sight.record key, h)
    unregister := unregister
    listAll := Act.failText "no records can be listed" }
  mounts := {
    list := fun h => (h.sight.listing, h)
    isDisconnected := fun key h => (.ok (h.sight.disconnected key), h) }
  unmounter := ⟨fun path _ => unmount path⟩
  processes := {
    isAlive := fun pid h => (.ok (h.sight.alive pid), h)
    childrenOf := fun _ => pure []
    pidsNamed := fun _ => pure []
    terminate := fun _ => pure ()
    kill := fun _ => pure () }

def teardown : Teardown PatchyHost where
  books := books
  supervisor := ⟨fun _ _ => Act.failText "no session can be started", stop⟩
  console := ⟨fun _ => pure ()⟩
  patterns := Pattern.reader

section Runs

variable {h : PatchyHost} {key : SessionKey} {path : String}

/-- A key of `h.fixed` keeps its record, and that is said. -/
theorem runOn_unregister_of_fixed (hkey : key ∈ h.fixed) :
    (unregister key).runOn h = (.error (.ofText "cannot remove record"), h) :=
  if_pos hkey

/-- A key that is not among the `fixed` ones loses its record. -/
theorem runOn_unregister (hkey : key ∉ h.fixed) :
    (unregister key).runOn h = (.ok (), { h with sight := forget h.sight key }) :=
  if_neg hkey

/-- A path whose key is one of `h.busy` stays mounted, and that is said. -/
theorem runOn_unmount_of_busy (hpath : .ofPath path ∈ h.busy) :
    (unmount path).runOn h = (.error (.ofText "Device or resource busy"), h) :=
  if_pos hpath

/-- A path whose key is not among the `busy` ones loses all mounts of the key. -/
theorem runOn_unmount (hpath : .ofPath path ∉ h.busy) :
    (unmount path).runOn h = (.ok (), { h with sight := detach h.sight (.ofPath path) }) :=
  if_neg hpath

/-- A session whose key is one of `h.stubborn` goes on, and that is said. -/
theorem runOn_stop_of_stubborn {session : Session} (hkey : session.key ∈ h.stubborn) :
    (stop session).runOn h = (.error (.ofText "cannot stop session"), h) :=
  if_pos hkey

/-- Any other session loses its record, if `h.fixed` does not keep it. -/
theorem runOn_stop {session : Session} (hkey : session.key ∉ h.stubborn) :
    (stop session).runOn h = (unregister session.key).runOn h :=
  if_neg hkey

end Runs

/-- All keys may be asked about. The records that are found are of their keys. -/
def observation : Observation PatchyHost where
  sight := sight
  keys := Set.univ
  sound h := ∀ key, h.sight.Own key

/-- `forget v key` has no record under `key` that could be of another one. -/
theorem own_forget {v : Sight} (hv : ∀ k, v.Own k) (key k : SessionKey) : (forget v key).Own k := by
  intro session hfound
  change Function.update v.record key (.ok none) k = .ok (some session) at hfound
  by_cases hk : k = key
  · rw [hk, Function.update_self] at hfound
    exact absurd (Except.ok.inj hfound) nofun
  · rw [Function.update_of_ne hk] at hfound
    exact hv k session hfound

/-- Whether `unregister key` works or fails, it is `OnlyRecord key`: a record is removed or left,
and nothing else is changed. -/
theorem onlyRecord_unregister (key : SessionKey) {h : PatchyHost} (hh : observation.sound h) :
    observation.OnlyRecord key h ((unregister key).runOn h).2 := by
  by_cases hkey : key ∈ h.fixed
  · rw [runOn_unregister_of_fixed hkey]
    exact .refl key hh
  · rw [runOn_unregister hkey]
    exact ⟨own_forget hh key, fun _ _ hne => Function.update_of_ne hne _ _, rfl, fun _ _ => rfl⟩

/-- `(detach v key).mounted key ≠ .ok true`: what is left of the mounts is not under the key. -/
theorem mounted_detach_ne (v : Sight) (key : SessionKey) : (detach v key).mounted key ≠ .ok true := by
  unfold Sight.mounted detach Sight.elsewhere
  cases v.listing with
  | error f => nofun
  | ok paths =>
    intro h
    have hlists := Except.ok.inj h
    simp [MountTable.lists] at hlists

/-- `(detach v key).elsewhere key = v.elsewhere key`: the mounts under other keys are what is
left. -/
theorem elsewhere_detach (v : Sight) (key : SessionKey) :
    (detach v key).elsewhere key = v.elsewhere key := by
  unfold detach Sight.elsewhere
  cases v.listing with
  | error f => rfl
  | ok paths => simp [Except.map]

/-- **The records, mounts and processes of the host** meet `Bookkeeping.Seen` for all keys,
whichever of them are out of order. -/
theorem seen_books : books.Seen observation where
  lookup _ _ _ _ := rfl
  list _ _ := rfl
  isDisconnected _ _ _ _ := rfl
  isAlive _ _ _ := rfl
  unregister key _ _ hh := onlyRecord_unregister key hh
  unregistered key _ h _ := by
    intro hok
    show ((unregister key).runOn h).2.sight.record key = _
    by_cases hkey : key ∈ h.fixed
    · exact absurd ((congrArg Prod.fst (runOn_unregister_of_fixed hkey)).symm.trans hok) nofun
    · rw [runOn_unregister hkey]
      exact Function.update_self _ _ _
  unmount key _ lazily h hh := by
    show observation.OnlyMounts key h ((unmount key.text).runOn h).2
    by_cases hpath : SessionKey.ofPath key.text ∈ h.busy
    · rw [runOn_unmount_of_busy hpath]
      exact .refl key hh
    · rw [runOn_unmount hpath, SessionKey.ofPath_text]
      exact ⟨hh, fun _ _ => rfl, elsewhere_detach _ _⟩
  unmounted key _ lazily h _ := by
    intro hok
    show ((unmount key.text).runOn h).2.sight.mounted key ≠ _
    by_cases hpath : SessionKey.ofPath key.text ∈ h.busy
    · exact absurd ((congrArg Prod.fst (runOn_unmount_of_busy hpath)).symm.trans hok) nofun
    · rw [runOn_unmount hpath, SessionKey.ofPath_text]
      exact mounted_detach_ne _ _

/-- **What it takes to unmount on the host** meets `Teardown.Seen` for all keys. -/
theorem seen_teardown : teardown.Seen observation where
  books := seen_books
  own key _ _ hh := hh key
  stop session _ h hh := by
    show observation.SameElsewhere session.key h ((stop session).runOn h).2
    by_cases hkey : session.key ∈ h.stubborn
    · rw [runOn_stop_of_stubborn hkey]
      exact .refl _ hh
    · rw [runOn_stop hkey]
      exact (onlyRecord_unregister session.key hh).sameElsewhere
  print _ _ _ := rfl
  printed _ _ hh := ⟨rfl, hh⟩

end PatchyHost

end MountKeeper
