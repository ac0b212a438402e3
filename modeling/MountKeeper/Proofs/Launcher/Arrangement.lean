import MountKeeper.Instances
import MountKeeper.Proofs.Launcher.Client
import MountKeeper.Proofs.SessionKey
import MountKeeper.Proofs.Sessions.Ledger

/-! # The instance store beside the launcher

Sessions that the launcher serves are kept in two places that know nothing of each other: the
instance store, which has the records, and the launcher, which runs the instances.

* An `Arrangement` is what the two have in them; `Arrangement.ledger` is its ledger.
* `Arrangement.record`, `Arrangement.unrecord`, `Arrangement.start` and `Arrangement.stop` are what
  happens to the two, and the theorems about `ledger` say what that does to the ledger.
* `Arrangement.Kept` is what holds of every arrangement that comes about that way.
* `Arrangement.Kept.isSome_store_iff`: the two agree when the ledger is coherent. -/

namespace MountKeeper

open Launcher (ownClass Instances Listable)
open MountLauncher (ownInstances)

/-! ## Instances of our class -/

/-- `ownInstances` has the names that stand beside `ownClass`. -/
theorem mem_ownInstances {ps : Instances} {name : String} :
    name ∈ ownInstances ps ↔ (ownClass, name) ∈ ps := by
  unfold ownInstances
  simp only [List.mem_map, List.mem_filter, beq_iff_eq]
  constructor
  · rintro ⟨⟨c, n⟩, ⟨hp, rfl⟩, rfl⟩
    exact hp
  · intro h
    exact ⟨_, ⟨h, rfl⟩, rfl⟩

/-- `ownInstances (ps ++ [(ownClass, name)])`: what is started is listed last. -/
theorem ownInstances_start (ps : Instances) (name : String) :
    ownInstances (ps ++ [(ownClass, name)]) = ownInstances ps ++ [name] := by
  unfold ownInstances
  simp

/-- `ownInstances` without `(ownClass, name)`: what is stopped is listed no more. -/
theorem ownInstances_stop (ps : Instances) (name : String) :
    ownInstances (ps.filter fun p => p != (ownClass, name))
      = (ownInstances ps).filter fun n => n != name := by
  unfold ownInstances
  rw [List.filter_map, List.filter_filter, List.filter_filter]
  congr 1
  refine List.filter_congr fun p _ => ?_
  obtain ⟨c, n⟩ := p
  rw [Bool.eq_iff_iff]
  simp only [Function.comp_apply, Bool.and_eq_true, beq_iff_eq, bne_iff_ne, ne_eq, Prod.mk.injEq]
  constructor
  · rintro ⟨hc, hne⟩
    exact ⟨fun hn => hne ⟨hc, hn⟩, hc⟩
  · rintro ⟨hn, hc⟩
    exact ⟨hc, fun h => hn h.2⟩

/-- `ps.count (ownClass, name) ≤ 1` when the listed names are different. -/
theorem count_le_one_of_nodup {ps : Instances} (h : (ownInstances ps).Nodup) (name : String) :
    ps.count (ownClass, name) ≤ 1 := by
  calc ps.count (ownClass, name)
      = (ps.filter fun p => p.1 == ownClass).count (ownClass, name) :=
        (List.count_filter (by simp)).symm
    _ ≤ (ownInstances ps).count name := List.count_le_count_map (f := Prod.snd) (x := (ownClass, name))
    _ ≤ 1 := List.nodup_iff_count_le_one.1 h name

/-! ## Arrangements -/

/-- What the instance store and the launcher have in them. -/
structure Arrangement where
  /-- The values under each key of the instance store. -/
  store : String → Option Values
  /-- The running instances. -/
  running : Instances

namespace Arrangement

/-- The ledger of an arrangement: records are read from the store, and the instances of our class
are the mounts. -/
def ledger (A : Arrangement) : Ledger where
  records k := (A.store k.text).bind fun values => (InstanceStores.sessionOf k.text values).toOption
  table := ownInstances A.running

/-- The arrangement with other values under a key. -/
def setRecord (A : Arrangement) (key : String) (values : Option Values) : Arrangement :=
  { A with store := Function.update A.store key values }

/-- The arrangement with other running instances. -/
def setRunning (A : Arrangement) (ps : Instances) : Arrangement :=
  { A with running := ps }

/-- The arrangement with a record under a key, for a configuration file. -/
def record (A : Arrangement) (k : SessionKey) (config : String) : Arrangement :=
  A.setRecord k.text (some (InstanceStores.recordValues k.text config))

/-- The arrangement without the record of a key. -/
def unrecord (A : Arrangement) (k : SessionKey) : Arrangement :=
  A.setRecord k.text none

/-- The arrangement with another instance of our class. -/
def start (A : Arrangement) (k : SessionKey) : Arrangement :=
  A.setRunning (A.running ++ [(ownClass, k.text)])

/-- The arrangement without an instance of our class. -/
def stop (A : Arrangement) (k : SessionKey) : Arrangement :=
  A.setRunning (A.running.filter fun p => p != (ownClass, k.text))

/-- **What is kept** besides coherence, when the instances of other classes are `others`. -/
structure Kept (others : Instances) (A : Arrangement) : Prop where
  /-- All running instances can be listed. -/
  listable : ∀ p ∈ A.running, Listable p
  /-- The instances of our class are named by keys. -/
  canonical : ∀ name ∈ ownInstances A.running, SessionKey.canonical name = name
  /-- The instances of other classes are as they were. -/
  others : (A.running.filter fun p => p.1 != ownClass) = others
  /-- The store has readable records under keys, and nothing else. -/
  readable : ∀ key values, A.store key = some values →
    SessionKey.canonical key = key ∧ ∃ session, InstanceStores.sessionOf key values = .ok session

variable {A : Arrangement} {others : Instances} {k : SessionKey}

/-! ### Records -/

/-- The session that a record under a key stands for. -/
def sessionAt (k : SessionKey) (config : String) : Session where
  key := k
  configPath := some config
  owner := .service k.text
  state := .running

/-- `sessionOf` undoes `recordValues`: what was written for a key is read as a session under that
key. -/
theorem sessionOf_recordValues (k : SessionKey) (config : String) :
    InstanceStores.sessionOf k.text (InstanceStores.recordValues k.text config)
      = .ok (sessionAt k config) := by
  have hkey : SessionKey.ofPath k.text = k := k.ofPath_text
  simp only [sessionAt, InstanceStores.sessionOf, InstanceStores.recordValues, InstanceStores.mountDirName,
    InstanceStores.configFileName, Values.get?]
  simp [hkey]

/-- A record of `A.ledger` has a service for its owner: what is read from a store is served by the
launcher. -/
theorem owner_of_records {r : Session} (h : A.ledger.records k = some r) :
    ∃ name, r.owner = .service name := by
  obtain ⟨values, -, hread⟩ := Option.bind_eq_some_iff.1 h
  unfold InstanceStores.sessionOf at hread
  split at hread
  · exact absurd hread (by simp [Except.toOption])
  · rw [← Option.some.inj hread]
    exact ⟨k.text, rfl⟩

/-- `(A.record k config).unrecord k = A` where there was no record. -/
theorem unrecord_record (h : A.store k.text = none) (config : String) :
    (A.record k config).unrecord k = A := by
  unfold unrecord record setRecord
  rw [Function.update_idem, ← h, Function.update_eq_self]

/-- Different keys have different texts. -/
theorem text_ne {k k' : SessionKey} (h : k' ≠ k) : k'.text ≠ k.text :=
  fun htext => h (SessionKey.ext htext)

/-! ### What changes do to the ledger -/

/-- `(A.unrecord k).ledger` is the ledger with `k` forgotten. -/
theorem ledger_unrecord (A : Arrangement) (k : SessionKey) :
    (A.unrecord k).ledger = A.ledger.forget k := by
  have hrecords : (A.unrecord k).ledger.records = Function.update A.ledger.records k none := by
    funext k'
    by_cases hk : k' = k
    · subst hk
      rw [Function.update_self]
      simp [ledger, unrecord, setRecord]
    · rw [Function.update_of_ne hk]
      simp [ledger, unrecord, setRecord, Function.update_of_ne (text_ne hk)]
  unfold Ledger.forget
  rw [← hrecords]
  rfl

/-- `(A.stop k).ledger` is the ledger with the mount of `k` detached. The names are canonical, so no
other name has the key. -/
theorem ledger_stop (hcanonical : ∀ name ∈ ownInstances A.running, SessionKey.canonical name = name)
    (k : SessionKey) : (A.stop k).ledger = A.ledger.detach k := by
  have htable : ownInstances (A.running.filter fun p => p != (ownClass, k.text))
      = (ownInstances A.running).filter fun name => SessionKey.ofPath name != k := by
    rw [ownInstances_stop]
    -- a name that is listed is the text of its key, so that only one name has the key `k`
    refine List.filter_congr fun name hname => ?_
    rw [Bool.eq_iff_iff, bne_iff_ne, bne_iff_ne, not_iff_not]
    constructor
    · rintro rfl
      exact k.ofPath_text
    · rintro rfl
      exact (hcanonical name hname).symm
  unfold Ledger.detach ledger stop setRunning
  rw [htable]

/-- To `record` a session and `start` its instance is to `attach` the session to the ledger. -/
theorem ledger_record_start (A : Arrangement) (k : SessionKey) (config : String) :
    ((A.record k config).start k).ledger = A.ledger.attach (sessionAt k config) k.text := by
  have hrecords : (A.record k config).ledger.records
      = Function.update A.ledger.records k (some (sessionAt k config)) := by
    funext k'
    by_cases hk : k' = k
    · subst hk
      rw [Function.update_self]
      simp [ledger, record, setRecord, sessionOf_recordValues, Except.toOption]
    · rw [Function.update_of_ne hk]
      simp [ledger, record, setRecord, Function.update_of_ne (text_ne hk)]
  unfold Ledger.attach
  rw [show (sessionAt k config).key = k from rfl, ← hrecords]
  unfold ledger start setRunning
  rw [ownInstances_start]
  rfl

/-! ### What changes keep -/

namespace Kept

/-- A key without a record has nothing in the store: what is there under canonical keys can be read.
-/
theorem store_eq_none (h : A.Kept others) (hk : A.ledger.records k = none) :
    A.store k.text = none := by
  cases hvalues : A.store k.text with
  | none => rfl
  | some values =>
    obtain ⟨-, session, hread⟩ := h.readable k.text values hvalues
    simp [ledger, hvalues, hread, Except.toOption] at hk

/-- A key has a record if and only if the store has something under it. -/
theorem isSome_records (h : A.Kept others) (k : SessionKey) :
    (A.ledger.records k).isSome ↔ (A.store k.text).isSome := by
  cases hvalues : A.store k.text with
  | none => simp [ledger, hvalues]
  | some values =>
    obtain ⟨-, session, hread⟩ := h.readable k.text values hvalues
    simp [ledger, hvalues, hread, Except.toOption]

/-- `k ∈ A.ledger.keys` if and only if the instance of `k` runs. -/
theorem mem_keys (h : A.Kept others) (k : SessionKey) :
    k ∈ A.ledger.keys ↔ (ownClass, k.text) ∈ A.running := by
  rw [← mem_ownInstances]
  constructor
  · intro hk
    obtain ⟨name, hname, rfl⟩ := List.mem_map.1 hk
    rw [SessionKey.text_ofPath, h.canonical name hname]
    exact hname
  · intro hname
    rw [← k.ofPath_text]
    exact List.mem_map_of_mem hname

/-- **Agreement**: in a coherent arrangement, the keys of the store are the names of our running
instances. -/
theorem isSome_store_iff (h : A.Kept others) (hcoherent : A.ledger.Coherent) (key : String) :
    (A.store key).isSome ↔ (ownClass, key) ∈ A.running := by
  -- what stands in the store or runs is named by some key, so that keys are all there is to compare
  have hkey : ∀ k : SessionKey, (A.store k.text).isSome ↔ (ownClass, k.text) ∈ A.running := by
    intro k
    rw [← h.isSome_records, ← h.mem_keys]
    exact hcoherent.recorded k
  constructor
  · intro hsome
    obtain ⟨values, hvalues⟩ := Option.isSome_iff_exists.1 hsome
    exact (hkey ⟨key, (h.readable key values hvalues).1⟩).1 hsome
  · intro hrunning
    exact (hkey ⟨key, h.canonical key (mem_ownInstances.2 hrunning)⟩).2 hrunning

/-- In a coherent arrangement, `A.running.count (ownClass, key) ≤ 1`: no instance of ours runs
twice. -/
theorem count_le_one (hcoherent : A.ledger.Coherent) (key : String) :
    A.running.count (ownClass, key) ≤ 1 :=
  count_le_one_of_nodup (List.Nodup.of_map SessionKey.ofPath hcoherent.unique) key

/-- `A.unrecord k` is `Kept`. -/
theorem unrecord (h : A.Kept others) (k : SessionKey) : (A.unrecord k).Kept others := by
  refine ⟨h.listable, h.canonical, h.others, fun key values hvalues => ?_⟩
  by_cases hk : key = k.text
  · subst hk
    simp [Arrangement.unrecord, setRecord] at hvalues
  · simp only [Arrangement.unrecord, setRecord, Function.update_of_ne hk] at hvalues
    exact h.readable key values hvalues

/-- `A.record k config` is `Kept`: what is written can be read. -/
theorem record (h : A.Kept others) (k : SessionKey) (config : String) :
    (A.record k config).Kept others := by
  refine ⟨h.listable, h.canonical, h.others, fun key values hvalues => ?_⟩
  by_cases hk : key = k.text
  · subst hk
    simp only [Arrangement.record, setRecord, Function.update_self, Option.some.injEq] at hvalues
    subst hvalues
    exact ⟨k.canonical_text, _, sessionOf_recordValues k config⟩
  · simp only [Arrangement.record, setRecord, Function.update_of_ne hk] at hvalues
    exact h.readable key values hvalues

/-- `A.stop k` is `Kept`. -/
theorem stop (h : A.Kept others) (k : SessionKey) : (A.stop k).Kept others := by
  refine ⟨fun p hp => h.listable p (List.mem_filter.1 hp).1, fun n hn => ?_, ?_, h.readable⟩
  · rw [Arrangement.stop, setRunning, ownInstances_stop] at hn
    exact h.canonical n (List.mem_filter.1 hn).1
  · rw [← h.others]
    show ((A.running.filter fun p => p != (ownClass, k.text)).filter fun p => p.1 != ownClass) = _
    rw [List.filter_filter]
    refine List.filter_congr fun p _ => ?_
    -- what is not of our class is not the instance that was stopped
    rw [Bool.eq_iff_iff, Bool.and_eq_true, bne_iff_ne, bne_iff_ne, and_iff_left_iff_imp]
    rintro hclass rfl
    exact hclass rfl

/-- `A.start k` is `Kept`, if the wire can carry the key. -/
theorem start (h : A.Kept others) (hk : Launcher.NulFree k.text) : (A.start k).Kept others := by
  refine ⟨fun p hp => ?_, fun n hn => ?_, ?_, h.readable⟩
  · rcases List.mem_append.1 hp with hp | hp
    · exact h.listable p hp
    · rw [List.mem_singleton.1 hp]
      have hclass : Launcher.NulFree ownClass ∧ ownClass ≠ "" := by decide
      exact ⟨hclass, hk, k.text_ne_empty⟩
  · rw [Arrangement.start, setRunning, ownInstances_start] at hn
    rcases List.mem_append.1 hn with hn | hn
    · exact h.canonical n hn
    · rw [List.mem_singleton.1 hn]
      exact k.canonical_text
  · rw [← h.others]
    show ((A.running ++ [(ownClass, k.text)]).filter fun p => p.1 != ownClass) = _
    rw [List.filter_append]
    simp

end Kept

end Arrangement

end MountKeeper
