import MountKeeper.MountTable
import Mathlib.Data.List.Nodup

/-! # Ledgers

A ledger is what can be said about the sessions of a host: which keys have a record, and which paths
are mounted.

* `Ledger.Coherent`: no two mounted paths share a key, and the keys with a record are those that are
  mounted.
* `Ledger.attach` enters a session, `Ledger.erase` strikes one out; `Coherent.attach` and
  `Coherent.erase` say that both keep a ledger coherent.
* `Ledger.Within` compares a ledger with one that had more in it. -/

namespace MountKeeper

/-- The records and the mounts of a host. -/
structure Ledger where
  /-- The record of each key that has one. -/
  records : SessionKey → Option Session
  /-- The paths that are mounted, in order. -/
  table : List String

namespace Ledger

/-- Nothing is recorded and nothing is mounted. -/
def empty : Ledger := ⟨fun _ => none, []⟩

/-- The keys of the mounted paths. -/
def keys (V : Ledger) : List SessionKey :=
  V.table.map SessionKey.ofPath

/-- A key is free when it has no record and nothing is mounted under it. -/
def Free (V : Ledger) (k : SessionKey) : Prop :=
  V.records k = none ∧ k ∉ V.keys

/-- The ledger without the mounts of a key. -/
def detach (V : Ledger) (k : SessionKey) : Ledger :=
  { V with table := V.table.filter fun p => SessionKey.ofPath p != k }

/-- The ledger without the record of a key. -/
def forget (V : Ledger) (k : SessionKey) : Ledger :=
  { V with records := Function.update V.records k none }

/-- The ledger without anything about a key. -/
def erase (V : Ledger) (k : SessionKey) : Ledger :=
  (V.detach k).forget k

/-- The ledger with another record, and a path mounted for it. -/
def attach (V : Ledger) (record : Session) (path : String) : Ledger where
  records := Function.update V.records record.key (some record)
  table := V.table ++ [path]

/-- **Coherence**: the mounted paths have different keys, and those are the keys with a record. -/
structure Coherent (V : Ledger) : Prop where
  /-- No two mounted paths have the same key. -/
  unique : V.keys.Nodup
  /-- The keys with a record are those of the mounted paths. -/
  recorded : ∀ k, (V.records k).isSome ↔ k ∈ V.keys

/-! ## Keys -/

/-- `MountTable.lists V.table k` is whether `k` is one of the keys of `V`. -/
theorem lists_table_iff (V : Ledger) (k : SessionKey) :
    MountTable.lists V.table k = true ↔ k ∈ V.keys := by
  unfold MountTable.lists keys
  rw [List.any_eq_true, List.mem_map]
  simp only [beq_iff_eq]

/-- `V.detach k` has the keys of `V` but `k`. -/
theorem mem_keys_detach {V : Ledger} {k k' : SessionKey} :
    k' ∈ (V.detach k).keys ↔ k' ∈ V.keys ∧ k' ≠ k := by
  unfold keys detach
  simp only [List.mem_map, List.mem_filter, bne_iff_ne]
  constructor
  · rintro ⟨p, ⟨hp, hne⟩, rfl⟩
    exact ⟨⟨p, hp, rfl⟩, hne⟩
  · rintro ⟨⟨p, hp, rfl⟩, hne⟩
    exact ⟨p, ⟨hp, hne⟩, rfl⟩

/-- `V.forget k` has the keys of `V`: the mounts stay. -/
@[simp] theorem keys_forget (V : Ledger) (k : SessionKey) : (V.forget k).keys = V.keys := rfl

/-- `V.erase k` has the keys of `V` but `k`. -/
theorem mem_keys_erase {V : Ledger} {k k' : SessionKey} :
    k' ∈ (V.erase k).keys ↔ k' ∈ V.keys ∧ k' ≠ k :=
  mem_keys_detach

/-- `V.attach record path` has the key of `path` behind those of `V`. -/
@[simp] theorem keys_attach (V : Ledger) (record : Session) (path : String) :
    (V.attach record path).keys = V.keys ++ [SessionKey.ofPath path] := by
  simp [keys, attach]

/-- The keys that are left are in the order they were in. -/
theorem keys_erase_sublist (V : Ledger) (k : SessionKey) : (V.erase k).keys.Sublist V.keys :=
  List.filter_sublist.map SessionKey.ofPath

/-! ## Records -/

/-- `V.erase k` has no record under `k`. -/
theorem records_erase_self (V : Ledger) (k : SessionKey) : (V.erase k).records k = none := by
  show Function.update V.records k none k = none
  rw [Function.update_self]

/-- `V.erase k` has the other records of `V`. -/
theorem records_erase_of_ne {V : Ledger} {k k' : SessionKey} (h : k' ≠ k) :
    (V.erase k).records k' = V.records k' := by
  show Function.update V.records k none k' = _
  rw [Function.update_of_ne h]

/-- `V.attach record path` has `record` under its key. -/
theorem records_attach_self (V : Ledger) (record : Session) (path : String) :
    (V.attach record path).records record.key = some record := by
  show Function.update V.records record.key (some record) record.key = _
  rw [Function.update_self]

/-- `V.attach record path` has the other records of `V`. -/
theorem records_attach_of_ne {V : Ledger} {record : Session} {k : SessionKey} (path : String)
    (h : k ≠ record.key) : (V.attach record path).records k = V.records k := by
  show Function.update V.records record.key (some record) k = _
  rw [Function.update_of_ne h]

/-! ## Free keys -/

/-- What was struck out is free. -/
theorem free_erase (V : Ledger) (k : SessionKey) : (V.erase k).Free k :=
  ⟨V.records_erase_self k, fun h => (mem_keys_erase.1 h).2 rfl⟩

/-- There is nothing to detach under a key that is not mounted. -/
theorem detach_of_not_mem {V : Ledger} {k : SessionKey} (h : k ∉ V.keys) : V.detach k = V := by
  have hall : ∀ p ∈ V.table, (SessionKey.ofPath p != k) = true := by
    intro p hp
    rw [bne_iff_ne]
    rintro rfl
    exact h (List.mem_map_of_mem hp)
  unfold detach
  rw [List.filter_eq_self.2 hall]

/-- There is nothing to forget under a key without a record. -/
theorem forget_of_none {V : Ledger} {k : SessionKey} (h : V.records k = none) :
    V.forget k = V := by
  unfold forget
  rw [Function.update_eq_self_iff.2 h.symm]

/-- There is nothing to strike out under a free key. -/
theorem Free.erase_eq {V : Ledger} {k : SessionKey} (h : V.Free k) : V.erase k = V := by
  rw [erase, detach_of_not_mem h.2, forget_of_none h.1]

/-! ## Coherence -/

namespace Coherent

variable {V : Ledger} {k : SessionKey}

/-- Where nothing is recorded and nothing is mounted, there is nothing to disagree. -/
theorem empty : Coherent Ledger.empty :=
  ⟨List.nodup_nil, fun k => by simp [Ledger.empty, keys]⟩

/-- A key that is not mounted has no record, so it is free. -/
theorem free_of_not_mem (h : V.Coherent) (hk : k ∉ V.keys) : V.Free k := by
  refine ⟨?_, hk⟩
  rw [← Option.not_isSome_iff_eq_none]
  exact fun hsome => hk ((h.recorded k).1 hsome)

/-- `V.erase k` is coherent: the key is taken out of the mounts and of the records. -/
theorem erase (h : V.Coherent) (k : SessionKey) : (V.erase k).Coherent := by
  refine ⟨h.unique.sublist (V.keys_erase_sublist k), fun k' => ?_⟩
  rw [mem_keys_erase]
  by_cases hk : k' = k
  · subst hk
    rw [records_erase_self]
    simp
  · rw [records_erase_of_ne hk, h.recorded]
    simp [hk]

/-- `V.attach record path` is coherent where the key was free: it is put into both. -/
theorem attach (h : V.Coherent) {record : Session} {path : String}
    (hpath : SessionKey.ofPath path = record.key) (hfree : V.Free record.key) :
    (V.attach record path).Coherent := by
  constructor
  · rw [keys_attach, hpath]
    -- the new path comes last, and nothing was mounted under its key
    exact h.unique.append (List.nodup_singleton _) (by simpa using hfree.2)
  · intro k'
    rw [keys_attach, hpath]
    by_cases hk : k' = record.key
    · subst hk
      rw [records_attach_self]
      simp
    · rw [records_attach_of_ne path hk, h.recorded]
      simp [hk]

end Coherent

/-! ## Ledgers with less in them -/

/-- A ledger lies within another one when every path that it lists is listed there, and every key
that has a record has one there. -/
structure Within (V' V : Ledger) : Prop where
  table : ∀ p ∈ V'.table, p ∈ V.table
  records : ∀ k, V.records k = none → V'.records k = none

namespace Within

variable {U V W : Ledger} {k : SessionKey}

/-- A ledger lies within itself. -/
theorem refl (V : Ledger) : V.Within V :=
  ⟨fun _ h => h, fun _ h => h⟩

/-- `Within` goes from ledger to ledger. -/
theorem trans (h : U.Within V) (h' : V.Within W) : U.Within W :=
  ⟨fun p hp => h'.table p (h.table p hp), fun k hk => h.records k (h'.records k hk)⟩

/-- `V.erase k` lies within `V`. -/
theorem erase (V : Ledger) (k : SessionKey) : (V.erase k).Within V := by
  refine ⟨fun p hp => (List.mem_filter.1 hp).1, fun k' hk => ?_⟩
  by_cases h : k' = k
  · subst h
    exact V.records_erase_self k'
  · rw [records_erase_of_ne h, hk]

/-- A key that is free stays free when a ledger loses entries. -/
theorem free (h : U.Within V) (hk : V.Free k) : U.Free k := by
  refine ⟨h.records k hk.1, fun hmem => hk.2 ?_⟩
  obtain ⟨p, hp, rfl⟩ := List.mem_map.1 hmem
  exact List.mem_map_of_mem (h.table p hp)

end Within

end Ledger

end MountKeeper
