import MountKeeper.Proofs.Instances.Entries
import MountKeeper.Rehearsal.Stores
import Mathlib.Data.String.Basic
import Mathlib.Logic.Function.Basic

/-! # Shelves as key stores

What is under a key of a shelf changes with that key only, and a shelf that is neither unreadable
nor locked answers every request.

* `Shelf.lookup_write` and `Shelf.lookup_erase`: what is under the keys behind a change.
* `Shelf.contents` is what a shelf has in it; `Shelf.runOn_read`, `Shelf.runOn_write` and
  `Shelf.runOn_delete`: the store over a shelf.
* `Shelf.answers`: a sound shelf is a store that does not fail. `Shelf.atomic`: every shelf refuses as
  a whole what it refuses. `Shelf.serves`: an open one answers from its entries, of which some cannot
  be read.
* `answers_storeOn`, `atomic_storeOn` and `serves_storeOn` take that to a larger host. -/

namespace MountKeeper.Rehearsal

namespace Shelf

/-- `lookup k` passes over an entry under another key. -/
theorem lookup_cons_of_ne {k k' : String} (h : k ≠ k') (v : Values)
    (entries : List (String × Values)) : ((k', v) :: entries).lookup k = entries.lookup k := by
  rw [List.lookup_cons, beq_eq_false_iff_ne.2 h]

/-- `setEntry key values entries` has `values` under `key`. -/
theorem lookup_setEntry_self (key : String) (values : Values) (entries : List (String × Values)) :
    (setEntry key values entries).lookup key = some values := by
  induction entries with
  | nil => simp [setEntry]
  | cons e rest ih =>
    obtain ⟨k, v⟩ := e
    unfold setEntry
    by_cases hk : k = key
    · rw [if_pos hk, List.lookup_cons_self]
    · rw [if_neg hk]
      split
      · rw [List.lookup_cons_self]
      · rw [lookup_cons_of_ne (Ne.symm hk), ih]

/-- `setEntry key values entries` has under another key what was there. -/
theorem lookup_setEntry_of_ne {key k : String} (h : k ≠ key) (values : Values)
    (entries : List (String × Values)) :
    (setEntry key values entries).lookup k = entries.lookup k := by
  induction entries with
  | nil => exact lookup_cons_of_ne h values []
  | cons e rest ih =>
    obtain ⟨k', v⟩ := e
    unfold setEntry
    by_cases hk : k' = key
    · subst hk
      rw [if_pos rfl, lookup_cons_of_ne h, lookup_cons_of_ne h]
    · rw [if_neg hk]
      split
      · rw [lookup_cons_of_ne h]
      · rw [List.lookup_cons, List.lookup_cons, ih]

/-- `lookup key` finds nothing among entries without `key`. -/
theorem lookup_filter_self (key : String) (entries : List (String × Values)) :
    (entries.filter fun e => e.1 != key).lookup key = none := by
  rw [List.lookup_eq_none_iff]
  intro e he
  have := (List.mem_filter.1 he).2
  simp at this ⊢
  exact Ne.symm this

/-- `lookup k` finds what was there among entries without another key. -/
theorem lookup_filter_of_ne {key k : String} (h : k ≠ key) (entries : List (String × Values)) :
    (entries.filter fun e => e.1 != key).lookup k = entries.lookup k := by
  induction entries with
  | nil => rfl
  | cons e rest ih =>
    obtain ⟨k', v⟩ := e
    by_cases hk : k' = key
    · subst hk
      rw [List.filter_cons_of_neg (by simp), ih, lookup_cons_of_ne h]
    · rw [List.filter_cons_of_pos (by simpa using hk), List.lookup_cons, List.lookup_cons, ih]

/-- `s.write key values` has under `key` the values that were there with the written ones, and under
the other keys what was there. -/
theorem lookup_write (s : Shelf) (key : String) (values : Values) :
    (fun k => (s.write key values).entries.lookup k)
      = Function.update (fun k => s.entries.lookup k) key
        (some (((s.entries.lookup key).getD []).merge values)) := by
  funext k
  by_cases hk : k = key
  · subst hk
    rw [Function.update_self]
    exact lookup_setEntry_self _ _ _
  · rw [Function.update_of_ne hk]
    exact lookup_setEntry_of_ne hk _ _

/-- `s.erase key` has nothing under `key`, and under the other keys what was there. -/
theorem lookup_erase (s : Shelf) (key : String) :
    (fun k => (s.erase key).entries.lookup k)
      = Function.update (fun k => s.entries.lookup k) key none := by
  funext k
  by_cases hk : k = key
  · subst hk
    rw [Function.update_self]
    exact lookup_filter_self _ _
  · rw [Function.update_of_ne hk]
    exact lookup_filter_of_ne hk _

/-- The keys of a shelf that cannot be read, each with the failure. -/
def unopened (s : Shelf) (key : String) : Option Entry :=
  if s.unreadable.contains key then some (.error (.ofText s!"cannot open key {key}")) else none

/-- What is under the keys of a shelf. -/
def contents (s : Shelf) : String → Option Entry :=
  InstanceStores.beside s.unopened fun key => s.entries.lookup key

/-- `s.unopened key = none` if and only if the key can be read. -/
theorem unopened_eq_none_iff {s : Shelf} {key : String} :
    s.unopened key = none ↔ key ∉ s.unreadable := by
  unfold unopened
  simp

/-- `store.read key` answers with what `contents` says of the key, which may be a failure. -/
theorem runOn_read (s : Shelf) (key : String) :
    (store.read key).runOn s = (Entry.answer (s.contents key), s) := by
  show (if s.unreadable.contains key then Act.failText s!"cannot open key {key}"
    else pure (s.entries.lookup key) : Act Shelf (Option Values)).runOn s = _
  by_cases hkey : key ∈ s.unreadable
  · have hunopened : s.unopened key = some (.error (.ofText s!"cannot open key {key}")) :=
      if_pos (List.contains_iff_mem.2 hkey)
    rw [if_pos (List.contains_iff_mem.2 hkey), contents, InstanceStores.beside_of_some hunopened]
    rfl
  · rw [if_neg (mt List.contains_iff_mem.1 hkey), contents,
      InstanceStores.answer_beside (unopened_eq_none_iff.2 hkey)]
    rfl

/-- `store.read key` of a shelf without unreadable keys is its entry. -/
theorem runOn_read_of_readable {s : Shelf} (h : s.unreadable = []) (key : String) :
    (store.read key).runOn s = (.ok (s.entries.lookup key), s) := by
  have hnone : s.unopened key = none := unopened_eq_none_iff.2 (by simp [h])
  rw [runOn_read, contents, InstanceStores.answer_beside hnone]

/-- `store.write key` of a shelf that is not locked. -/
theorem runOn_write {s : Shelf} (h : s.locked = false) (key : String) (values : Values) :
    (store.write key values).runOn s = (.ok (), s.write key values) := by
  obtain ⟨entries, unreadable, hidden, locked⟩ := s
  subst h
  rfl

/-- `store.delete key` of a shelf that is not locked. -/
theorem runOn_delete {s : Shelf} (h : s.locked = false) (key : String) :
    (store.delete key).runOn s = (.ok (s.entries.lookup key).isSome, s.erase key) := by
  obtain ⟨entries, unreadable, hidden, locked⟩ := s
  subst h
  rfl

/-! ## Sound shelves -/

/-- An entry of `setEntry key values entries` is the new one, or was there. -/
theorem eq_or_mem_of_mem_setEntry {key : String} {values : Values} {entries : List (String × Values)}
    {e : String × Values} (he : e ∈ setEntry key values entries) :
    e = (key, values) ∨ e ∈ entries := by
  induction entries with
  | nil => exact .inl (List.mem_singleton.1 he)
  | cons e' rest ih =>
    obtain ⟨k, v⟩ := e'
    unfold setEntry at he
    split at he
    · exact (List.mem_cons.1 he).imp_right (List.mem_cons_of_mem _)
    · split at he
      · exact List.mem_cons.1 he
      · rcases List.mem_cons.1 he with rfl | he
        · exact .inr List.mem_cons_self
        · exact (ih he).imp_right (List.mem_cons_of_mem _)

/-- `setEntry key` keeps sorted entries sorted. -/
theorem sorted_setEntry {entries : List (String × Values)}
    (h : entries.Pairwise fun a b => a.1 < b.1) (key : String) (values : Values) :
    (setEntry key values entries).Pairwise fun a b => a.1 < b.1 := by
  induction entries with
  | nil => exact List.pairwise_singleton _ _
  | cons e rest ih =>
    obtain ⟨k, v⟩ := e
    obtain ⟨hk, hrest⟩ := List.pairwise_cons.1 h
    unfold setEntry
    by_cases heq : k = key
    · rw [if_pos heq]
      exact List.pairwise_cons.2 ⟨heq ▸ hk, hrest⟩
    · rw [if_neg heq]
      -- the new entry goes in front of the first greater key
      by_cases hlt : key < k
      · rw [if_pos hlt]
        refine List.pairwise_cons.2 ⟨fun e he => ?_, h⟩
        rcases List.mem_cons.1 he with rfl | he
        · exact hlt
        · exact lt_trans hlt (hk e he)
      · rw [if_neg hlt]
        refine List.pairwise_cons.2 ⟨fun e he => ?_, ih hrest⟩
        rcases eq_or_mem_of_mem_setEntry he with rfl | he
        · exact lt_of_le_of_ne (not_lt.1 hlt) heq
        · exact hk e he

/-- A shelf that answers every request. -/
structure Sound (s : Shelf) : Prop where
  unreadable : s.unreadable = []
  hidden : s.hidden = false
  locked : s.locked = false
  sorted : s.entries.Pairwise fun a b => a.1 < b.1

/-- The shelf is sound and has `C` in it. -/
def Has (C : String → Option Values) (s : Shelf) : Prop :=
  s.Sound ∧ (fun key => s.entries.lookup key) = C

/-- `store.keys` answers with the keys of the entries, where these are not hidden. -/
theorem runOn_keys {s : Shelf} (h : s.hidden = false) :
    store.keys.runOn s = (.ok (s.entries.map (·.1)), s) := by
  obtain ⟨entries, unreadable, hidden, locked⟩ := s
  subst h
  rfl

/-- A key is listed if and only if `lookup` finds something under it. -/
theorem mem_keys_iff (s : Shelf) (key : String) :
    key ∈ s.entries.map (·.1) ↔ (s.entries.lookup key).isSome := by
  rw [List.lookup_isSome_iff, List.mem_map]
  simp only [beq_iff_eq]
  exact exists_congr fun e => and_congr_right fun _ => eq_comm

/-- **Sound shelves** are stores that do not fail: `store.Answers Has`. -/
theorem answers : store.Answers Has where
  read C key := by
    rintro s ⟨hs, rfl⟩
    rw [runOn_read_of_readable hs.unreadable]
    exact ⟨rfl, hs, rfl⟩
  write C key values := by
    rintro s ⟨hs, rfl⟩
    rw [runOn_write hs.locked]
    exact ⟨⟨hs.unreadable, hs.hidden, hs.locked, sorted_setEntry hs.sorted _ _⟩,
      lookup_write s key values⟩
  delete C key := by
    rintro s ⟨hs, rfl⟩
    rw [runOn_delete hs.locked]
    exact ⟨⟨hs.unreadable, hs.hidden, hs.locked, hs.sorted.filter _⟩, lookup_erase s key⟩
  keys C := by
    rintro s ⟨hs, rfl⟩
    rw [runOn_keys hs.hidden]
    refine ⟨⟨?_, mem_keys_iff s⟩, hs, rfl⟩
    exact List.Pairwise.map _ (fun _ _ hlt => ne_of_lt hlt) hs.sorted

/-! ## Shelves that refuse -/

/-- The shelf has `C` in it. Some of its keys may be unreadable and it may be locked. -/
def Stocks (C : String → Option Values) (s : Shelf) : Prop :=
  (fun key => s.entries.lookup key) = C

/-- A locked shelf refuses to be written with `Shelf.denied`, and stays. -/
theorem runOn_write_of_locked {s : Shelf} (h : s.locked = true) (key : String) (values : Values) :
    (store.write key values).runOn s = (.error (denied key), s) := by
  obtain ⟨entries, unreadable, hidden, locked⟩ := s
  subst h
  rfl

/-- A locked shelf refuses to delete a key with `Shelf.denied`, and stays. -/
theorem runOn_delete_of_locked {s : Shelf} (h : s.locked = true) (key : String) :
    (store.delete key).runOn s = (.error (denied key), s) := by
  obtain ⟨entries, unreadable, hidden, locked⟩ := s
  subst h
  rfl

/-- **Every shelf** answers a request or refuses it and stays as it is, so `store` is `Atomic`: an
unreadable key refuses to be read, and a locked shelf refuses to be changed. -/
theorem atomic : store.Atomic Stocks where
  read C key := by
    rintro s rfl
    rw [runOn_read]
    cases hunopened : s.unopened key with
    | none =>
      rw [contents, InstanceStores.answer_beside hunopened]
      exact ⟨rfl, rfl⟩
    | some entry =>
      -- what is not opened is a failure, never values
      rw [contents, InstanceStores.beside_of_some hunopened]
      cases entry with
      | error f => exact rfl
      | ok values =>
        unfold unopened at hunopened
        split at hunopened <;> exact absurd hunopened nofun
  write C key values := by
    rintro s rfl
    cases hlocked : s.locked with
    | false =>
      rw [runOn_write hlocked]
      exact lookup_write s key values
    | true =>
      rw [runOn_write_of_locked hlocked]
      exact rfl
  delete C key := by
    rintro s rfl
    cases hlocked : s.locked with
    | false =>
      rw [runOn_delete hlocked]
      exact lookup_erase s key
    | true =>
      rw [runOn_delete_of_locked hlocked]
      exact rfl

/-! ## Open shelves -/

/-- A shelf that is listed and changed. -/
structure Open (s : Shelf) : Prop where
  hidden : s.hidden = false
  locked : s.locked = false
  sorted : s.entries.Pairwise fun a b => a.1 < b.1
  /-- What cannot be read is there. -/
  present : ∀ key ∈ s.unreadable, (s.entries.lookup key).isSome

/-- The shelf is open and has `C` in it. -/
def HasEntries (C : String → Option Entry) (s : Shelf) : Prop :=
  s.Open ∧ s.contents = C

/-- `s.unopened key = none` for a key that can be read or is not there. -/
theorem unopened_eq_none {s : Shelf} {key : String} (h : ∀ f, s.contents key ≠ some (.error f)) :
    s.unopened key = none := by
  unfold unopened
  by_cases hkey : s.unreadable.contains key = true
  · refine absurd (InstanceStores.beside_of_some ?_) (h (.ofText s!"cannot open key {key}"))
    rw [unopened, if_pos hkey]
  · rw [if_neg hkey]

/-- There is something under a key in `contents` if and only if there is an entry, where the
unreadable keys have one. -/
theorem isSome_contents (s : Shelf) (h : ∀ key ∈ s.unreadable, (s.entries.lookup key).isSome)
    (key : String) : (s.contents key).isSome = (s.entries.lookup key).isSome := by
  rw [contents, InstanceStores.beside, Option.isSome_or, Option.isSome_map, Bool.or_eq_right_iff_imp]
  intro hsome
  refine h key ?_
  by_contra hno
  rw [unopened_eq_none_iff.2 hno] at hsome
  exact Bool.false_ne_true hsome

/-- **Open shelves** are stores that answer from their entries: `store.Serves HasEntries`. -/
theorem serves : store.Serves HasEntries where
  read C key := by
    rintro s ⟨hs, rfl⟩
    rw [Act.runOn_attempt, runOn_read]
    exact ⟨rfl, hs, rfl⟩
  write C key values hno := by
    rintro s ⟨hs, rfl⟩
    have hnone := unopened_eq_none hno
    rw [runOn_write hs.locked]
    refine ⟨⟨hs.hidden, hs.locked, sorted_setEntry hs.sorted _ _, fun k hk => ?_⟩, ?_⟩
    · have hne : k ≠ key := fun he => unopened_eq_none_iff.1 hnone (he ▸ hk)
      show ((setEntry _ _ _).lookup k).isSome
      rw [lookup_setEntry_of_ne hne]
      exact hs.present k hk
    · have hvalues : Entry.values (s.contents key) = (s.entries.lookup key).getD [] :=
        InstanceStores.values_beside hnone
      have hbehind : (s.write key values).contents
          = InstanceStores.beside s.unopened fun k => (s.write key values).entries.lookup k := rfl
      rw [hbehind, lookup_write, InstanceStores.beside_update hnone, hvalues]
      rfl
  delete C key hno := by
    rintro s ⟨hs, rfl⟩
    have hnone := unopened_eq_none hno
    rw [runOn_delete hs.locked]
    refine ⟨(isSome_contents s hs.present key).symm,
      ⟨hs.hidden, hs.locked, hs.sorted.filter _, fun k hk => ?_⟩, ?_⟩
    · have hne : k ≠ key := fun he => unopened_eq_none_iff.1 hnone (he ▸ hk)
      show ((s.entries.filter _).lookup k).isSome
      rw [lookup_filter_of_ne hne]
      exact hs.present k hk
    · have hbehind : (s.erase key).contents
          = InstanceStores.beside s.unopened fun k => (s.erase key).entries.lookup k := rfl
      rw [hbehind, lookup_erase, InstanceStores.beside_update hnone]
      rfl
  keys C := by
    rintro s ⟨hs, rfl⟩
    rw [runOn_keys hs.hidden]
    refine ⟨⟨?_, fun key => ?_⟩, hs, rfl⟩
    · exact List.Pairwise.map _ (fun _ _ hlt => ne_of_lt hlt) hs.sorted
    · rw [mem_keys_iff, isSome_contents s hs.present]

end Shelf

/-! ## Stores on a part of a host -/

/-- `(storeOn k part).Answers`: a store that does not fail does not fail as a part of a larger host.
-/
theorem answers_storeOn {σ τ : Type} {k : KeyStore τ} {At : (String → Option Values) → τ → Prop}
    (h : k.Answers At) (part : Part σ τ) (rest : σ → Prop)
    (hget : ∀ t s, part.get (part.put t s) = t) (hrest : ∀ t s, rest s → rest (part.put t s)) :
    (storeOn k part).Answers fun C s => At C (part.get s) ∧ rest s where
  read C key := ((h.read C key).on hget hrest).weaken (fun _ _ hs => ⟨hs.1.1, hs.1.2, hs.2⟩)
    fun _ _ hf => hf.1
  write C key values := ((h.write C key values).on hget hrest).failing fun _ _ hf => hf.1
  delete C key := ((h.delete C key).on hget hrest).failing fun _ _ hf => hf.1
  keys C := ((h.keys C).on hget hrest).weaken (fun _ _ hs => ⟨hs.1.1, hs.1.2, hs.2⟩)
    fun _ _ hf => hf.1

/-- `(storeOn k part).Atomic`: a store that refuses requests as a whole does so as a part of a
larger host. -/
theorem atomic_storeOn {σ τ : Type} {k : KeyStore τ} {At : (String → Option Values) → τ → Prop}
    (h : k.Atomic At) (part : Part σ τ) (rest : σ → Prop)
    (hget : ∀ t s, part.get (part.put t s) = t) (hrest : ∀ t s, rest s → rest (part.put t s)) :
    (storeOn k part).Atomic fun C s => At C (part.get s) ∧ rest s where
  read C key := ((h.read C key).on hget hrest).weaken (fun _ _ hs => ⟨hs.1.1, hs.1.2, hs.2⟩)
    fun _ _ hs => hs
  write C key values := (h.write C key values).on hget hrest
  delete C key := (h.delete C key).on hget hrest

/-- `(storeOn k part).Serves`: a store that answers from its entries does so as a part of a larger
host. -/
theorem serves_storeOn {σ τ : Type} {k : KeyStore τ} {At : (String → Option Entry) → τ → Prop}
    (h : k.Serves At) (part : Part σ τ) (rest : σ → Prop)
    (hget : ∀ t s, part.get (part.put t s) = t) (hrest : ∀ t s, rest s → rest (part.put t s)) :
    (storeOn k part).Serves fun C s => At C (part.get s) ∧ rest s where
  read C key := ((h.read C key).on hget hrest).weaken (fun _ _ hs => ⟨hs.1.1, hs.1.2, hs.2⟩)
    fun _ _ hf => hf.1
  write C key values hno := ((h.write C key values hno).on hget hrest).failing fun _ _ hf => hf.1
  delete C key hno := ((h.delete C key hno).on hget hrest).weaken
    (fun _ _ hs => ⟨hs.1.1, hs.1.2, hs.2⟩) fun _ _ hf => hf.1
  keys C := ((h.keys C).on hget hrest).weaken (fun _ _ hs => ⟨hs.1.1, hs.1.2, hs.2⟩)
    fun _ _ hf => hf.1

end MountKeeper.Rehearsal
