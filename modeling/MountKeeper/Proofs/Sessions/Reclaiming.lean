import MountKeeper.Proofs.Sessions.Harmless
import MountKeeper.Proofs.Sessions.LocalSight

/-! # What reconciliation does

Reconciliation drops a record that cannot be read, looks at the mounts, decides whether the path is
held by a live session, and clears away what a dead one has left. Whatever fails on the way, the
decision is about the host as it was in the beginning.

* `Bookkeeping.Seen.runOn_reconcile_of_free` and its like tell a whole run of it, one for each way to
  end, and `Bookkeeping.Seen.dealings_of_free` and its like the calls. `Bookkeeping.Course` lists the
  ways, and `Bookkeeping.Seen.course` says that there is no other.
* `Bookkeeping.Reconciles` is what a mount can rely upon; `Bookkeeping.Seen.reconciles` says that it
  can.
* `Bookkeeping.Undisturbed` says that reconciliation has changed nothing. Where it refuses a path,
  that is so unless there was a record that could not be read: `Bookkeeping.Seen.undisturbed_iff`. -/

namespace MountKeeper

open Observation (OnlyRecord OnlyMounts SameElsewhere)

variable {σ : Type}

namespace Bookkeeping

/-! ## Stages -/

section Stages

variable (b : Bookkeeping σ) (key : SessionKey)

/-- The host when a record was to be dropped, if that was due. -/
def forgotten (due : Bool) (s : σ) : σ :=
  if due then ((b.registry.unregister key).runOn s).2 else s

/-- The call by which a record is dropped, with how it ended. -/
def forgettings (due : Bool) (s : σ) : List Dealing :=
  if due then [(.unregister key, ((b.registry.unregister key).runOn s).1)] else []

/-- The host when a mount was to be taken away, if there was one. -/
def detached (mounted : Bool) (s : σ) : σ :=
  if mounted then ((b.unmounter.unmount key.text true).runOn s).2 else s

/-- The call by which a mount is taken away, with how it ended. -/
def detaches (mounted : Bool) (s : σ) : List Dealing :=
  if mounted then [(.detach key.text true, ((b.unmounter.unmount key.text true).runOn s).1)] else []

/-- `b.forget key` never fails, and leaves `b.forgotten key true s` behind. -/
theorem runOn_forget (s : σ) : (b.forget key).runOn s = (.ok (), b.forgotten key true s) := rfl

/-- `b.clearAway key record mounted` never fails: the mount is taken away first, if there was one,
and then the record is dropped, if there was one. -/
theorem runOn_clearAway (record : Option Session) (mounted : Bool) (s : σ) :
    (b.clearAway key record mounted).runOn s
      = (.ok (), b.forgotten key record.isSome (b.detached key mounted s)) := by
  cases mounted with
  | false =>
    cases record with
    | none => rfl
    | some session => exact b.runOn_forget key s
  | true =>
    cases record with
    | none => rfl
    | some session => exact b.runOn_forget key _

/-! ### The calls of a stage -/

variable (t : Traced σ Dealing)

/-- Written down, the stage leaves the same host behind, with `b.forgettings key due` at the end of
the trace. -/
theorem forgotten_answered (due : Bool) : b.answered.forgotten key due t
    = ⟨b.forgotten key due t.host, t.trace ++ b.forgettings key due t.host⟩ := by
  cases due with
  | false => exact congrArg (Traced.mk t.host) (List.append_nil _).symm
  | true => rfl

/-- Written down, the stage leaves the same host behind, with `b.detaches key mounted` at the end of
the trace. -/
theorem detached_answered (mounted : Bool) : b.answered.detached key mounted t
    = ⟨b.detached key mounted t.host, t.trace ++ b.detaches key mounted t.host⟩ := by
  cases mounted with
  | false => exact congrArg (Traced.mk t.host) (List.append_nil _).symm
  | true => rfl

/-- A call that reconciliation of a key may make. -/
inductive Concerns (key : SessionKey) : ManagerCall → Prop
  | unregister : Concerns key (.unregister key)
  | detach : Concerns key (.detach key.text true)

variable {b key} {s : σ} {d : Dealing}

/-- Every call of `b.forgettings key due s` is `.unregister key`. -/
theorem eq_unregister_of_mem_forgettings {due : Bool} (hd : d ∈ b.forgettings key due s) :
    d.1 = .unregister key := by
  cases due with
  | false => exact absurd hd List.not_mem_nil
  | true => exact congrArg Prod.fst (List.mem_singleton.1 hd)

/-- Every call of `b.detaches key mounted s` is `.detach key.text true`: the mount is taken away by
the text of its key, and lazily. -/
theorem eq_detach_of_mem_detaches {mounted : Bool} (hd : d ∈ b.detaches key mounted s) :
    d.1 = .detach key.text true := by
  cases mounted with
  | false => exact absurd hd List.not_mem_nil
  | true => exact congrArg Prod.fst (List.mem_singleton.1 hd)

/-- `detachings (b.forgettings key due s) = []`: no mount is taken away where a record is
dropped. -/
theorem detachings_forgettings (due : Bool) (s : σ) :
    detachings (b.forgettings key due s) = [] := by
  cases due with
  | false => rfl
  | true => rfl

/-- `detachings (b.detaches key mounted s)` is the one mount of the key, if it is mounted. -/
theorem detachings_detaches (mounted : Bool) (s : σ) :
    detachings (b.detaches key mounted s) = if mounted then [(key.text, true)] else [] := by
  cases mounted with
  | false => rfl
  | true => rfl

end Stages

/-! ### What is seen behind a stage -/

namespace Seen

variable {b : Bookkeeping σ} {v : Observation σ} (h : b.Seen v) {key : SessionKey}
  (hkey : key ∈ v.keys) {s : σ} (hs : v.sound s)

include h hkey hs

/-- `b.forgotten key due s` differs from `s` at most by the record of `key`. -/
theorem onlyRecord_forgotten (due : Bool) : v.OnlyRecord key s (b.forgotten key due s) := by
  cases due with
  | false => exact .refl key hs
  | true => exact h.unregister key hkey s hs

/-- `b.detached key mounted s` differs from `s` at most by the mounts of `key`. -/
theorem onlyMounts_detached (mounted : Bool) : v.OnlyMounts key s (b.detached key mounted s) := by
  cases mounted with
  | false => exact .refl key hs
  | true => exact h.unmount key hkey true s hs

/-- A record that was dropped for good is no more: behind `b.forgotten key due s` there is none, if
one was due to be dropped. -/
theorem record_forgotten {due : Bool} (hworked : ∀ d ∈ b.forgettings key due s, d.2 = .ok ()) :
    (v (b.forgotten key due s)).record key = if due then .ok none else (v s).record key := by
  cases due with
  | false => rfl
  | true => exact h.unregistered key hkey s hs (hworked _ (List.mem_singleton_self _))

/-- A mount that was taken away for good is not mounted behind `b.detached key m s`. -/
theorem mounted_detached {m : Bool} (hm : (v s).mounted key = .ok m)
    (hworked : ∀ d ∈ b.detaches key m s, d.2 = .ok ()) :
    (v (b.detached key m s)).mounted key = .ok false := by
  cases m with
  | false => exact hm
  | true =>
    have hgone := h.unmounted key hkey true s hs (hworked _ (List.mem_singleton_self _))
    obtain ⟨m', hm'⟩ := (h.unmount key hkey true s hs).exists_mounted hm
    cases m' with
    | false => exact hm'
    | true => exact absurd hm' hgone

/-! ## Whole runs -/

/-- `b.readableRecord key` answers `(v s).readable key`, and has dropped the record if it could not
be read. -/
theorem runOn_readableRecord :
    (b.readableRecord key).runOn s
      = (.ok ((v s).readable key), b.forgotten key ((v s).unreadable key) s) := by
  unfold Bookkeeping.readableRecord Sight.readable Sight.unreadable
  rw [Act.runOn_bind, Act.runOn_attempt, h.lookup key hkey s hs]
  cases (v s).record key with
  | ok record => rfl
  | error f => rfl

/-- When a record that cannot be read was dropped, a path is decided upon as it was seen before: the
answer is `(v s).taken key mounted`, not what is seen of the host behind. -/
theorem runOn_isTaken_forgotten (mounted : Bool) :
    (b.isTaken key mounted ((v s).readable key)).runOn (b.forgotten key ((v s).unreadable key) s)
      = (.ok ((v s).taken key mounted), b.forgotten key ((v s).unreadable key) s) := by
  cases hrecord : (v s).record key with
  | ok record =>
    rw [Sight.unreadable_of_ok hrecord]
    exact h.runOn_isTaken hkey mounted hs
  | error f =>
    -- nothing was read, so that only the mount counts, and that was left alone
    have honly := h.onlyRecord_forgotten hkey hs true
    have hlook := h.isDisconnected key hkey _ honly.sound
    rw [honly.disconnected key hkey] at hlook
    unfold Sight.taken
    rw [Sight.unreadable_of_error hrecord, Sight.readable_of_error hrecord]
    cases mounted with
    | false => rfl
    | true =>
      unfold Bookkeeping.isTaken
      rw [if_pos rfl, Act.runOn_bind, hlook]
      rfl

/-- `listing = .error f`: that is the failure; a record that could not be read has been dropped all
the same. -/
theorem runOn_reconcile_of_unlisted {f : Failure} (hlisting : (v s).listing = .error f) :
    (b.reconcile key).runOn s = (.error f, b.forgotten key ((v s).unreadable key) s) := by
  have honly := h.onlyRecord_forgotten hkey hs ((v s).unreadable key)
  rw [Bookkeeping.reconcile, Act.runOn_bind, h.runOn_readableRecord hkey hs]
  dsimp only
  rw [Act.runOn_bind, h.runOn_isMounted key honly.sound, honly.mounted,
    Sight.mounted_eq_error_iff.2 hlisting]

variable {m : Bool} (hm : (v s).mounted key = .ok m)

include hm

/-- Where the mounts can be listed, `(v s).taken key m` decides. -/
theorem runOn_reconcile_of_listed :
    (b.reconcile key).runOn s
      = if (v s).taken key m then (.ok .alreadyMounted, b.forgotten key ((v s).unreadable key) s)
        else (.ok .proceed, b.forgotten key ((v s).readable key).isSome
          (b.detached key m (b.forgotten key ((v s).unreadable key) s))) := by
  -- an unreadable record may be gone by then, which changes neither mounts nor life
  have honly := h.onlyRecord_forgotten hkey hs ((v s).unreadable key)
  rw [Bookkeeping.reconcile, Act.runOn_bind, h.runOn_readableRecord hkey hs]
  dsimp only
  rw [Act.runOn_bind, h.runOn_isMounted key honly.sound, honly.mounted, hm]
  dsimp only
  rw [Act.runOn_bind, h.runOn_isTaken_forgotten hkey hs]
  dsimp only
  cases (v s).taken key m with
  | true => rfl
  | false =>
    simp only [Bool.false_eq_true, if_false]
    rw [Act.runOn_bind, b.runOn_clearAway]
    rfl

/-- `Held key`: the path is refused, and nothing was done but to drop a record that could not be
read. -/
theorem runOn_reconcile_of_held (hheld : (v s).Held key) :
    (b.reconcile key).runOn s
      = (.ok .alreadyMounted, b.forgotten key ((v s).unreadable key) s) := by
  rw [h.runOn_reconcile_of_listed hkey hs hm, if_pos ((Sight.taken_iff hm).2 hheld)]

/-- `¬ Held key`: the path goes through all three stages. A record that cannot be read is dropped,
the mount is taken away, and a record that could be read is dropped. -/
theorem runOn_reconcile_of_free (hfree : ¬ (v s).Held key) :
    (b.reconcile key).runOn s = (.ok .proceed, b.forgotten key ((v s).readable key).isSome
      (b.detached key m (b.forgotten key ((v s).unreadable key) s))) := by
  rw [h.runOn_reconcile_of_listed hkey hs hm, if_neg fun ht => hfree ((Sight.taken_iff hm).1 ht)]

end Seen

/-! ## The calls of a whole run -/

/-- The calls that reconciliation leads to on a host, with how they ended. -/
def dealings (b : Bookkeeping σ) (key : SessionKey) (s : σ) : List Dealing :=
  ((b.answered.reconcile key).runOn ⟨s, []⟩).2.trace

namespace Seen

variable {b : Bookkeeping σ} {v : Observation σ} (h : b.Seen v) {key : SessionKey}
  (hkey : key ∈ v.keys) {s : σ} (hs : v.sound s)

include h hkey hs

/-- `listing = .error f`: only a record was dealt with. -/
theorem dealings_of_unlisted {f : Failure} (hlisting : (v s).listing = .error f) :
    b.dealings key s = b.forgettings key ((v s).unreadable key) s := by
  unfold dealings
  rw [h.answered.runOn_reconcile_of_unlisted (s := ⟨s, []⟩) hkey hs hlisting, forgotten_answered]
  rfl

variable {m : Bool} (hm : (v s).mounted key = .ok m)

include hm

/-- `Held key`: only a record was dealt with. -/
theorem dealings_of_held (hheld : (v s).Held key) :
    b.dealings key s = b.forgettings key ((v s).unreadable key) s := by
  unfold dealings
  rw [h.answered.runOn_reconcile_of_held (s := ⟨s, []⟩) hkey hs hm hheld, forgotten_answered]
  rfl

/-- `¬ Held key`: the calls are those of the three stages, in order. -/
theorem dealings_of_free (hfree : ¬ (v s).Held key) :
    b.dealings key s = b.forgettings key ((v s).unreadable key) s
      ++ b.detaches key m (b.forgotten key ((v s).unreadable key) s)
      ++ b.forgettings key ((v s).readable key).isSome
        (b.detached key m (b.forgotten key ((v s).unreadable key) s)) := by
  unfold dealings
  rw [h.answered.runOn_reconcile_of_free (s := ⟨s, []⟩) hkey hs hm hfree, forgotten_answered,
    detached_answered, forgotten_answered]
  rfl

/-- `¬ Held key`, and the records could be dropped that had to be: `record key = .ok none` behind
it. -/
theorem record_of_free (hfree : ¬ (v s).Held key)
    (hworked : ∀ d ∈ b.dealings key s, d.1 = .unregister key → d.2 = .ok ()) :
    (v ((b.reconcile key).runOn s).2).record key = .ok none := by
  have hdealings := h.dealings_of_free hkey hs hm hfree
  have hopened : ∀ d ∈ b.forgettings key ((v s).unreadable key) s, d.2 = .ok () := by
    intro d hd
    refine hworked d ?_ (eq_unregister_of_mem_forgettings hd)
    rw [hdealings]
    exact List.mem_append_left _ (List.mem_append_left _ hd)
  have hcleared : ∀ d ∈ b.forgettings key ((v s).readable key).isSome
      (b.detached key m (b.forgotten key ((v s).unreadable key) s)), d.2 = .ok () := by
    intro d hd
    refine hworked d ?_ (eq_unregister_of_mem_forgettings hd)
    rw [hdealings]
    exact List.mem_append_right _ hd
  have hfirst := h.onlyRecord_forgotten hkey hs ((v s).unreadable key)
  have hsecond := h.onlyMounts_detached hkey hfirst.sound m
  rw [h.runOn_reconcile_of_free hkey hs hm hfree]
  dsimp only
  rw [h.record_forgotten hkey hsecond.sound hcleared, hsecond.records key hkey,
    h.record_forgotten hkey hs hopened]
  -- a record that could not be read was dropped first, one that could be was dropped last
  cases hrecord : (v s).record key with
  | error f => simp [Sight.readable_of_error hrecord, Sight.unreadable_of_error hrecord]
  | ok record =>
    rw [Sight.readable_of_ok hrecord, Sight.unreadable_of_ok hrecord]
    cases record with
    | none => rfl
    | some session => rfl

/-- `¬ Held key`, and every call worked: `mounted key = .ok false` behind it. -/
theorem mounted_of_free (hfree : ¬ (v s).Held key) (hworked : ∀ d ∈ b.dealings key s, d.2 = .ok ()) :
    (v ((b.reconcile key).runOn s).2).mounted key = .ok false := by
  have hfirst := h.onlyRecord_forgotten hkey hs ((v s).unreadable key)
  have hsecond := h.onlyMounts_detached hkey hfirst.sound m
  have hdetached : ∀ d ∈ b.detaches key m (b.forgotten key ((v s).unreadable key) s),
      d.2 = .ok () := by
    intro d hd
    refine hworked d ?_
    rw [h.dealings_of_free hkey hs hm hfree]
    exact List.mem_append_left _ (List.mem_append_right _ hd)
  rw [h.runOn_reconcile_of_free hkey hs hm hfree]
  dsimp only
  rw [(h.onlyRecord_forgotten hkey hsecond.sound _).mounted]
  exact h.mounted_detached hkey hfirst.sound (hfirst.mounted.trans hm) hdetached

end Seen

/-- **How reconciliation goes**: it cannot see the mounts, or the path is held, or it is free. -/
inductive Course (b : Bookkeeping σ) (v : Observation σ) (key : SessionKey) (s : σ) : Prop
  | unlisted {f : Failure} (listing : (v s).listing = .error f)
      (run : (b.reconcile key).runOn s = (.error f, b.forgotten key ((v s).unreadable key) s))
      (calls : b.dealings key s = b.forgettings key ((v s).unreadable key) s)
  | held {m : Bool} (mounted : (v s).mounted key = .ok m) (held : (v s).Held key)
      (run : (b.reconcile key).runOn s
        = (.ok .alreadyMounted, b.forgotten key ((v s).unreadable key) s))
      (calls : b.dealings key s = b.forgettings key ((v s).unreadable key) s)
  | free {m : Bool} (mounted : (v s).mounted key = .ok m) (free : ¬ (v s).Held key)
      (run : (b.reconcile key).runOn s = (.ok .proceed,
        b.forgotten key ((v s).readable key).isSome
          (b.detached key m (b.forgotten key ((v s).unreadable key) s))))
      (calls : b.dealings key s = b.forgettings key ((v s).unreadable key) s
        ++ b.detaches key m (b.forgotten key ((v s).unreadable key) s)
        ++ b.forgettings key ((v s).readable key).isSome
          (b.detached key m (b.forgotten key ((v s).unreadable key) s)))

/-- There is no other way for `reconcile` to go: `b.Course v key s`. -/
theorem Seen.course {b : Bookkeeping σ} {v : Observation σ} (h : b.Seen v) {key : SessionKey}
    (hkey : key ∈ v.keys) {s : σ} (hs : v.sound s) : b.Course v key s := by
  cases hlisting : (v s).listing with
  | error f =>
    exact .unlisted hlisting (h.runOn_reconcile_of_unlisted hkey hs hlisting)
      (h.dealings_of_unlisted hkey hs hlisting)
  | ok paths =>
    obtain ⟨m, hm⟩ := Sight.exists_mounted key hlisting
    by_cases hheld : (v s).Held key
    · exact .held hm hheld (h.runOn_reconcile_of_held hkey hs hm hheld)
        (h.dealings_of_held hkey hs hm hheld)
    · exact .free hm hheld (h.runOn_reconcile_of_free hkey hs hm hheld)
        (h.dealings_of_free hkey hs hm hheld)

/-! ## What a mount can rely upon -/

/-- What reconciliation answers on a host, by what is seen of it, and what it does. -/
structure Reconciles (b : Bookkeeping σ) (v : Observation σ) (key : SessionKey) (s : σ) : Prop where
  /-- It fails when the mounts cannot be listed, and in no other way. -/
  fails : ∀ f, ((b.reconcile key).runOn s).1 = .error f ↔ (v s).listing = .error f
  /-- A path is refused when a live session has it. -/
  refuses : ∀ paths, (v s).listing = .ok paths →
    (((b.reconcile key).runOn s).1 = .ok .alreadyMounted ↔ (v s).Held key)
  /-- It is free otherwise, whatever fails while it is cleared. -/
  proceeds : ∀ paths, (v s).listing = .ok paths →
    (((b.reconcile key).runOn s).1 = .ok .proceed ↔ ¬ (v s).Held key)
  /-- What was mounted at a free path is taken away once, lazily, and nothing else is. -/
  detaches : ((b.reconcile key).runOn s).1 = .ok .proceed →
    detachings (b.dealings key s) = if (v s).mounted key = .ok true then [(key.text, true)] else []
  /-- A free path has no record afterwards, if records could be dropped. -/
  forgets : ((b.reconcile key).runOn s).1 = .ok .proceed →
    (∀ d ∈ b.dealings key s, d.1 = .unregister key → d.2 = .ok ()) →
    (v ((b.reconcile key).runOn s).2).record key = .ok none
  /-- Every call is about the path. -/
  concerns : ∀ d ∈ b.dealings key s, Concerns key d.1
  /-- The records and the mounts of other keys stay. -/
  elsewhere : v.SameElsewhere key s ((b.reconcile key).runOn s).2
  /-- When all that was called for worked, the path is free and there is nothing left to do. -/
  settles : ((b.reconcile key).runOn s).1 = .ok .proceed →
    (∀ d ∈ b.dealings key s, d.2 = .ok ()) →
    (b.reconcile key).runOn ((b.reconcile key).runOn s).2
        = (.ok .proceed, ((b.reconcile key).runOn s).2) ∧
      b.dealings key ((b.reconcile key).runOn s).2 = []

namespace Seen

variable {b : Bookkeeping σ} {v : Observation σ} (h : b.Seen v) {key : SessionKey}
  (hkey : key ∈ v.keys) {s : σ} (hs : v.sound s)

include h hkey hs

/-- When the mounts could be listed, how it ended tells whether the path is held: it is where the
answer is `.alreadyMounted`, and it is not where the answer is `.proceed`. -/
theorem held_iff {m : Bool} (hm : (v s).mounted key = .ok m) :
    (((b.reconcile key).runOn s).1 = .ok .alreadyMounted ↔ (v s).Held key) ∧
      (((b.reconcile key).runOn s).1 = .ok .proceed ↔ ¬ (v s).Held key) := by
  by_cases hheld : (v s).Held key
  · rw [h.runOn_reconcile_of_held hkey hs hm hheld]
    simp [hheld]
  · rw [h.runOn_reconcile_of_free hkey hs hm hheld]
    simp [hheld]

/-- `reconcile` answers `.proceed` only for a path that was not `Held`, whose mounts could be
listed. -/
theorem free_of_proceed (hproceed : ((b.reconcile key).runOn s).1 = .ok .proceed) :
    ∃ m, (v s).mounted key = .ok m ∧ ¬ (v s).Held key := by
  cases h.course hkey hs with
  | unlisted _ hrun => exact absurd ((congrArg Prod.fst hrun).symm.trans hproceed) nofun
  | held _ _ hrun => exact absurd ((congrArg Prod.fst hrun).symm.trans hproceed) (by simp)
  | free hm hfree => exact ⟨_, hm, hfree⟩

/-- It fails with `f` exactly when `(v s).listing = .error f`. -/
theorem fails_iff (f : Failure) :
    ((b.reconcile key).runOn s).1 = .error f ↔ (v s).listing = .error f := by
  constructor
  · intro herror
    cases h.course hkey hs with
    | unlisted hlisting hrun =>
      rw [hlisting, Except.error.inj ((congrArg Prod.fst hrun).symm.trans herror)]
    | held _ _ hrun => exact absurd ((congrArg Prod.fst hrun).symm.trans herror) nofun
    | free _ _ hrun => exact absurd ((congrArg Prod.fst hrun).symm.trans herror) nofun
  · intro hlisting
    rw [h.runOn_reconcile_of_unlisted hkey hs hlisting]

/-- `SameElsewhere key` holds behind `reconcile key`, however it ended. -/
theorem sameElsewhere_reconcile : v.SameElsewhere key s ((b.reconcile key).runOn s).2 :=
  Act.Ensures.final (h.keeping hkey s).reconcile (.refl key hs)

/-- Every call of `dealings key` is about the path, whichever way it goes. -/
theorem concerns_of_mem_dealings {d : Dealing} (hd : d ∈ b.dealings key s) :
    Concerns key d.1 := by
  have hforgetting {due : Bool} {s' : σ} (hd : d ∈ b.forgettings key due s') :
      Concerns key d.1 :=
    eq_unregister_of_mem_forgettings hd ▸ .unregister
  cases h.course hkey hs with
  | unlisted _ _ hcalls => exact hforgetting (hcalls ▸ hd)
  | held _ _ _ hcalls => exact hforgetting (hcalls ▸ hd)
  | free _ _ _ hcalls =>
    rw [hcalls, List.mem_append, List.mem_append] at hd
    obtain (hd | hd) | hd := hd
    · exact hforgetting hd
    · exact eq_detach_of_mem_detaches hd ▸ .detach
    · exact hforgetting hd

/-- At a path with no record and no mount there is nothing to do: `b.reconcile key` lets the mount
proceed, leaves the host as it is, and calls for nothing. -/
theorem reconcile_of_blank (hrecord : (v s).record key = .ok none)
    (hmounted : (v s).mounted key = .ok false) :
    (b.reconcile key).runOn s = (.ok .proceed, s) ∧ b.dealings key s = [] := by
  have hreadable := Sight.readable_of_ok hrecord
  have hunreadable := Sight.unreadable_of_ok hrecord
  have hfree : ¬ (v s).Held key := by
    rw [← Sight.taken_iff hmounted, Sight.taken, hreadable]
    simp
  constructor
  · rw [h.runOn_reconcile_of_free hkey hs hmounted hfree, hreadable, hunreadable]
    rfl
  · rw [h.dealings_of_free hkey hs hmounted hfree, hreadable, hunreadable]
    rfl

/-- **Reconciliation** does what a mount relies upon, for every key of `v.keys` and on every sound
host. -/
theorem reconciles : b.Reconciles v key s where
  fails := h.fails_iff hkey hs
  refuses paths hlisting := by
    obtain ⟨m, hm⟩ := Sight.exists_mounted key hlisting
    exact (h.held_iff hkey hs hm).1
  proceeds paths hlisting := by
    obtain ⟨m, hm⟩ := Sight.exists_mounted key hlisting
    exact (h.held_iff hkey hs hm).2
  detaches hproceed := by
    obtain ⟨m, hm, hfree⟩ := h.free_of_proceed hkey hs hproceed
    rw [h.dealings_of_free hkey hs hm hfree, detachings_append, detachings_append,
      detachings_forgettings, detachings_detaches, detachings_forgettings, hm]
    simp
  forgets hproceed hworked := by
    obtain ⟨m, hm, hfree⟩ := h.free_of_proceed hkey hs hproceed
    exact h.record_of_free hkey hs hm hfree hworked
  concerns d hd := h.concerns_of_mem_dealings hkey hs hd
  elsewhere := h.sameElsewhere_reconcile hkey hs
  -- behind it there is neither record nor mount, so a second run finds nothing to do
  settles hproceed hworked := by
    obtain ⟨m, hm, hfree⟩ := h.free_of_proceed hkey hs hproceed
    have hrecord := h.record_of_free hkey hs hm hfree fun d hd _ => hworked d hd
    have hbehind := (h.sameElsewhere_reconcile hkey hs).sound
    exact h.reconcile_of_blank hkey hbehind hrecord (h.mounted_of_free hkey hs hm hfree hworked)

end Seen

end Bookkeeping

/-- A host with a disconnected mount whose record cannot be read. -/
def PatchyHost.garbled : PatchyHost where
  sight := {
    record := fun key =>
      if key = .ofPath "/mnt/a" then .error (.ofText "cannot read record") else .ok none
    listing := .ok ["/mnt/a", "/mnt/b"]
    alive := fun _ => false
    disconnected := fun key => key == .ofPath "/mnt/a" }

/-- No record is found on `garbled`, so that every record found is of its key. -/
theorem PatchyHost.sound_garbled : observation.sound garbled := by
  intro key session hfound
  change (if key = .ofPath "/mnt/a" then _ else _) = _ at hfound
  split at hfound
  · exact absurd hfound nofun
  · exact absurd (Except.ok.inj hfound) nofun

open Rehearsal PatchyHost in
/-- On `garbled`, a host with faults, a record that cannot be read is dropped first and the mount
taken away behind it. On `deserted`, a local platform, the mount of a dead process is taken away
first and its PID file removed behind it. The other mount stays on both. -/
theorem Bookkeeping.reconciles_garbled_deserted :
    (books.Seen observation ∧ .ofPath "/mnt/a" ∈ observation.keys ∧ observation.sound garbled ∧
      books.Reconciles observation (.ofPath "/mnt/a") garbled ∧
      ((books.reconcile (.ofPath "/mnt/a")).runOn garbled).1 = .ok .proceed ∧
      books.dealings (.ofPath "/mnt/a") garbled
        = [(.unregister (.ofPath "/mnt/a"), .ok ()), (.detach "/mnt/a" true, .ok ())] ∧
      ((books.reconcile (.ofPath "/mnt/a")).runOn garbled).2.sight.listing = .ok ["/mnt/b"]) ∧
    (Host.directoryManager.books.Seen (Host.localObservation (.under "/") Host.desertedKeys) ∧
      Host.directoryManager.books.Reconciles
        (Host.localObservation (.under "/") Host.desertedKeys) (.ofPath "/mnt/a") Host.deserted ∧
      ((Host.directoryManager.books.reconcile (.ofPath "/mnt/a")).runOn Host.deserted).1
        = .ok .proceed ∧
      Host.directoryManager.books.dealings (.ofPath "/mnt/a") Host.deserted
        = [(.detach "/mnt/a" true, .ok ()), (.unregister (.ofPath "/mnt/a"), .ok ())]) := by
  have hlocal := Host.seen_localBooks Host.emptyDirectory.surroundings (.under "/") false
    Host.injOn_desertedKeys
  have hkey : SessionKey.ofPath "/mnt/a" ∈ Host.desertedKeys := .inl rfl
  refine ⟨⟨seen_books, Set.mem_univ _, sound_garbled,
    seen_books.reconciles (Set.mem_univ _) sound_garbled, by decide, by decide, by decide⟩,
    hlocal, hlocal.reconciles hkey Host.sound_deserted, ?_, ?_⟩
  · decide +kernel
  · decide +kernel

namespace Bookkeeping

/-! ## Refused paths -/

/-- Reconciliation has changed no record and no mount, and has asked for no mount to be taken
away. -/
structure Undisturbed (b : Bookkeeping σ) (v : Observation σ) (key : SessionKey) (s : σ) :
    Prop where
  records : ∀ other ∈ v.keys, (v ((b.reconcile key).runOn s).2).record other = (v s).record other
  listing : (v ((b.reconcile key).runOn s).2).listing = (v s).listing
  attached : detachings (b.dealings key s) = []

namespace Seen

variable {b : Bookkeeping σ} {v : Observation σ} (h : b.Seen v) {key : SessionKey}
  (hkey : key ∈ v.keys) {s : σ} (hs : v.sound s)

include h hkey hs

/-- Where the answer is not `.proceed`, a record that cannot be read was dropped, and nothing else
done. -/
theorem eq_of_refused (hrefused : ((b.reconcile key).runOn s).1 ≠ .ok .proceed) :
    ((b.reconcile key).runOn s).2 = b.forgotten key ((v s).unreadable key) s ∧
      b.dealings key s = b.forgettings key ((v s).unreadable key) s := by
  cases h.course hkey hs with
  | unlisted _ hrun hcalls => exact ⟨congrArg Prod.snd hrun, hcalls⟩
  | held _ _ hrun hcalls => exact ⟨congrArg Prod.snd hrun, hcalls⟩
  | free _ _ hrun => exact absurd (congrArg Prod.fst hrun) hrefused

/-- **A refusal leaves everything as it was** unless the path has a record that cannot be read and
could be dropped: `Undisturbed` if and only if an unreadable record is as unreadable behind
`unregister`. -/
theorem undisturbed_iff (hrefused : ((b.reconcile key).runOn s).1 ≠ .ok .proceed) :
    b.Undisturbed v key s ↔ ∀ f, (v s).record key = .error f →
      (v ((b.registry.unregister key).runOn s).2).record key = .error f := by
  obtain ⟨hbehind, hdealings⟩ := h.eq_of_refused hkey hs hrefused
  constructor
  · -- an unreadable record was to be dropped, and is as unreadable as before
    intro hundisturbed f hrecord
    have hrecords := hundisturbed.records key hkey
    rwa [hbehind, Sight.unreadable_of_error hrecord, hrecord] at hrecords
  · -- only the record of the key can have changed, and only if it was unreadable
    intro hleft
    have honly := h.onlyRecord_forgotten hkey hs ((v s).unreadable key)
    rw [← hbehind] at honly
    refine ⟨fun other hother => ?_, honly.listing, ?_⟩
    · by_cases hsame : other = key
      · rw [hsame, hbehind]
        cases hrecord : (v s).record key with
        | error f =>
          rw [Sight.unreadable_of_error hrecord]
          exact hleft f hrecord
        | ok record =>
          rw [Sight.unreadable_of_ok hrecord]
          exact hrecord
      · exact honly.records other hother hsame
    · rw [hdealings, detachings_forgettings]

end Seen

end Bookkeeping

/-- A host with a mount whose record can neither be read nor be removed. -/
def PatchyHost.stuck : PatchyHost :=
  { garbled with
    sight := { garbled.sight with disconnected := fun _ => false }
    fixed := [.ofPath "/mnt/a"] }

/-- On `stuck` the record stays although it was to be dropped, so the refusal leaves everything as
it was. -/
theorem PatchyHost.undisturbed_stuck :
    books.Seen observation ∧ .ofPath "/mnt/a" ∈ observation.keys ∧ observation.sound stuck ∧
    ((books.reconcile (.ofPath "/mnt/a")).runOn stuck).1 ≠ .ok .proceed ∧
    books.Undisturbed observation (.ofPath "/mnt/a") stuck := by
  have hsound : observation.sound stuck := sound_garbled
  have hrefused : ((books.reconcile (.ofPath "/mnt/a")).runOn stuck).1 ≠ .ok .proceed := by decide
  refine ⟨seen_books, Set.mem_univ _, hsound, hrefused,
    (seen_books.undisturbed_iff (Set.mem_univ _) hsound hrefused).2 fun f hrecord => ?_⟩
  have hfixed : .ofPath "/mnt/a" ∈ stuck.fixed := List.mem_singleton_self _
  show ((unregister (.ofPath "/mnt/a")).runOn stuck).2.sight.record _ = _
  rw [runOn_unregister_of_fixed hfixed]
  exact hrecord

namespace Rehearsal.Host

/-- A host where a path is mounted and its PID file says something else. -/
def garbledRecord : Host where
  surroundings := ⟨"/home/u", "/"⟩
  disk := { nodes := [(["work"], .directory), (["work", "_mnt_a.pid"], .file "cloudfuse\n".toUTF8),
    (["mtab"], .file "cloudfuse /mnt/a fuse rw 0 0\n".toUTF8)] }

/-- On `garbledRecord` the path is refused, and its PID file is gone. -/
theorem disturbed_garbledRecord :
    ((directoryManager.books.reconcile (.ofPath "/mnt/a")).runOn garbledRecord).1
      = .ok .alreadyMounted ∧
    garbledRecord.disk.readText "/work/_mnt_a.pid" = .ok "cloudfuse\n" ∧
    ((directoryManager.books.reconcile (.ofPath "/mnt/a")).runOn garbledRecord).2.disk.pathExists
      "/work/_mnt_a.pid" = false := by
  refine ⟨?_, ?_, ?_⟩
  · decide +kernel
  · decide +kernel
  · decide +kernel

end Rehearsal.Host

end MountKeeper
