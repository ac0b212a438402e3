import MountKeeper.Proofs.Act
import MountKeeper.SessionManager

/-! # What the books keep about one path

What the records, the mounts and the processes of a platform keep, as far as they are asked about
one path, is kept by all that a mount and an unmount of that path do to them.

* `Bookkeeping.Keeping` and `Teardown.Keeping` are what is asked of the parts.
* `Bookkeeping.Keeping.reconcile`, `Teardown.Keeping.unmountKey` and `SessionManager.keeps_unmount`
  are what follows.
* `Bookkeeping.Finds` is what is found at a path, and `Bookkeeping.Finds.runOn_reconcile` how
  reconciliation goes on from there. -/

namespace MountKeeper

open Act (Ensures Keeps)

variable {σ : Type} {I : σ → Prop} {key : SessionKey}

/-- The records, mounts and processes keep something, whatever they are asked about a path. -/
structure Bookkeeping.Keeping (b : Bookkeeping σ) (key : SessionKey) (I : σ → Prop) : Prop where
  lookup : Keeps I (b.registry.lookup key)
  unregister : Keeps I (b.registry.unregister key)
  list : Keeps I b.mounts.list
  isDisconnected : Keeps I (b.mounts.isDisconnected key)
  isAlive : ∀ pid, Keeps I (b.processes.isAlive pid)
  /-- What a dead session left is unmounted lazily. -/
  unmount : Keeps I (b.unmounter.unmount key.text true)

namespace Bookkeeping.Keeping

variable {b : Bookkeeping σ}

/-- `isMounted` only lists. -/
theorem isMounted (h : b.Keeping key I) : Keeps I (b.mounts.isMounted key) :=
  h.list.bind fun _ => .pure _

/-- `forget` removes a record, and passes over a failure. -/
theorem forget (h : b.Keeping key I) : Keeps I (b.forget key) :=
  h.unregister.attempt.bind fun _ => .pure _

/-- `readableRecord` looks a record up, and forgets one that cannot be read. -/
theorem readableRecord (h : b.Keeping key I) : Keeps I (b.readableRecord key) := by
  refine h.lookup.attempt.bind fun found => ?_
  cases found with
  | ok record => exact .pure _
  | error f => exact h.forget.bind fun _ => .pure _

/-- `isTaken` asks whether a process is alive, or the path disconnected. -/
theorem isTaken (h : b.Keeping key I) (mounted : Bool) (record : Option Session) :
    Keeps I (b.isTaken key mounted record) := by
  cases record with
  | none => exact .ite (h.isDisconnected.bind fun _ => .pure _) (.pure _)
  | some record =>
    obtain ⟨key, config, owner, state⟩ := record
    cases owner with
    | process pid => exact h.isAlive pid
    | service name => exact .pure _

/-- `clearAway` unmounts what is listed and forgets what is recorded, and passes over failures. -/
theorem clearAway (h : b.Keeping key I) (record : Option Session) (mounted : Bool) :
    Keeps I (b.clearAway key record mounted) := by
  have hrest : Keeps I (if record.isSome then b.forget key else pure ()) := .ite h.forget (.pure _)
  exact .ite (h.unmount.attempt.bind fun _ => hrest) hrest

/-- What the parts keep, **reconciliation** keeps. -/
theorem reconcile (h : b.Keeping key I) : Keeps I (b.reconcile key) := by
  refine h.readableRecord.bind fun record => h.isMounted.bind fun mounted => ?_
  refine (h.isTaken mounted record).bind fun taken => .ite (.pure _) ?_
  exact (h.clearAway record mounted).bind fun _ => .pure _

end Bookkeeping.Keeping

/-- What is found at a path: its record, and then whether it is mounted. To look may change the
host. -/
def Bookkeeping.Finds (b : Bookkeeping σ) (key : SessionKey) (record : Option Session)
    (mounted : Bool) (s s' : σ) : Prop :=
  ∃ between, (b.registry.lookup key).runOn s = (.ok record, between) ∧
    (b.mounts.isMounted key).runOn between = (.ok mounted, s')

/-- **Reconciliation** goes by what is found at the path. -/
theorem Bookkeeping.Finds.runOn_reconcile {b : Bookkeeping σ} {record : Option Session}
    {mounted : Bool} {s s' : σ} (h : b.Finds key record mounted s s') :
    (b.reconcile key).runOn s = (b.isTaken key mounted record >>= fun taken =>
      if taken then pure .alreadyMounted
      else b.clearAway key record mounted >>= fun _ => pure .proceed).runOn s' := by
  obtain ⟨between, hlookup, hmounts⟩ := h
  have hrecord : (b.readableRecord key).runOn s = (.ok record, between) := by
    rw [readableRecord, Act.runOn_bind, Act.runOn_attempt, hlookup]
    rfl
  rw [reconcile, Act.runOn_bind, hrecord]
  dsimp only
  rw [Act.runOn_bind, hmounts]

/-- The parts of an unmount keep something, whatever they are asked about a path. Only sessions of
which `F` holds are to be stopped. -/
structure Teardown.Keeping (t : Teardown σ) (key : SessionKey) (lazily : Bool)
    (F : Session → Prop) (I : σ → Prop) : Prop where
  unregister : Keeps I (t.books.registry.unregister key)
  list : Keeps I t.books.mounts.list
  isAlive : ∀ pid, Keeps I (t.books.processes.isAlive pid)
  unmount : Keeps I (t.books.unmounter.unmount key.text lazily)
  stop : ∀ record, F record → Keeps I (t.supervisor.stop record)
  print : ∀ line, Keeps I (t.console.print line)

namespace Teardown.Keeping

variable {t : Teardown σ} {lazily : Bool} {F : Session → Prop}

/-- `detach` unmounts, and passes over a failure to remove the record. -/
theorem detach (h : t.Keeping key lazily F I) : Keeps I (t.detach key lazily) :=
  (h.unmount.inContext _).bind fun _ => h.unregister.attempt.bind fun _ => .pure _

/-- `ownerAlive` only asks. -/
theorem ownerAlive (h : t.Keeping key lazily F I) (record : Session) :
    Keeps I (t.ownerAlive record) := by
  obtain ⟨key, config, owner, state⟩ := record
  cases owner with
  | process pid => exact h.isAlive pid
  | service name => exact .pure _

/-- `stopUnmounted` stops a record with `F`. -/
theorem stopUnmounted (h : t.Keeping key lazily F I) {record : Option Session}
    (hrecord : ∀ r ∈ record, F r) : Keeps I (t.stopUnmounted key record) := by
  cases record with
  | none => exact .fail _
  | some record =>
    refine (h.ownerAlive record).bind fun alive => ?_
    exact .ite ((h.stop record (hrecord record rfl)).inContext _)
      (h.unregister.bind fun _ => .fail _)

/-- What the parts keep once the record of the path is known, an **unmount** of the path keeps. -/
theorem unmountKey (h : t.Keeping key lazily F I) {P : σ → Prop}
    (hlookup : Ensures P (t.books.registry.lookup key) (fun found s => I s ∧ ∀ r ∈ found, F r)
      fun _ => I) (silent : Bool) :
    Ensures P (t.unmountKey key lazily silent) (fun _ => I) fun _ => I := by
  have hfound : Ensures P (Act.attempt (t.books.registry.lookup key))
      (fun found s => (∀ r ∈ found.toOption.getD none, F r) ∧ I s) fun _ => I := by
    -- a record that cannot be read is none
    refine Ensures.attempt (hlookup.weaken (fun found s hs => ?_) fun f s hs => ?_)
    · exact hs.symm
    · exact And.intro (fun r hr => nomatch hr) hs
  have hsay {a : Act σ Unit} (ha : Keeps I a) : Keeps I (a >>= fun _ => if (!silent) = true then
      t.console.print s!"Successfully unmounted {key.text}" else pure ()) :=
    ha.bind fun _ => .ite (h.print _) (.pure _)
  have hmounted : Keeps I (t.books.mounts.isMounted key) := h.list.bind fun _ => .pure _
  refine hfound.bind fun found => Ensures.of_fact fun hrecord => hmounted.bind fun mounted => ?_
  exact .ite (hsay h.detach) (hsay (h.stopUnmounted hrecord))

end Teardown.Keeping

namespace SessionManager

variable {m : SessionManager σ}

/-- What the parts keep, the checks before a mount keep. -/
theorem keeps_validate (h : m.books.Keeping key I) {options : MountOptions}
    (hkey : SessionKey.ofPath options.mountPath = key) : Keeps I (m.validate options) := by
  have hrequest : Keeps I (checkRequest (σ := σ) options) := .ite (.fail _) (.pure _)
  unfold validate
  rw [hkey]
  refine hrequest.bind fun _ => h.isMounted.bind fun mounted => .ite (.pure _) ?_
  exact Keeps.look.bind fun s => Ensures.ofExcept (fun _ _ s hs => hs) fun _ _ s hs => hs

/-- What the parts keep, be it that a mount is taken away or that a session is stopped, an
**unmount** of the path keeps. -/
theorem keeps_unmountKey (h : m.books.Keeping key I) {lazily : Bool}
    (hunmount : Keeps I (m.books.unmounter.unmount key.text lazily))
    (hstop : ∀ record, Keeps I (m.supervisor.stop record))
    (hprint : ∀ line, Keeps I (m.console.print line)) (silent : Bool) :
    Keeps I (m.teardown.unmountKey key lazily silent) := by
  have hkeeping : m.teardown.Keeping key lazily (fun _ => True) I :=
    ⟨h.unregister, h.list, h.isAlive, hunmount, fun record _ => hstop record, hprint⟩
  refine hkeeping.unmountKey ?_ silent
  exact h.lookup.weaken (fun _ _ hs => ⟨hs, fun _ _ => trivial⟩) fun _ _ hs => hs

/-- A typed path is unmounted by its key. -/
theorem unmount_eq {typed : String} (hpath : Teardown.isPattern (m.target typed) = false)
    (lazily : Bool) : m.unmount typed lazily false
      = m.teardown.unmountKey (.ofPath (m.target typed)) lazily false := by
  show m.teardown.unmount (m.target typed) lazily false = _
  unfold Teardown.unmount
  rw [hpath]
  rfl

/-- What the parts keep, an unmount of a typed path keeps, be it for good or not. -/
theorem keeps_unmount (h : m.books.Keeping key I) {lazily : Bool}
    (hunmount : Keeps I (m.books.unmounter.unmount key.text lazily))
    (hstop : ∀ record, Keeps I (m.supervisor.stop record))
    (hprint : ∀ line, Keeps I (m.console.print line))
    (huninstall : Keeps I (m.remount.uninstall key)) {typed : String}
    (hpath : Teardown.isPattern (m.target typed) = false)
    (hkey : SessionKey.ofPath (m.target typed) = key) (forGood : Bool) :
    Keeps I (m.unmount typed lazily forGood) := by
  have htyped : Keeps I (m.unmount typed lazily false) := by
    rw [m.unmount_eq hpath, hkey]
    exact keeps_unmountKey h hunmount hstop hprint false
  have hdisable : Keeps I (m.disableRemount (m.target typed)) := by
    unfold disableRemount
    rw [hkey]
    exact .ite (.fail _) (huninstall.inContext _)
  exact .ite (c := forGood = true) (hdisable.bind fun _ => htyped) htyped

end SessionManager

end MountKeeper
