import MountKeeper.Proofs.Sessions.Run

/-! # Two platforms, operation by operation

What a manager does is put together from what the parts of its platform do. A relation between acts on
two hosts that goes through every way of putting acts together goes from the parts of two platforms to
all that their managers are asked for.

* `Act.Matching` is such a relation.
* `Bookkeeping.Matched`, `Teardown.Matched` and `SessionManager.Matched` ask for it part by part.
* `SessionManager.Matched.request`: then it holds of every request. -/

namespace MountKeeper

/-! ## Relations between acts -/

/-- A relation between acts on two hosts that goes through every way of putting acts together. -/
structure Act.Matching (σ τ : Type) where
  /-- The acts match. -/
  Rel : {α : Type} → Act σ α → Act τ α → Prop
  pure : ∀ {α : Type} (x : α), Rel (Pure.pure x) (Pure.pure x)
  fail : ∀ {α : Type} (f : Failure), Rel (Act.fail f : Act σ α) (Act.fail f)
  bind : ∀ {α β : Type} {a : Act σ α} {b : Act τ α} {k : α → Act σ β} {l : α → Act τ β},
    Rel a b → (∀ x, Rel (k x) (l x)) → Rel (a >>= k) (b >>= l)
  attempt : ∀ {α : Type} {a : Act σ α} {b : Act τ α},
    Rel a b → Rel (Act.attempt a) (Act.attempt b)
  inContext : ∀ {α : Type} {a : Act σ α} {b : Act τ α} (context : String),
    Rel a b → Rel (Act.inContext context a) (Act.inContext context b)

variable {σ τ : Type} {C : Act.Matching σ τ}

namespace Act.Matching

variable {α : Type}

/-- `refuse e` matches `refuse e`: it is a failure like any other. -/
theorem refuse (C : Act.Matching σ τ) (e : SessionError) :
    C.Rel (Act.refuse e : Act σ α) (Act.refuse e) :=
  C.fail _

/-- `if c then a else a'` matches `if c then b else b'` branch by branch. -/
theorem ite (C : Act.Matching σ τ) {c : Prop} [Decidable c] {a a' : Act σ α} {b b' : Act τ α}
    (ht : C.Rel a b) (hf : C.Rel a' b') : C.Rel (if c then a else a') (if c then b else b') := by
  by_cases hc : c
  · rw [if_pos hc, if_pos hc]
    exact ht
  · rw [if_neg hc, if_neg hc]
    exact hf

end Act.Matching

/-! ## Records, mounts and processes -/

/-- The records, mounts and processes of two platforms match. -/
structure Bookkeeping.Matched (C : Act.Matching σ τ) (b : Bookkeeping σ) (b' : Bookkeeping τ) :
    Prop where
  lookup : ∀ key, C.Rel (b.registry.lookup key) (b'.registry.lookup key)
  unregister : ∀ key, C.Rel (b.registry.unregister key) (b'.registry.unregister key)
  list : C.Rel b.mounts.list b'.mounts.list
  isDisconnected : ∀ key, C.Rel (b.mounts.isDisconnected key) (b'.mounts.isDisconnected key)
  unmount : ∀ path lazily,
    C.Rel (b.unmounter.unmount path lazily) (b'.unmounter.unmount path lazily)
  isAlive : ∀ pid, C.Rel (b.processes.isAlive pid) (b'.processes.isAlive pid)

namespace Bookkeeping.Matched

variable {b : Bookkeeping σ} {b' : Bookkeeping τ} (h : b.Matched C b') (key : SessionKey)

include h

/-- `isMounted key` matches: it asks for the list and looks into it. -/
theorem isMounted : C.Rel (b.mounts.isMounted key) (b'.mounts.isMounted key) :=
  C.bind h.list fun _ => C.pure _

/-- `forget key` matches: it drops the record and passes over a failure. -/
theorem forget : C.Rel (b.forget key) (b'.forget key) :=
  C.bind (C.attempt (h.unregister key)) fun _ => C.pure _

/-- `readableRecord key` matches: a record that cannot be read is forgotten on both. -/
theorem readableRecord : C.Rel (b.readableRecord key) (b'.readableRecord key) := by
  refine C.bind (C.attempt (h.lookup key)) fun found => ?_
  cases found with
  | ok record => exact C.pure _
  | error f => exact C.bind (h.forget key) fun _ => C.pure _

/-- `isTaken key mounted record` matches: it asks whether the owner is alive, or whether the mount
is disconnected. -/
theorem isTaken (mounted : Bool) (record : Option Session) :
    C.Rel (b.isTaken key mounted record) (b'.isTaken key mounted record) := by
  cases record with
  | none => exact C.ite (C.bind (h.isDisconnected key) fun _ => C.pure _) (C.pure _)
  | some record =>
    obtain ⟨key, config, owner, state⟩ := record
    cases owner with
    | process pid => exact h.isAlive pid
    | service name => exact C.pure _

/-- `clearAway key record mounted` matches: both unmount lazily and forget the record, in this
order. -/
theorem clearAway (record : Option Session) (mounted : Bool) :
    C.Rel (b.clearAway key record mounted) (b'.clearAway key record mounted) := by
  have hforget : C.Rel (if record.isSome then b.forget key else pure ())
      (if record.isSome then b'.forget key else pure ()) := C.ite (h.forget key) (C.pure _)
  exact C.ite (C.bind (C.attempt (h.unmount key.text true)) fun _ => hforget) hforget

/-- **To reconcile a key matches**, put together from its four steps. -/
theorem reconcile : C.Rel (b.reconcile key) (b'.reconcile key) := by
  refine C.bind (h.readableRecord key) fun record => ?_
  refine C.bind (h.isMounted key) fun mounted => ?_
  refine C.bind (h.isTaken key mounted record) fun taken => ?_
  exact C.ite (C.pure _) (C.bind (h.clearAway key record mounted) fun _ => C.pure _)

end Bookkeeping.Matched

/-! ## Unmounting -/

/-- What it takes to unmount matches. -/
structure Teardown.Matched (C : Act.Matching σ τ) (t : Teardown σ) (t' : Teardown τ) : Prop where
  lookup : ∀ key, C.Rel (t.books.registry.lookup key) (t'.books.registry.lookup key)
  unregister : ∀ key, C.Rel (t.books.registry.unregister key) (t'.books.registry.unregister key)
  list : C.Rel t.books.mounts.list t'.books.mounts.list
  unmount : ∀ path lazily,
    C.Rel (t.books.unmounter.unmount path lazily) (t'.books.unmounter.unmount path lazily)
  isAlive : ∀ pid, C.Rel (t.books.processes.isAlive pid) (t'.books.processes.isAlive pid)
  stop : ∀ session, C.Rel (t.supervisor.stop session) (t'.supervisor.stop session)
  print : ∀ line, C.Rel (t.console.print line) (t'.console.print line)
  patterns_eq : t.patterns = t'.patterns

namespace Teardown.Matched

variable {t : Teardown σ} {t' : Teardown τ} (h : t.Matched C t')

include h

/-- `detach key lazily` matches: both unmount and then forget. -/
theorem detach (key : SessionKey) (lazily : Bool) :
    C.Rel (t.detach key lazily) (t'.detach key lazily) := by
  refine C.bind (C.inContext _ (h.unmount key.text lazily)) fun _ => ?_
  exact C.bind (C.attempt (h.unregister key)) fun _ => C.pure _

/-- `stopUnmounted key record` matches in each of its cases: no record, a live owner, a dead one. -/
theorem stopUnmounted (key : SessionKey) (record : Option Session) :
    C.Rel (t.stopUnmounted key record) (t'.stopUnmounted key record) := by
  cases record with
  | none => exact C.refuse _
  | some record =>
    have halive : C.Rel (t.ownerAlive record) (t'.ownerAlive record) := by
      obtain ⟨key, config, owner, state⟩ := record
      cases owner with
      | process pid => exact h.isAlive pid
      | service name => exact C.pure _
    refine C.bind halive fun alive => ?_
    exact C.ite (C.inContext _ (h.stop record)) (C.bind (h.unregister key) fun _ => C.refuse _)

/-- **To unmount one key matches.** What is said to the user behind it does, too. -/
theorem unmountKey (key : SessionKey) (lazily silent : Bool) :
    C.Rel (t.unmountKey key lazily silent) (t'.unmountKey key lazily silent) := by
  refine C.bind (C.attempt (h.lookup key)) fun record => ?_
  refine C.bind (C.bind h.list fun _ => C.pure _) fun mounted => ?_
  have hsay (a : Act σ Unit) (a' : Act τ Unit) (ha : C.Rel a a') := C.bind ha fun _ =>
    C.ite (c := (!silent) = true) (h.print s!"Successfully unmounted {key.text}") (C.pure ())
  exact C.ite (hsay _ _ (h.detach key lazily)) (hsay _ _ (h.stopUnmounted key _))

/-- To unmount paths one after the other matches, by induction on the paths. -/
theorem unmountEach (lazily silent : Bool) (paths : List String) :
    C.Rel (t.unmountEach lazily silent paths) (t'.unmountEach lazily silent paths) := by
  induction paths with
  | nil => exact C.pure _
  | cons path rest ih =>
    refine C.bind (C.attempt (h.unmountKey _ lazily silent)) fun result => ?_
    refine C.bind ih fun failures => ?_
    cases result with
    | ok _ => exact C.pure _
    | error f => exact C.pure _

omit h in
/-- `outcome total failures` matches itself: it looks at no host. -/
theorem outcome (total : Nat) (failures : List String) :
    C.Rel (Teardown.outcome total failures) (Teardown.outcome total failures) :=
  C.ite (C.pure _) (C.refuse _)

/-- `listed` matches: both ask for the list, in the same context. -/
theorem listed : C.Rel t.listed t'.listed :=
  C.inContext _ h.list

/-- To unmount what a pattern selects matches, since both platforms read patterns alike. -/
theorem unmountMatching (target : String) (lazily silent : Bool) :
    C.Rel (t.unmountMatching target lazily silent) (t'.unmountMatching target lazily silent) := by
  unfold Teardown.unmountMatching
  rw [h.patterns_eq]
  cases t'.patterns target with
  | error reason => exact C.refuse _
  | ok selects =>
    refine C.bind h.listed fun paths => ?_
    have hrest := C.bind (h.unmountEach lazily silent (paths.filter selects))
      fun failures => outcome (paths.filter selects).length failures
    exact C.ite (C.bind (C.refuse _) fun _ => hrest) hrest

/-- To unmount a target matches, be it a path or a pattern. -/
theorem unmountTarget (target : String) (lazily silent : Bool) :
    C.Rel (Teardown.unmount t target lazily silent) (Teardown.unmount t' target lazily silent) :=
  C.ite (h.unmountMatching target lazily silent) (h.unmountKey _ lazily silent)

/-- To unmount everything matches. -/
theorem unmountAll (lazily : Bool) : C.Rel (t.unmountAll lazily) (t'.unmountAll lazily) := by
  refine C.bind h.listed fun paths => C.ite (h.print _) ?_
  refine C.bind (h.unmountEach lazily true paths) fun failures => ?_
  exact C.bind (h.print _) fun _ => outcome _ _

end Teardown.Matched

/-! ## Managers -/

/-- Two platforms match. What is looked up on a host matches as far as it is used. -/
structure SessionManager.Matched (C : Act.Matching σ τ) (m : SessionManager σ)
    (m' : SessionManager τ) : Prop where
  surroundings_eq : m.surroundings = m'.surroundings
  books : m.books.Matched C m'.books
  start : ∀ session options,
    C.Rel (m.supervisor.start session options) (m'.supervisor.start session options)
  stop : ∀ session, C.Rel (m.supervisor.stop session) (m'.supervisor.stop session)
  install : ∀ record, C.Rel (m.remount.install record) (m'.remount.install record)
  uninstall : ∀ key, C.Rel (m.remount.uninstall key) (m'.remount.uninstall key)
  print : ∀ line, C.Rel (m.console.print line) (m'.console.print line)
  checkDirectory : ∀ options,
    C.Rel (Act.look >>= fun s => Act.ofExcept (checkDirectory (m.disk.get s) options))
      (Act.look >>= fun s => Act.ofExcept (checkDirectory (m'.disk.get s) options))
  patterns_eq : m.patterns = m'.patterns
  self : C.Rel (Act.look >>= fun s => pure (m.self s)) (Act.look >>= fun s => pure (m'.self s))

namespace SessionManager.Matched

variable {m : SessionManager σ} {m' : SessionManager τ} (h : m.Matched C m')

include h

/-- The teardowns of managers that match do so. -/
theorem teardown : m.teardown.Matched C m'.teardown where
  lookup := h.books.lookup
  unregister := h.books.unregister
  list := h.books.list
  unmount := h.books.unmount
  isAlive := h.books.isAlive
  stop := h.stop
  print := h.print
  patterns_eq := h.patterns_eq

/-- `validate options` matches: both refuse the same options and look at directories alike. -/
theorem validate (options : MountOptions) : C.Rel (m.validate options) (m'.validate options) := by
  refine C.bind (C.ite (C.refuse _) (C.pure _)) fun _ => ?_
  refine C.bind (h.books.isMounted _) fun mounted => ?_
  exact C.ite (C.pure _) (h.checkDirectory options)

/-- `enableRemount key options` matches: both install the same record. -/
theorem enableRemount (key : SessionKey) (options : MountOptions) :
    C.Rel (m.enableRemount key options) (m'.enableRemount key options) := by
  unfold SessionManager.enableRemount
  cases options.configPath with
  | none => exact C.refuse _
  | some config => exact C.bind (C.inContext _ (h.install _)) fun _ => h.print _

/-- **To mount matches**: what is checked, cleared away, started and installed does so in turn. -/
theorem mount (options : MountOptions) : C.Rel (m.mount options) (m'.mount options) := by
  refine C.bind (h.validate options) fun _ => ?_
  refine C.bind (h.books.reconcile _) fun found => ?_
  cases found with
  | alreadyMounted => exact C.refuse _
  | proceed =>
    let session (pid : UInt32) : Session := {
      key := .ofPath options.mountPath, configPath := options.configPath, owner := .process pid }
    have hstart (pid : UInt32) : C.Rel
        (Act.inContext "failed to mount" (m.supervisor.start (session pid) options) >>= fun started =>
          if goesOn started && wantsRemount options then
            m.enableRemount (.ofPath options.mountPath) options >>= fun _ => pure started
          else pure started)
        (Act.inContext "failed to mount" (m'.supervisor.start (session pid) options) >>= fun started =>
          if goesOn started && wantsRemount options then
            m'.enableRemount (.ofPath options.mountPath) options >>= fun _ => pure started
          else pure started) := by
      refine C.bind (C.inContext _ (h.start _ options)) fun started => ?_
      exact C.ite (C.bind (h.enableRemount _ options) fun _ => C.pure _) (C.pure _)
    -- of the host, only the process of the manager is used
    exact C.bind h.self hstart

/-- `disableRemount target` matches: both refuse patterns, and remove the unit of a path. -/
theorem disableRemount (target : String) :
    C.Rel (m.disableRemount target) (m'.disableRemount target) :=
  C.ite (C.refuse _) (C.inContext _ (h.uninstall _))

/-- **To unmount what was typed matches.** Surroundings are the same, so that it is the same target.
-/
theorem unmountTyped (typed : String) (lazily forGood : Bool) :
    C.Rel (m.unmount typed lazily forGood) (m'.unmount typed lazily forGood) := by
  have htarget : m.target typed = m'.target typed := by
    rw [target, target, h.surroundings_eq]
  have hunmount := h.teardown.unmountTarget (m'.target typed) lazily false
  unfold SessionManager.unmount
  rw [htarget]
  exact C.ite (C.bind (h.disableRemount _) fun _ => hunmount) hunmount

/-- To unmount everything matches, for the managers. -/
theorem unmountAll (lazily : Bool) : C.Rel (m.unmountAll lazily) (m'.unmountAll lazily) :=
  h.teardown.unmountAll lazily

/-- `printAll lines` matches, by induction on the lines. -/
theorem printAll (lines : List String) :
    C.Rel (m.console.printAll lines) (m'.console.printAll lines) := by
  induction lines with
  | nil => exact C.pure _
  | cons line rest ih => exact C.bind (h.print line) fun _ => ih

/-- `listMounts` matches: both list and print the same. -/
theorem listMounts : C.Rel m.listMounts m'.listMounts := by
  refine C.bind h.teardown.listed fun paths => ?_
  exact C.ite (C.bind (h.print _) fun _ => C.pure _) (C.bind (h.printAll paths) fun _ => C.pure _)

/-- **Every request matches** on platforms that match. -/
theorem request (r : SessionRequest) : C.Rel (r.act m) (r.act m') := by
  cases r with
  | mount options => exact C.bind (h.mount options) fun _ => C.pure _
  | unmount typed lazily forGood => exact h.unmountTyped typed lazily forGood
  | unmountAll lazily => exact h.unmountAll lazily

end SessionManager.Matched

end MountKeeper
