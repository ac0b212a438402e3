import MountKeeper.Proofs.Sessions.Books
import MountKeeper.Proofs.Sessions.Matching
import MountKeeper.Proofs.Traced

/-! # What a manager asks of its platform

A manager that is watched writes down each call that may change something on its platform, before
the call is made. What it does to the host is what the manager does.

* `ManagerCall` are these calls, and `SessionManager.watched` is the watched manager.
* `SessionRequest.follows`: a watched manager follows the manager in all that it is asked for.
* `SessionManager.calls` are the calls that a request leads to on a host. -/

namespace MountKeeper

open Act (Follows Shadows)

variable {σ : Type}

/-- A call that may change something on a platform. -/
inductive ManagerCall where
  | register (session : Session)
  | unregister (key : SessionKey)
  /-- Takes a mount away, lazily or not. -/
  | detach (path : String) (lazily : Bool)
  | start (session : Session)
  | stop (session : Session)
  | install (record : RemountRecord)
  | uninstall (key : SessionKey)
  deriving DecidableEq, Repr

/-! ## Watched parts -/

/-- The records, mounts and processes of a platform, with a trace of the calls. -/
def Bookkeeping.watched (b : Bookkeeping σ) : Bookkeeping (Traced σ ManagerCall) where
  registry := {
    register := fun session => (b.registry.register session).seen (.register session)
    lookup := fun key => (b.registry.lookup key).unseen
    unregister := fun key => (b.registry.unregister key).seen (.unregister key)
    listAll := b.registry.listAll.unseen }
  mounts := {
    list := b.mounts.list.unseen
    isDisconnected := fun key => (b.mounts.isDisconnected key).unseen }
  unmounter := {
    unmount := fun path lazily => (b.unmounter.unmount path lazily).seen (.detach path lazily) }
  processes := {
    isAlive := fun pid => (b.processes.isAlive pid).unseen
    childrenOf := fun pid => (b.processes.childrenOf pid).unseen
    pidsNamed := fun name => (b.processes.pidsNamed name).unseen
    terminate := fun pid => (b.processes.terminate pid).unseen
    kill := fun pid => (b.processes.kill pid).unseen }

/-- The manager with a trace of its calls. -/
def SessionManager.watched (m : SessionManager σ) : SessionManager (Traced σ ManagerCall) where
  surroundings := m.surroundings
  books := m.books.watched
  supervisor := {
    start := fun session options => (m.supervisor.start session options).seen (.start session)
    stop := fun session => (m.supervisor.stop session).seen (.stop session) }
  remount := {
    install := fun record => (m.remount.install record).seen (.install record)
    uninstall := fun key => (m.remount.uninstall key).seen (.uninstall key) }
  console := ⟨fun line => (m.console.print line).unseen⟩
  disk := ⟨fun t => m.disk.get t.host, fun d t => { t with host := m.disk.put d t.host }⟩
  patterns := m.patterns
  self t := m.self t.host

/-! ## Following -/

/-- **Following goes through every way of putting acts together.** -/
def Act.Follows.matching (σ ε : Type) : Act.Matching (Traced σ ε) σ where
  Rel := Follows
  pure := Follows.pure
  fail := Follows.fail
  bind := Follows.bind
  attempt := Follows.attempt
  inContext := Follows.inContext

section Books

variable (b : Bookkeeping σ) (key : SessionKey)

/-- The records, mounts and processes of a watched platform follow those of the platform. -/
theorem Bookkeeping.matched_watched : b.watched.Matched (Follows.matching σ ManagerCall) b where
  lookup _ := .unseen _
  unregister _ := .seen _ _
  list := .unseen _
  isDisconnected _ := .unseen _
  unmount _ _ := .seen _ _
  isAlive _ := .unseen _

/-- `b.watched.reconcile` follows `b.reconcile`: the trace is kept beside the host. -/
theorem follows_reconcile : Follows (b.watched.reconcile key) (b.reconcile key) :=
  b.matched_watched.reconcile key

/-- To look at the mounts leaves no trace. -/
theorem runOn_isMounted_watched (t : Traced σ ManagerCall) :
    (b.watched.mounts.isMounted key).runOn t
      = (((b.mounts.isMounted key).runOn t.host).1,
        ⟨((b.mounts.isMounted key).runOn t.host).2, t.trace⟩) := by
  have hquiet : Shadows (ε := ManagerCall) (b.watched.mounts.isMounted key)
      (b.mounts.isMounted key) fun _ => [] := (Shadows.unseen _).bind_quiet fun _ => .pure _
  rw [hquiet, List.append_nil]

variable {b key}

/-- What is found at a path is found without a trace. -/
theorem Bookkeeping.Finds.watched {record : Option Session} {mounted : Bool} {s s' : σ}
    (h : b.Finds key record mounted s s') (T : List ManagerCall) :
    b.watched.Finds key record mounted ⟨s, T⟩ ⟨s', T⟩ := by
  obtain ⟨between, hlookup, hmounts⟩ := h
  refine ⟨⟨between, T⟩, ?_, ?_⟩
  · show (b.registry.lookup key).unseen.runOn ⟨s, T⟩ = _
    rw [Act.runOn_unseen, hlookup]
  · rw [runOn_isMounted_watched, hmounts]

end Books

/-! ### Unmounting -/

/-- What it takes to unmount is followed by another: that does on a traced host, part by part, what
this does on a host. -/
structure Teardown.FollowedBy {ε : Type} (t : Teardown σ) (t' : Teardown (Traced σ ε)) : Prop where
  lookup : ∀ key, Follows (t'.books.registry.lookup key) (t.books.registry.lookup key)
  unregister : ∀ key, Follows (t'.books.registry.unregister key) (t.books.registry.unregister key)
  list : Follows t'.books.mounts.list t.books.mounts.list
  unmount : ∀ path lazily,
    Follows (t'.books.unmounter.unmount path lazily) (t.books.unmounter.unmount path lazily)
  isAlive : ∀ pid, Follows (t'.books.processes.isAlive pid) (t.books.processes.isAlive pid)
  stop : ∀ session, Follows (t'.supervisor.stop session) (t.supervisor.stop session)
  print : ∀ line, Follows (t'.console.print line) (t.console.print line)
  patterns_eq : t'.patterns = t.patterns

namespace Teardown.FollowedBy

variable {ε : Type} {t : Teardown σ} {t' : Teardown (Traced σ ε)} (h : t.FollowedBy t')

include h

/-- The relation `Follows` is a matching of the parts of `t'` with those of `t`, so what is shown of
matched teardowns is shown of `t'`. -/
theorem matched : t'.Matched (Follows.matching σ ε) t where
  lookup := h.lookup
  unregister := h.unregister
  list := h.list
  unmount := h.unmount
  isAlive := h.isAlive
  stop := h.stop
  print := h.print
  patterns_eq := h.patterns_eq

/-- `unmountKey` follows. -/
theorem unmountKey (key : SessionKey) (lazily silent : Bool) :
    Follows (t'.unmountKey key lazily silent) (t.unmountKey key lazily silent) :=
  h.matched.unmountKey key lazily silent

/-- `unmountEach` follows, path by path. -/
theorem unmountEach (lazily silent : Bool) (paths : List String) :
    Follows (t'.unmountEach lazily silent paths) (t.unmountEach lazily silent paths) :=
  h.matched.unmountEach lazily silent paths

omit h in
/-- `outcome` touches no host. -/
theorem outcome (total : Nat) (failures : List String) :
    Follows (ε := ε) (Teardown.outcome total failures) (Teardown.outcome total failures : Act σ Unit) :=
  .ite (.pure _) (.refuse _)

/-- `listed` follows. -/
theorem listed : Follows t'.listed t.listed :=
  h.matched.listed

/-- `unmountMatching` follows; both read the pattern in the same way, by `patterns_eq`. -/
theorem unmountMatching (target : String) (lazily silent : Bool) :
    Follows (t'.unmountMatching target lazily silent) (t.unmountMatching target lazily silent) :=
  h.matched.unmountMatching target lazily silent

/-- `unmountAll` follows. -/
theorem unmountAll (lazily : Bool) : Follows (t'.unmountAll lazily) (t.unmountAll lazily) :=
  h.matched.unmountAll lazily

end Teardown.FollowedBy

/-! ### Requests -/

namespace SessionManager

variable (m : SessionManager σ)

/-- A watched platform follows the platform. -/
theorem matched_watched : m.watched.Matched (Follows.matching σ ManagerCall) m where
  surroundings_eq := rfl
  books := m.books.matched_watched
  start _ _ := .seen _ _
  stop _ := .seen _ _
  install _ := .seen _ _
  uninstall _ := .seen _ _
  print _ := .unseen _
  checkDirectory options :=
    .look (fun s => Act.ofExcept (checkDirectory (m.disk.get s) options)) fun _ => .ofExcept _
  patterns_eq := rfl
  self := .look (fun s => pure (m.self s)) fun _ => .pure _

/-- `m.watched.enableRemount` follows `m.enableRemount`. -/
theorem follows_enableRemount (key : SessionKey) (options : MountOptions) :
    Follows (m.watched.enableRemount key options) (m.enableRemount key options) :=
  m.matched_watched.enableRemount key options

/-- What it takes to unmount is watched with its manager. -/
theorem followed_watched : m.teardown.FollowedBy m.watched.teardown where
  lookup _ := .unseen _
  unregister _ := .seen _ _
  list := .unseen _
  unmount _ _ := .seen _ _
  isAlive _ := .unseen _
  stop _ := .seen _ _
  print _ := .unseen _
  patterns_eq := rfl

end SessionManager

/-- **A watched manager** does to the host what the manager does. -/
theorem SessionRequest.follows (m : SessionManager σ) (r : SessionRequest) :
    Follows (r.act m.watched) (r.act m) :=
  m.matched_watched.request r

/-- **The calls** that a request leads to on a host. -/
def SessionManager.calls (m : SessionManager σ) (r : SessionRequest) (s : σ) : List ManagerCall :=
  ((r.act m.watched).runOn ⟨s, []⟩).2.trace

end MountKeeper
