import MountKeeper.LauncherSupervisor
import MountKeeper.Proofs.Launcher.Arrangement
import MountKeeper.Proofs.Rehearsal.Stores
import MountKeeper.Proofs.Sessions.Run
import MountKeeper.Rehearsal.Worlds
import MountKeeper.Remount.Launcher

/-! # Sessions that the launcher serves

A platform on which the launcher serves the sessions keeps them in the instance store and in the
launcher. At the end of every run of background mounts and unmounts, the two agree, whatever the
launcher refuses and whenever it cannot be reached.

* `LauncherPlatform.manager` is the manager of such a platform, and `LauncherPlatform.Reliable` is
  what is asked of its parts.
* `LauncherPlatform.Reliable.accountable`: the manager is accountable for background mounts.
* `LauncherPlatform.Reliable.runs_agree` is the statement about runs. -/

namespace MountKeeper

open Act (Ensures Keeps)
open Launcher (ownClass Instances Listable Honest)
open MountLauncher (ownInstances)

variable {σ α : Type}

/-- The parts of a platform on which the launcher serves the sessions. -/
structure LauncherPlatform (σ : Type) where
  surroundings : Surroundings
  stores : InstanceStores σ
  /-- Takes a message to the launcher and brings its answer back. -/
  exchange : List UInt8 → Act σ (List UInt8)
  describe : Act σ Unit
  factory : DataPathFactory σ
  pollLimit : σ → Nat
  processes : ProcessTable σ
  console : Console σ
  disk : Part σ Disk
  patterns : PatternReader
  self : σ → UInt32

namespace LauncherPlatform

/-- The launcher behind the exchange. -/
def launcher (p : LauncherPlatform σ) : MountLauncher σ := .ofExchange p.exchange

/-- Has the launcher serve sessions. -/
def supervisor (p : LauncherPlatform σ) : LauncherSupervisor σ where
  registry := p.stores.registry
  launcher := p.launcher
  describe := p.describe
  factory := p.factory
  pollLimit := p.pollLimit

/-- The manager of the platform. -/
def manager (p : LauncherPlatform σ) : SessionManager σ where
  surroundings := p.surroundings
  books := {
    registry := p.stores.registry
    mounts := p.launcher.table
    unmounter := p.launcher.unmounter
    processes := p.processes }
  supervisor := p.supervisor.supervisor
  remount := LauncherRemount.installer p.launcher p.stores.flags
  console := p.console
  disk := p.disk
  patterns := p.patterns
  self := p.self

end LauncherPlatform

/-! ## Reliable platforms -/

/-- What is seen of a host on which the launcher serves sessions. -/
structure LauncherView (σ : Type) where
  /-- What the instance store and the launcher have in them. -/
  arrangement : σ → Arrangement
  /-- What else holds of the host all the time. -/
  sane : σ → Prop

namespace LauncherView

/-- The host is sane and has the given arrangement. -/
def At (v : LauncherView σ) (A : Arrangement) (s : σ) : Prop :=
  v.arrangement s = A ∧ v.sane s

/-- The ledger of the arrangement, of which everything is kept that has to be. -/
def account (v : LauncherView σ) (others : Instances) : Account σ where
  ledger s := (v.arrangement s).ledger
  sound s := (v.arrangement s).Kept others ∧ v.sane s

variable {v : LauncherView σ} {A : Arrangement} {others : Instances} {s : σ}

/-- A host with the arrangement `A` has the ledger of `A` in the account that leaves the instances
of others alone. -/
theorem At.account (h : v.At A s) (hA : A.Kept others) : (v.account others).At A.ledger s := by
  obtain ⟨rfl, hs⟩ := h
  exact ⟨rfl, hA, hs⟩

/-- To know an act at a ledger `V`, it is enough to know it at each arrangement with `A.ledger = V`.
-/
theorem ensures_of_arrangement {V : Ledger} {act : Act σ α} {Q : α → σ → Prop}
    {E : Failure → σ → Prop}
    (h : ∀ A : Arrangement, A.ledger = V → A.Kept others → Ensures (v.At A) act Q E) :
    Ensures ((v.account others).At V) act Q E :=
  fun s hs => h (v.arrangement s) hs.1 hs.2.1 s ⟨rfl, hs.2.2⟩

/-- What keeps every arrangement keeps every ledger. -/
theorem keeps_of_arrangement {V : Ledger} {act : Act σ α} (h : ∀ A, Keeps (v.At A) act) :
    Keeps ((v.account others).At V) act := by
  refine ensures_of_arrangement fun A hV hA => ?_
  subst hV
  exact (h A).weaken (fun _ _ hs => hs.account hA) fun _ _ hs => hs.account hA

/-- The instance store is empty, and the launcher runs only instances of other classes. -/
structure Fresh (v : LauncherView σ) (s : σ) : Prop where
  store : ∀ key, (v.arrangement s).store key = none
  running : ∀ q ∈ (v.arrangement s).running, q.1 ≠ ownClass ∧ Listable q
  sane : v.sane s

/-- A `Fresh` host is `Orderly`: nothing is stored and nothing of ours runs, so there is nothing
that is not as it should be. -/
theorem Fresh.orderly (h : v.Fresh s) :
    (v.account (v.arrangement s).running).Orderly s := by
  -- none of our instances runs and nothing is stored, so that the ledger is empty
  have hown : ownInstances (v.arrangement s).running = [] := by
    rw [List.eq_nil_iff_forall_not_mem]
    exact fun name hname => (h.running _ (mem_ownInstances.1 hname)).1 rfl
  have hledger : (v.arrangement s).ledger = .empty := by
    unfold Arrangement.ledger Ledger.empty
    rw [hown]
    congr 1
    funext k
    rw [h.store]
    rfl
  refine ⟨?_, ⟨fun q hq => (h.running q hq).2, ?_, ?_, ?_⟩, h.sane⟩
  · show (v.arrangement s).ledger.Coherent
    rw [hledger]
    exact .empty
  · rw [hown]
    exact fun name hname => absurd hname (by simp)
  · rw [List.filter_eq_self]
    exact fun q hq => bne_iff_ne.2 (h.running q hq).1
  · intro key values hvalues
    rw [h.store] at hvalues
    exact absurd hvalues (by simp)

end LauncherView

namespace LauncherPlatform

/-- **The parts of a platform on which the launcher serves the sessions.** The instance store does
not fail; the launcher is honest but need not be reached; all the rest may fail at any time. -/
structure Reliable (p : LauncherPlatform σ) (v : LauncherView σ) : Prop where
  /-- The values under a key of the instance store are read. -/
  read : ∀ A key, Ensures (v.At A) (p.stores.instances.read key)
    (fun values s => values = A.store key ∧ v.At A s) fun _ _ => False
  /-- Values are set under a key of the instance store. -/
  write : ∀ A key values, Ensures (v.At A) (p.stores.instances.write key values)
    (fun _ => v.At (A.setRecord key (some (((A.store key).getD []).merge values)))) fun _ _ => False
  /-- A key of the instance store is deleted. -/
  delete : ∀ A key, Ensures (v.At A) (p.stores.instances.delete key)
    (fun _ => v.At (A.setRecord key none)) fun _ _ => False
  /-- A mark is set. -/
  mark : ∀ A key values, Keeps (v.At A) (p.stores.remounts.write key values)
  /-- A mark is taken away. -/
  clear : ∀ A key, Keeps (v.At A) (p.stores.remounts.delete key)
  /-- This program is described to the launcher, or that fails. -/
  describe : ∀ A, Keeps (v.At A) p.describe
  /-- The launcher performs a request, or refuses it, or cannot be reached. -/
  exchange : ∀ A : Arrangement, Honest p.exchange fun ps => v.At (A.setRunning ps)
  /-- To ask whether a process is alive changes nothing. -/
  isAlive : ∀ A pid, Keeps (v.At A) (p.processes.isAlive pid)
  /-- A line is shown. -/
  print : ∀ A line, Keeps (v.At A) (p.console.print line)

namespace Reliable

variable {p : LauncherPlatform σ} {v : LauncherView σ} {A : Arrangement} {others : Instances}
  {k : SessionKey}

/-- A request other than `.list` is performed on the running instances, or nothing changes. -/
theorem request (h : p.Reliable v) (A : Arrangement) {r : Launcher.Request}
    (hr : r.opcode ≠ .list) :
    Ensures (v.At A) (MountLauncher.request p.exchange r)
      (fun _ s => r.NulFree ∧ v.At (A.setRunning (r.perform A.running)) s) fun _ => v.At A :=
  (h.exchange A).request hr A.running

/-- `list` answers with `A.running`, or fails, and changes nothing. -/
theorem list (h : p.Reliable v) (hA : A.Kept others) :
    Ensures (v.At A) p.launcher.list
      (fun ps s => ps = A.running ∧ v.At A s) fun _ => v.At A :=
  (h.exchange A).list hA.listable

/-- `lookup k` answers with the record of the ledger, and changes nothing. -/
theorem lookup (h : p.Reliable v) (hA : A.Kept others) (k : SessionKey) :
    Ensures (v.At A) (p.stores.registry.lookup k)
      (fun r s => r = A.ledger.records k ∧ v.At A s) fun _ _ => False := by
  show Ensures (v.At A) (InstanceStores.readFrom p.stores.instances k.text) _ _
  unfold InstanceStores.readFrom
  refine (h.read A k.text).bind fun values => Ensures.of_fact ?_
  rintro rfl
  cases hvalues : A.store k.text with
  | none =>
    refine Ensures.pure fun s hs => ⟨?_, hs⟩
    simp [Arrangement.ledger, hvalues]
  | some values =>
    obtain ⟨-, session, hread⟩ := hA.readable k.text values hvalues
    refine Ensures.map (Ensures.ofExcept (fun x hx s hs => ⟨?_, hs⟩) fun f hf => ?_)
    · simp [Arrangement.ledger, hvalues, hx, Except.toOption]
    · rw [hread] at hf
      exact absurd hf (by simp)

/-- `unregister k` takes the arrangement to `A.unrecord k`. -/
theorem unregister (h : p.Reliable v) (A : Arrangement) (k : SessionKey) :
    Ensures (v.At A) (p.stores.registry.unregister k)
      (fun _ => v.At (A.unrecord k)) fun _ _ => False :=
  (h.delete A k.text).bind fun _ => Ensures.pure fun _ hs => hs

/-- `register session` takes the arrangement to `A.record session.key`, where there was no record.
-/
theorem register (h : p.Reliable v) (session : Session) (hnone : A.store session.key.text = none) :
    Ensures (v.At A) (p.stores.registry.register session)
      (fun _ => v.At (A.record session.key session.configText)) fun _ _ => False := by
  have hwrite := h.write A session.key.text
    (InstanceStores.recordValues session.key.text session.configText)
  rw [hnone] at hwrite
  exact hwrite

/-- `unmount path` takes the arrangement to `A.stop (.ofPath path)`: to unmount is to stop the
instance of the path's key. -/
theorem unmount (h : p.Reliable v) (A : Arrangement) (path : String) (lazily : Bool) :
    Ensures (v.At A) (p.launcher.unmounter.unmount path lazily)
      (fun _ => v.At (A.stop (.ofPath path))) fun _ => v.At A :=
  (h.request A (r := .stop ownClass (SessionKey.canonical path) (SessionKey.canonical path))
    (by simp [Launcher.Request.opcode])).weaken (fun _ _ hs => hs.2) fun _ _ hs => hs

/-- `start k` takes the arrangement to `A.start k`, if the wire can carry the key; a key with a NUL
is refused. -/
theorem launch (h : p.Reliable v) (A : Arrangement) (k : SessionKey) (config : String) :
    Ensures (v.At A) (p.launcher.start k.text k.text config)
      (fun _ s => Launcher.NulFree k.text ∧ v.At (A.start k) s) fun _ => v.At A := by
  refine (h.request A (r := .start ownClass k.text k.text config)
    (by simp [Launcher.Request.opcode])).weaken (fun _ s hs => ⟨?_, hs.2⟩) fun _ _ hs => hs
  exact hs.1 k.text (by simp [Launcher.Request.fields])

/-- **A start** records the session and has the launcher start its instance, or leaves the
arrangement at `A`: the record is taken back when the launcher does not do its part. -/
theorem start (h : p.Reliable v) (hA : A.Kept others) {session : Session} {options : MountOptions}
    (hforeground : options.foreground = false) (hfree : A.ledger.Free session.key) :
    Ensures (v.At A) (p.supervisor.start session options)
      (fun _ s => Launcher.NulFree session.key.text ∧
        v.At ((A.record session.key session.configText).start session.key) s) fun _ => v.At A := by
  have hnone := hA.store_eq_none hfree.1
  unfold LauncherSupervisor.start
  rw [if_neg (by simp [hforeground])]
  unfold LauncherSupervisor.delegate
  refine Ensures.bind (Ensures.inContext (h.describe A)) fun _ => ?_
  have hregister := h.register { session with owner := .service session.key.text } hnone
  refine hregister.never.bind fun _ => ?_
  refine Ensures.attempt_bind (h.launch _ session.key session.configText)
    (fun _ => Ensures.pure fun s hs => hs) fun f => ?_
  -- there was no record before, so that without the new one everything is as it was
  have hback := h.unregister (A.record session.key session.configText) session.key
  rw [Arrangement.unrecord_record hnone] at hback
  refine Ensures.bind (Ensures.attempt (Q := fun _ => v.At A) hback.never) fun _ => ?_
  exact Ensures.fail fun s hs => hs

/-- An instance that runs is not started again by `install`. -/
theorem install (h : p.Reliable v) (hA : A.Kept others) {record : RemountRecord}
    (hkey : record.key ∈ A.ledger.keys) :
    Keeps (v.At A) ((LauncherRemount.installer p.launcher p.stores.flags).install record) := by
  -- the key is mounted, so that an instance of that name is among those that run
  have hserves : LauncherRemount.serves A.running record.key = true := by
    obtain ⟨name, hname, hofPath⟩ := List.mem_map.1 hkey
    have hrunning := mem_ownInstances.1 hname
    rw [← hofPath, LauncherRemount.serves, List.any_eq_true]
    refine ⟨(ownClass, name), hrunning, ?_⟩
    simp [hA.canonical name hname]
  refine Ensures.bind (h.mark A _ _) fun _ => ?_
  refine (h.list hA).bind fun ps => Ensures.of_fact ?_
  rintro rfl
  rw [hserves]
  exact Ensures.pure fun s hs => hs

/-- **A reliable platform is `Accountable`** for background mounts. -/
theorem accountable (h : p.Reliable v) (others : Instances) :
    Accountable p.manager (v.account others) fun options => options.foreground = false where
  lookup V k := LauncherView.ensures_of_arrangement fun A hV hA => by
    subst hV
    exact (h.lookup hA k).weaken (fun _ _ hs => ⟨hs.1, hs.2.account hA⟩) fun _ _ hf => hf
  unregister V k := LauncherView.ensures_of_arrangement fun A hV hA => by
    subst hV
    rw [← Arrangement.ledger_unrecord]
    exact (h.unregister A k).weaken (fun _ _ hs => hs.account (hA.unrecord k)) fun _ _ hf => hf
  list V := LauncherView.ensures_of_arrangement fun A hV hA => by
    subst hV
    refine Ensures.bind ((h.list hA).failing fun _ _ hs => hs.account hA) fun ps =>
      Ensures.of_fact ?_
    rintro rfl
    exact Ensures.pure fun s hs => ⟨rfl, hs.account hA⟩
  isDisconnected V k := Ensures.pure fun _ hs => hs
  isAlive V pid := LauncherView.keeps_of_arrangement fun A => h.isAlive A pid
  unmount V path lazily := LauncherView.ensures_of_arrangement fun A hV hA => by
    subst hV
    rw [← Arrangement.ledger_stop hA.canonical]
    exact (h.unmount A path lazily).weaken (fun _ _ hs => hs.account (hA.stop _))
      fun _ _ hs => hs.account hA
  unmount_lazily V k record pid hrecord howner := LauncherView.ensures_of_arrangement
    fun A hV hA => by
    -- there is no such record: what is read from the store is served by the launcher
    subst hV
    obtain ⟨name, hname⟩ := Arrangement.owner_of_records hrecord
    exact absurd (howner.symm.trans hname) (by simp)
  start V session options hforeground hfree := LauncherView.ensures_of_arrangement
    fun A hV hA => by
    subst hV
    refine (h.start hA hforeground hfree).weaken (fun _ s hs => ?_) fun _ _ hs => hs.account hA
    have hkept := (hA.record session.key session.configText).start hs.1
    have hat := hs.2.account hkept
    rw [Arrangement.ledger_record_start] at hat
    exact ⟨Arrangement.sessionAt session.key session.configText, session.key.text, rfl,
      session.key.ofPath_text, hat⟩
  install V record hkey := LauncherView.ensures_of_arrangement fun A hV hA => by
    subst hV
    exact (h.install hA hkey).weaken (fun _ _ hs => hs.account hA) fun _ _ hs => hs.account hA
  uninstall V k := LauncherView.keeps_of_arrangement fun A =>
    Ensures.bind (h.clear A k.text) fun _ => Ensures.pure fun _ hs => hs
  print V line := LauncherView.keeps_of_arrangement fun A => h.print A line

/-- **Every run** of background mounts and unmounts, from an empty instance store and a launcher
that runs none of our instances: the store has a record under a key exactly when our instance of
that name runs, no such instance runs twice, and those of other classes are the ones that ran
before. By `Act.runAll` over `Accountable`. -/
theorem runs_agree (h : p.Reliable v) {s : σ} (hs : v.Fresh s) {requests : List SessionRequest}
    (hbackground : ∀ r ∈ requests, r.Allowed fun options => options.foreground = false) :
    let A := v.arrangement (Act.runAll (requests.map (·.act p.manager)) s)
    (∀ key, (A.store key).isSome ↔ (ownClass, key) ∈ A.running) ∧
    (∀ key, A.running.count (ownClass, key) ≤ 1) ∧
    (A.running.filter fun q => q.1 != ownClass) = (v.arrangement s).running := by
  obtain ⟨hcoherent, hkept, -⟩ := (h.accountable _).runRequests hbackground hs.orderly
  exact ⟨hkept.isSome_store_iff hcoherent, Arrangement.Kept.count_le_one hcoherent, hkept.others⟩

end Reliable

end LauncherPlatform

/-! ## A host -/

namespace Rehearsal

namespace Host

/-- The host of a rehearsal, whose launcher serves the sessions. -/
def launcherPlatform (surroundings : Surroundings) : LauncherPlatform Host where
  surroundings := surroundings
  stores := stores
  exchange := exchange
  describe := describe
  factory := factory
  pollLimit := pollLimit
  processes := processTable
  console := console
  disk := diskPart
  patterns := Pattern.reader
  self := (·.self)

/-- The manager of the platform is `launcherManager`. -/
theorem manager_launcherPlatform (surroundings : Surroundings) :
    (launcherPlatform surroundings).manager = launcherManager surroundings := rfl

/-- The instance shelf and the launcher of the host, as long as the shelf can be read and written. -/
def launcherView : LauncherView Host where
  arrangement h := ⟨fun key => h.instances.entries.lookup key, h.launcher.running⟩
  sane h := h.instances.unreadable = [] ∧ h.instances.locked = false

/-- `respond` answers with a `Launcher.Reply`. -/
theorem reply_respond {l : LauncherState} {message : List UInt8} {r : Launcher.Request}
    (hread : Launcher.Request.decode message = .ok r) :
    Launcher.Reply l.running message (respond l r).1 (respond l r).2.running := by
  cases r with
  | start className name dir config =>
    dsimp only [respond]
    by_cases hfail : l.failStart.contains name = true
    · rw [if_pos hfail]
      exact .refused (Launcher.status?_response _ _)
    · rw [if_neg hfail]
      exact .performed hread (by simp [Launcher.Request.opcode])
        (Launcher.status?_response _ _)
  | stop className name dir =>
    dsimp only [respond]
    by_cases hfail : l.failStop.contains name = true
    · rw [if_pos hfail]
      exact .refused (Launcher.status?_response _ _)
    · rw [if_neg hfail]
      exact .performed hread (by simp [Launcher.Request.opcode])
        (Launcher.status?_response _ _)
  | list => exact .listed hread

/-- `exchange message` on a host: nothing while the launcher is down, a refusal of what is no
request, and else `respond`. -/
theorem runOn_exchange (message : List UInt8) (h : Host) :
    (exchange message).runOn h
      = if h.launcher.down then (.error (.ofText "launcher pipe unavailable"), h)
        else match Launcher.Request.decode message with
          | .error e => (.error (.ofSession e), h)
          | .ok r => (.ok (respond h.launcher r).1, {
              h with
              launcher := (respond h.launcher r).2
              events := h.events ++ (requestText? r).toList }) := by
  unfold exchange
  rw [Act.runOn_bind]
  show (if h.launcher.down then _ else _ : Act Host (List UInt8)).runOn h = _
  by_cases hdown : h.launcher.down = true
  · rw [if_pos hdown, if_pos hdown]
    rfl
  · rw [if_neg hdown, if_neg hdown]
    cases hread : Launcher.Request.decode message with
    | error e => rfl
    | ok r => cases r <;> simp [requestText?] <;> rfl

/-- What is done to the marks, on `remountsPart`, does not change an arrangement. -/
theorem keeps_on_remountsPart (A : Arrangement) (act : Act Shelf α) :
    Keeps (launcherView.At A) (act.on remountsPart) := by
  intro h hs
  rw [Act.runOn_on]
  cases (act.runOn (remountsPart.get h)).1 <;> exact hs

/-- `describe` notes this program, or fails. -/
theorem keeps_describe {I : Host → Prop} (h : ∀ text, Keeps I (note text)) : Keeps I describe := by
  refine (h _).bind fun _ => Keeps.look.bind fun host => ?_
  cases host.descriptorError with
  | none => exact .pure _
  | some text => exact .fail _

/-- **The host of a rehearsal is `Reliable`.** -/
theorem reliable (surroundings : Surroundings) :
    (launcherPlatform surroundings).Reliable launcherView where
  read A key := by
    rintro h ⟨rfl, hsane⟩
    rw [show (launcherPlatform surroundings).stores.instances.read key
      = (Shelf.store.read key).on instancesPart from rfl, Act.runOn_on,
      show instancesPart.get h = h.instances from rfl, Shelf.runOn_read_of_readable hsane.1]
    exact ⟨rfl, rfl, hsane⟩
  write A key values := by
    rintro h ⟨rfl, hsane⟩
    rw [show (launcherPlatform surroundings).stores.instances.write key values
      = (Shelf.store.write key values).on instancesPart from rfl, Act.runOn_on,
      show instancesPart.get h = h.instances from rfl, Shelf.runOn_write hsane.2]
    exact ⟨congrArg (Arrangement.mk · _) (Shelf.lookup_write h.instances key values), hsane⟩
  delete A key := by
    rintro h ⟨rfl, hsane⟩
    rw [show (launcherPlatform surroundings).stores.instances.delete key
      = (Shelf.store.delete key).on instancesPart from rfl, Act.runOn_on,
      show instancesPart.get h = h.instances from rfl, Shelf.runOn_delete hsane.2]
    exact ⟨congrArg (Arrangement.mk · _) (Shelf.lookup_erase h.instances key), hsane⟩
  mark A key values := keeps_on_remountsPart A _
  clear A key := keeps_on_remountsPart A _
  describe A := keeps_describe fun _ => Ensures.change fun _ hs => hs
  exchange A := by
    rintro ps message h ⟨harrangement, hsane⟩
    have hps : h.launcher.running = ps := congrArg Arrangement.running harrangement
    -- a launcher that is down, or that cannot read the message, changes nothing
    rw [show (launcherPlatform surroundings).exchange = exchange from rfl, runOn_exchange]
    by_cases hdown : h.launcher.down = true
    · rw [if_pos hdown]
      exact ⟨harrangement, hsane⟩
    · rw [if_neg hdown]
      cases hread : Launcher.Request.decode message with
      | error e => exact ⟨harrangement, hsane⟩
      | ok r =>
        refine ⟨(respond h.launcher r).2.running, hps ▸ reply_respond hread, ?_, hsane⟩
        show (launcherView.arrangement h).setRunning (respond h.launcher r).2.running = _
        rw [harrangement]
        rfl
  isAlive A pid := fun _ hs => hs
  print A line := Ensures.change fun _ hs => hs

/-- A host with two directories, whose launcher runs an instance of another class and does not start
anything at `/mnt/b`. -/
def busyLauncher : Host where
  surroundings := ⟨"/home/u", "/"⟩
  disk := { nodes := [(["mnt"], .directory), (["mnt", "a"], .directory), (["mnt", "b"], .directory)] }
  launcher := { running := [("other", "/mnt/a")], failStart := ["/mnt/b"] }

/-- A mount in the background that is to come back after a restart. -/
def remounted (path : String) : MountOptions where
  mountPath := path
  configPath := some "/c.yaml"
  foreground := false
  nonempty := false
  fuseOptions := []
  workDir := "/w"
  waitForMount := .ofSeconds 5
  remount := { user := true }
  config := {}

/-- Two mounts, of which the launcher refuses the second, and an unmount of what is not mounted. -/
def twoMounts : List SessionRequest :=
  [.mount (remounted "/mnt/a/"), .mount (remounted "/mnt/b"), .unmount "/mnt/b" false false]

/-- The host behind these requests. -/
def afterTwoMounts : Host :=
  Act.runAll (twoMounts.map (·.act (launcherPlatform busyLauncher.surroundings).manager))
    busyLauncher

/-- The busy launcher is fresh for the program: nothing is stored, and what it runs is of another
class. -/
theorem fresh_busyLauncher : launcherView.Fresh busyLauncher where
  store key := rfl
  running := by
    intro q hq
    rw [List.mem_singleton.1 hq]
    unfold Listable
    decide
  sane := ⟨rfl, rfl⟩

/-- `busyLauncher` behind two mounts, of which one fails: `runs_agree` applies to it. -/
theorem runs_agree_twoMounts :
    (launcherPlatform busyLauncher.surroundings).Reliable launcherView ∧
    launcherView.Fresh busyLauncher ∧
    (∀ r ∈ twoMounts, r.Allowed fun options => options.foreground = false) ∧
    afterTwoMounts.launcher.running = [("other", "/mnt/a"), ("cloudfuse", "/mnt/a")] ∧
    let A := launcherView.arrangement afterTwoMounts
    (∀ key, (A.store key).isSome ↔ (ownClass, key) ∈ A.running) ∧
    (∀ key, A.running.count (ownClass, key) ≤ 1) ∧
    (A.running.filter fun q => q.1 != ownClass)
      = (launcherView.arrangement busyLauncher).running := by
  have hbackground : ∀ r ∈ twoMounts, r.Allowed fun options => options.foreground = false := by
    simp [twoMounts, remounted, SessionRequest.Allowed]
  refine ⟨reliable _, fresh_busyLauncher, hbackground, by decide +kernel, ?_⟩
  exact (reliable busyLauncher.surroundings).runs_agree fresh_busyLauncher hbackground

end Host

end Rehearsal

end MountKeeper
