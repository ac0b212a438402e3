import MountKeeper.Proofs.Act
import MountKeeper.Proofs.Sessions.Ledger
import MountKeeper.SessionManager

/-! # Managers whose host keeps a ledger

A session manager is accountable when what its parts do can be told from a ledger of the host: a
lookup answers with the record, an unmount takes away the mounts of one key, a start enters a
session. From that, and from nothing else about the parts, follows what each operation of the
manager does to a coherent ledger.

* `Accountable` is what is asked of the parts. A start is asked about for free keys only.
* `Accountable.reconcile`, `Accountable.mount`, `Accountable.unmountKey`, `Accountable.unmount` and
  `Accountable.unmountAll` are what the operations ensure. -/

namespace MountKeeper

open Act (Ensures Keeps)

variable {σ α : Type}

/-- The ledger that a host keeps, and what else holds of the host all the time. -/
structure Account (σ : Type) where
  /-- The ledger of a host. -/
  ledger : σ → Ledger
  /-- What else holds of it. -/
  sound : σ → Prop

/-- A ledger is clear of a target when its key is free, or, for a pattern, when it selects no
mounted path. -/
def Ledger.ClearOf (V : Ledger) (patterns : PatternReader) (target : String) : Prop :=
  if Teardown.isPattern target then
    ∃ selects, patterns target = .ok selects ∧ ∀ p ∈ V.table, selects p = false
  else V.Free (.ofPath target)

namespace Account

/-- The host is sound and has the given ledger. -/
def At (a : Account σ) (V : Ledger) (s : σ) : Prop :=
  a.ledger s = V ∧ a.sound s

/-- The host is sound and its ledger is coherent. -/
def Orderly (a : Account σ) (s : σ) : Prop :=
  (a.ledger s).Coherent ∧ a.sound s

/-- The host is orderly, and its ledger lies within a given one. -/
def Below (a : Account σ) (V : Ledger) (s : σ) : Prop :=
  (a.ledger s).Within V ∧ a.Orderly s

variable {a : Account σ} {V W : Ledger} {s : σ}

/-- A sound host with a coherent ledger is `Orderly`. -/
theorem At.orderly (h : a.At V s) (hV : V.Coherent) : a.Orderly s := by
  obtain ⟨rfl, hs⟩ := h
  exact ⟨hV, hs⟩

/-- A sound host whose coherent ledger lies within `W` is `Below W`. -/
theorem At.below (h : a.At V s) (hV : V.Coherent) (hW : V.Within W) : a.Below W s := by
  obtain ⟨rfl, hs⟩ := h
  exact ⟨hW, hV, hs⟩

/-- A host at a coherent `V` is `Below V`. -/
theorem below_of_at (hV : V.Coherent) (s : σ) (h : a.At V s) : a.Below V s :=
  h.below hV (.refl V)

/-- An orderly host is at its own ledger. -/
theorem Orderly.at_ledger (h : a.Orderly s) : a.At (a.ledger s) s :=
  ⟨rfl, h.2⟩

/-- `Below` is monotone in the ledger. -/
theorem Below.trans (h : a.Below V s) (hVW : V.Within W) : a.Below W s :=
  ⟨h.1.trans hVW, h.2⟩

/-- To know an act on an `Orderly` host, it is enough to know it at each coherent ledger. -/
theorem ensures_of_coherent {act : Act σ α} {Q : α → σ → Prop} {E : Failure → σ → Prop}
    (h : ∀ V : Ledger, V.Coherent → Ensures (a.At V) act Q E) : Ensures a.Orderly act Q E :=
  fun s hs => h (a.ledger s) hs.1 s hs.at_ledger

/-- To know an act on a host `Below V`, it is enough to know it at each coherent ledger within `V`.
-/
theorem ensures_of_below {act : Act σ α} {Q : α → σ → Prop} {E : Failure → σ → Prop}
    (h : ∀ W : Ledger, W.Coherent → W.Within V → Ensures (a.At W) act Q E) :
    Ensures (a.Below V) act Q E :=
  fun s hs => h (a.ledger s) hs.2.1 hs.1 s hs.2.at_ledger

end Account

/-- **Accountability** of the parts of a manager: what each of them does, told from the ledger `a`.
The mounts that may be asked for are those that are `allowed`. -/
structure Accountable (m : SessionManager σ) (a : Account σ) (allowed : MountOptions → Prop) :
    Prop where
  /-- A lookup answers with the record of the key. -/
  lookup : ∀ V k, Ensures (a.At V) (m.books.registry.lookup k)
    (fun r s => r = V.records k ∧ a.At V s) fun _ _ => False
  /-- The record of a key can be removed. -/
  unregister : ∀ V k, Ensures (a.At V) (m.books.registry.unregister k)
    (fun _ => a.At (V.forget k)) fun _ _ => False
  /-- The mount table lists the mounted paths, if it can be read. -/
  list : ∀ V, Ensures (a.At V) m.books.mounts.list
    (fun paths s => paths = V.table ∧ a.At V s) fun _ => a.At V
  /-- To ask whether a mount is disconnected changes nothing. -/
  isDisconnected : ∀ V k, Keeps (a.At V) (m.books.mounts.isDisconnected k)
  /-- To ask whether a process is alive changes nothing. -/
  isAlive : ∀ V pid, Keeps (a.At V) (m.books.processes.isAlive pid)
  /-- An unmount takes away the mounts of the path's key, or nothing. -/
  unmount : ∀ V path lazily, Ensures (a.At V) (m.books.unmounter.unmount path lazily)
    (fun _ => a.At (V.detach (.ofPath path))) fun _ => a.At V
  /-- What a process served is unmounted lazily without fail. -/
  unmount_lazily : ∀ V k record pid, V.records k = some record → record.owner = .process pid →
    Ensures (a.At V) (m.books.unmounter.unmount k.text true)
      (fun _ => a.At (V.detach k)) fun _ _ => False
  /-- A start under a free key enters the session, or nothing. -/
  start : ∀ V session options, allowed options → V.Free session.key →
    Ensures (a.At V) (m.supervisor.start session options)
      (fun _ s => ∃ record path, record.key = session.key ∧ SessionKey.ofPath path = session.key ∧
        a.At (V.attach record path) s)
      fun _ => a.At V
  /-- To make a mount come back that is there changes nothing. -/
  install : ∀ V record, record.key ∈ V.keys → Keeps (a.At V) (m.remount.install record)
  /-- To keep a mount from coming back changes nothing. -/
  uninstall : ∀ V k, Keeps (a.At V) (m.remount.uninstall k)
  /-- To show a line changes nothing. -/
  print : ∀ V line, Keeps (a.At V) (m.console.print line)

namespace Accountable

variable {m : SessionManager σ} {a : Account σ} {allowed : MountOptions → Prop}

/-! ## Looking -/

/-- `isMounted k` answers `true` if and only if `k ∈ V.keys`, and changes nothing. -/
theorem isMounted (h : Accountable m a allowed) (V : Ledger) (k : SessionKey) :
    Ensures (a.At V) (m.books.mounts.isMounted k)
      (fun mounted s => (mounted = true ↔ k ∈ V.keys) ∧ a.At V s) fun _ => a.At V := by
  unfold MountTable.isMounted
  refine (h.list V).bind fun paths => Ensures.pure ?_
  rintro s ⟨rfl, hs⟩
  exact ⟨V.lists_table_iff k, hs⟩

/-- `attempt (lookup k)` answers with `V.records k`, and changes nothing. -/
theorem attemptLookup (h : Accountable m a allowed) (V : Ledger) (k : SessionKey) :
    Ensures (a.At V) (Act.attempt (m.books.registry.lookup k))
      (fun r s => r = .ok (V.records k) ∧ a.At V s) fun _ _ => False := by
  refine Ensures.attempt ((h.lookup V k).weaken ?_ fun _ _ hf => hf.elim)
  rintro r s ⟨rfl, hs⟩
  exact ⟨rfl, hs⟩

/-- `readableRecord k` answers with `V.records k`: every record can be read, so none is forgotten.
-/
theorem readableRecord (h : Accountable m a allowed) (V : Ledger) (k : SessionKey) :
    Ensures (a.At V) (m.books.readableRecord k)
      (fun r s => r = V.records k ∧ a.At V s) fun _ => a.At V := by
  unfold Bookkeeping.readableRecord
  refine (h.attemptLookup V k).never.bind fun r => Ensures.of_fact ?_
  rintro rfl
  exact Ensures.pure fun s hs => ⟨rfl, hs⟩

/-- `isTaken` answers `false` about a mounted path only if its owner is a process: a service is
never found to be gone. -/
theorem isTaken (h : Accountable m a allowed) (V : Ledger) (k : SessionKey) (mounted : Bool)
    (record : Option Session) :
    Ensures (a.At V) (m.books.isTaken k mounted record)
      (fun taken s => (taken = false → mounted = true → ∀ r, record = some r →
        ∃ pid, r.owner = .process pid) ∧ a.At V s) fun _ => a.At V := by
  cases record with
  | none =>
    have hnone : ∀ taken : Bool, taken = false → mounted = true →
        ∀ r : Session, (none : Option Session) = some r → ∃ pid, r.owner = .process pid :=
      fun _ _ _ r hr => absurd hr (by simp)
    unfold Bookkeeping.isTaken
    refine Ensures.ite (fun _ => ?_) fun _ => Ensures.pure fun s hs => ⟨hnone _, hs⟩
    exact Ensures.bind (h.isDisconnected V k) fun d => Ensures.pure fun s hs => ⟨hnone _, hs⟩
  | some r =>
    obtain ⟨key, config, owner, state⟩ := r
    cases owner with
    | process pid =>
      show Ensures (a.At V) (m.books.processes.isAlive pid) _ _
      refine Ensures.weaken (h.isAlive V pid) (fun alive s hs => ⟨?_, hs⟩) fun _ _ hs => hs
      rintro - - r hr
      rw [← Option.some.inj hr]
      exact ⟨pid, rfl⟩
    | service name =>
      -- a service has its mount as long as the mount is there
      refine Ensures.pure (x := mounted) fun s hs => ⟨fun htaken hmounted => ?_, hs⟩
      exact absurd (htaken.symm.trans hmounted) (by simp)

/-! ## Clearing up -/

/-- `forget k` takes the host to `V.forget k`. -/
theorem forget (h : Accountable m a allowed) (V : Ledger) (k : SessionKey) :
    Ensures (a.At V) (m.books.forget k) (fun _ => a.At (V.forget k)) fun _ _ => False := by
  unfold Bookkeeping.forget
  have hunregister : Ensures (a.At V) (Act.attempt (m.books.registry.unregister k))
      (fun _ => a.At (V.forget k)) fun _ _ => False :=
    Ensures.attempt (h.unregister V k).never
  exact hunregister.bind fun _ => Ensures.pure fun s hs => hs

/-- `clearAway` takes the host from `V` to `V.erase k`: mount and record of a dead process are taken
away. -/
theorem clearAway (h : Accountable m a allowed) {V : Ledger} (hV : V.Coherent) {k : SessionKey}
    {mounted : Bool} (hmounted : mounted = true ↔ k ∈ V.keys)
    (howner : mounted = true → ∀ r, V.records k = some r → ∃ pid, r.owner = .process pid) :
    Ensures (a.At V) (m.books.clearAway k (V.records k) mounted)
      (fun _ => a.At (V.erase k)) fun _ => a.At V := by
  unfold Bookkeeping.clearAway
  cases hb : mounted with
  | true =>
    -- what is mounted has a record, and with it a process that owned it
    obtain ⟨r, hr⟩ := Option.isSome_iff_exists.1 ((hV.recorded k).2 (hmounted.1 hb))
    obtain ⟨pid, hpid⟩ := howner hb r hr
    have hunmount : Ensures (a.At V) (Act.attempt (m.books.unmounter.unmount k.text true))
        (fun _ => a.At (V.detach k)) fun _ => a.At V :=
      Ensures.attempt (h.unmount_lazily V k r pid hr hpid).never
    rw [if_pos rfl, hr]
    refine hunmount.bind fun _ => ?_
    exact (h.forget (V.detach k) k).never
  | false =>
    -- a key that is not mounted has no record either, so that nothing is left to do
    have hfree : V.Free k := hV.free_of_not_mem fun hk => by
      rw [hmounted.2 hk] at hb
      exact absurd hb (by simp)
    rw [if_neg (by simp), hfree.1, hfree.erase_eq]
    exact Ensures.pure fun s hs => hs

/-- **Reconciliation.** `.proceed` comes with `V.erase k`: a path that is found to be free is free
behind it, and nothing else has changed. `.alreadyMounted` and a failure leave everything as it is.
-/
theorem reconcile (h : Accountable m a allowed) {V : Ledger} (hV : V.Coherent) (k : SessionKey) :
    Ensures (a.At V) (m.books.reconcile k)
      (fun found => match found with
        | .proceed => a.At (V.erase k)
        | .alreadyMounted => a.At V) fun _ => a.At V := by
  unfold Bookkeeping.reconcile
  refine (h.readableRecord V k).bind fun record => Ensures.of_fact ?_
  rintro rfl
  refine (h.isMounted V k).bind fun mounted => Ensures.of_fact fun hmounted => ?_
  refine (h.isTaken V k mounted (V.records k)).bind fun taken => Ensures.of_fact fun howner => ?_
  refine Ensures.ite (fun _ => Ensures.pure fun s hs => hs) fun htaken => ?_
  refine (h.clearAway hV hmounted (howner (by simpa using htaken))).bind fun _ => ?_
  exact Ensures.pure fun s hs => hs

/-! ## Mounting -/

/-- `validate` is checks only, and changes nothing. -/
theorem validate (h : Accountable m a allowed) (V : Ledger) (options : MountOptions) :
    Keeps (a.At V) (m.validate options) := by
  unfold SessionManager.validate
  have hrequest : Keeps (a.At V) (SessionManager.checkRequest (σ := σ) options) := by
    unfold SessionManager.checkRequest
    exact Ensures.ite (fun _ => Ensures.refuse fun s hs => hs) fun _ => Ensures.pure fun s hs => hs
  refine Ensures.bind hrequest fun _ => ?_
  refine (h.isMounted V _).bind fun mounted => Ensures.of_fact fun _ => ?_
  refine Ensures.ite (fun _ => Ensures.pure fun s hs => hs) fun _ => ?_
  refine Ensures.bind (Q := fun _ => a.At V) (Ensures.look fun s hs => hs) fun s' => ?_
  exact Ensures.ofExcept (fun _ _ s hs => hs) fun _ _ s hs => hs

/-- `enableRemount k` for a `k` that is mounted changes nothing. -/
theorem enableRemount (h : Accountable m a allowed) {V : Ledger} {k : SessionKey} (hk : k ∈ V.keys)
    (options : MountOptions) : Keeps (a.At V) (m.enableRemount k options) := by
  unfold SessionManager.enableRemount
  cases options.configPath with
  | none => exact Ensures.refuse fun s hs => hs
  | some config =>
    have hkey : (RemountRecord.make k.text config options.remount.systemUser).key = k :=
      SessionKey.ofPath_text k
    refine Ensures.bind (Ensures.inContext (h.install V _ ?_)) fun name => h.print V _
    rw [hkey]
    exact hk

/-- Behind a start under a free key, the key is mounted and the ledger is coherent again: the
supervisor makes both the mount and the record. -/
theorem startFree (h : Accountable m a allowed) {V : Ledger} (hV : V.Coherent) {session : Session}
    {options : MountOptions} (hoptions : allowed options) (hfree : V.Free session.key) :
    Ensures (a.At V) (m.supervisor.start session options)
      (fun _ s => ∃ W : Ledger, W.Coherent ∧ session.key ∈ W.keys ∧ a.At W s)
      fun _ => a.Orderly := by
  refine (h.start V session options hoptions hfree).weaken ?_ fun _ s hs => hs.orderly hV
  rintro started s ⟨record, path, hkey, hpath, hs⟩
  have hlisted : session.key ∈ (V.attach record path).keys := by
    rw [Ledger.keys_attach, hpath]
    exact List.mem_append_right _ (List.mem_singleton_self _)
  exact ⟨_, hV.attach (hpath.trans hkey.symm) (hkey ▸ hfree), hlisted, hs⟩

/-- **A mount keeps a host `Orderly`**, whether it succeeds or fails. The one call that it makes of
the supervisor is for a key that has been found or made free. -/
theorem mount (h : Accountable m a allowed) {options : MountOptions} (hoptions : allowed options) :
    Keeps a.Orderly (m.mount options) := by
  refine Account.ensures_of_coherent fun V hV => ?_
  have horderly : ∀ {W : Ledger}, W.Coherent → ∀ s, a.At W s → a.Orderly s :=
    fun hW s hs => hs.orderly hW
  unfold SessionManager.mount
  refine Ensures.bind (Ensures.failing (h.validate V options) fun _ => horderly hV) fun _ => ?_
  refine Ensures.bind ((h.reconcile hV _).failing fun _ => horderly hV) fun found => ?_
  cases found with
  | alreadyMounted => exact Ensures.refuse (horderly hV)
  | proceed =>
    refine Ensures.bind (Q := fun _ => a.At (V.erase (.ofPath options.mountPath)))
      (Ensures.look fun s hs => hs) fun s => ?_
    refine Ensures.bind (Ensures.inContext
      (h.startFree (hV.erase _) hoptions (V.free_erase _))) fun started => ?_
    refine Ensures.of_exists fun W => Ensures.of_fact fun hW => Ensures.of_fact fun hlisted => ?_
    have hreturn : Ensures (a.At W) (pure started) (fun _ => a.Orderly) fun _ => a.Orderly :=
      Ensures.pure (horderly hW)
    -- what was entered is a mount that is there, so that it can be made to come back
    refine Ensures.ite (fun _ => ?_) fun _ => hreturn
    exact Ensures.bind (Ensures.failing (h.enableRemount hlisted options) fun _ => horderly hW)
      fun _ => hreturn

/-! ## Unmounting -/

/-- `detach k` takes the host to `V.erase k`, mount and record together, or leaves it at `V`. -/
theorem detach (h : Accountable m a allowed) (V : Ledger) (k : SessionKey) (lazily : Bool) :
    Ensures (a.At V) (m.teardown.detach k lazily)
      (fun _ => a.At (V.erase k)) fun _ => a.At V := by
  unfold Teardown.detach
  have hunmount := h.unmount V k.text lazily
  rw [SessionKey.ofPath_text] at hunmount
  refine Ensures.bind (Ensures.inContext hunmount) fun _ => ?_
  exact (h.forget (V.detach k) k).never

/-- **One key.** `unmountKey k` takes the host to `V.erase k` if it succeeds. One that fails may
have succeeded but for saying so, so it leaves the host `Below V`. -/
theorem unmountKey (h : Accountable m a allowed) {V : Ledger} (hV : V.Coherent) (k : SessionKey)
    (lazily silent : Bool) :
    Ensures (a.At V) (m.teardown.unmountKey k lazily silent)
      (fun _ => a.At (V.erase k)) fun _ => a.Below V := by
  have hsaid : Ensures (a.At (V.erase k)) (if (!silent) = true then
      m.console.print s!"Successfully unmounted {k.text}" else pure ())
      (fun _ => a.At (V.erase k)) fun _ => a.Below V := by
    refine Ensures.ite (fun _ => ?_) fun _ => Ensures.pure fun s hs => hs
    exact Ensures.failing (h.print _ _) fun _ _ hs => hs.below (hV.erase k) (.erase V k)
  have hbelow := Account.below_of_at (a := a) hV
  unfold Teardown.unmountKey
  refine (h.attemptLookup V k).never.bind fun r => Ensures.of_fact ?_
  rintro rfl
  refine ((h.isMounted V k).failing fun _ => hbelow).bind fun mounted =>
    Ensures.of_fact fun hmounted => ?_
  refine Ensures.ite (fun _ => ?_) fun hnot => ?_
  · exact ((h.detach V k lazily).failing fun _ => hbelow).bind fun _ => hsaid
  · -- without a mount there is no record, so that the supervisor is never asked to stop anything
    have hfree : V.Free k := hV.free_of_not_mem fun hk => hnot (hmounted.2 hk)
    have hrecord : (Except.ok (V.records k) : Except Failure (Option Session)).toOption.getD none
        = none := hfree.1
    rw [hrecord]
    exact Ensures.bind (Q := fun _ => a.At (V.erase k)) (Ensures.refuse hbelow) fun _ => hsaid

/-- **Several paths.** When `unmountEach paths` lists no failure, the keys of all the paths are
free. Induction on `paths`, where a path that is freed stays so because ledgers only shrink. -/
theorem unmountEach (h : Accountable m a allowed) (V : Ledger) (lazily silent : Bool)
    (paths : List String) :
    Ensures (a.Below V) (m.teardown.unmountEach lazily silent paths)
      (fun failures s => (failures = [] → ∀ p ∈ paths, (a.ledger s).Free (.ofPath p)) ∧
        a.Below V s)
      fun _ _ => False := by
  -- by induction on the paths: what the first of them leaves lies within what was there, and a key
  -- that is free stays so while the others are unmounted
  induction paths generalizing V with
  | nil => exact Ensures.pure fun s hs => ⟨fun _ p hp => absurd hp (by simp), hs⟩
  | cons path rest ih =>
    refine Account.ensures_of_below fun W hW hWV => ?_
    have hhead : Ensures (a.At W)
        (Act.attempt (m.teardown.unmountKey (.ofPath path) lazily silent))
        (fun r s => ∃ U : Ledger, (U.Within W ∧ (r = .ok () → U.Free (.ofPath path))) ∧
          a.Below U s) fun _ _ => False := by
      refine Ensures.attempt ((h.unmountKey hW (.ofPath path) lazily silent).weaken ?_ ?_)
      · exact fun _ s hs => ⟨_, ⟨.erase W _, fun _ => W.free_erase _⟩,
          hs.below (hW.erase _) (.refl _)⟩
      · exact fun f s hs => ⟨a.ledger s, ⟨hs.1, fun hok => absurd hok (by simp)⟩, .refl _, hs.2⟩
    unfold Teardown.unmountEach
    refine hhead.bind fun r => Ensures.of_exists fun U => Ensures.of_fact fun ⟨hUW, hfree⟩ => ?_
    have hUV := hUW.trans hWV
    refine (ih U).bind fun failures => ?_
    cases r with
    | error f => exact Ensures.pure fun s hs => ⟨fun hnil => absurd hnil (by simp), hs.2.trans hUV⟩
    | ok _ =>
      refine Ensures.pure fun s hs => ⟨fun hnil p hp => ?_, hs.2.trans hUV⟩
      rcases List.mem_cons.1 hp with rfl | hp
      · exact hs.2.1.free (hfree rfl)
      · exact hs.1 hnil p hp

/-- `outcome total failures` succeeds only if `failures = []`. -/
theorem outcome (P : σ → Prop) (total : Nat) (failures : List String) :
    Ensures P (Teardown.outcome (σ := σ) total failures)
      (fun _ s => failures = [] ∧ P s) fun _ => P := by
  unfold Teardown.outcome
  refine Ensures.ite (fun hnil => ?_) fun _ => Ensures.refuse fun s hs => hs
  exact Ensures.pure fun s hs => ⟨List.isEmpty_iff.1 hnil, hs⟩

/-- `listed` answers with `V.table`. -/
theorem listed (h : Accountable m a allowed) (V : Ledger) :
    Ensures (a.At V) m.teardown.listed
      (fun paths s => paths = V.table ∧ a.At V s) fun _ => a.At V :=
  Ensures.inContext (h.list V)

/-- `unmountEach paths >>= report`: behind a success none of the paths is left in the table. -/
theorem unmountSome (h : Accountable m a allowed) {V : Ledger} (lazily silent : Bool)
    (paths : List String) (report : List String → Act σ Unit)
    (hreport : ∀ failures W, W.Coherent → Ensures (a.At W) (report failures)
      (fun _ s => failures = [] ∧ a.At W s) fun _ => a.At W) :
    Ensures (a.Below V)
      (m.teardown.unmountEach lazily silent paths >>= report)
      (fun _ s => (∀ p ∈ paths, p ∉ (a.ledger s).table) ∧ a.Below V s) fun _ => a.Below V := by
  refine (h.unmountEach V lazily silent paths).never.bind fun failures => ?_
  intro s hs
  -- the report changes nothing, so that it is about the ledger that the unmounts left
  have hrun := hreport failures (a.ledger s) hs.2.2.1 s hs.2.2.at_ledger
  rcases hacts : (report failures).runOn s with ⟨r, s'⟩
  rw [hacts] at hrun
  cases r with
  | error f => exact hrun.below hs.2.2.1 hs.2.1
  | ok _ =>
    refine ⟨fun p hp hmem => ?_, hrun.2.below hs.2.2.1 hs.2.1⟩
    have hfree := hs.1 hrun.1 p hp
    rw [hrun.2.1] at hmem
    exact hfree.2 (List.mem_map_of_mem hmem)

/-- Behind `unmountMatching target` that succeeds, the target was read as a pattern, and no mounted
path is selected by it. -/
theorem unmountMatching (h : Accountable m a allowed) {V : Ledger} (hV : V.Coherent)
    (target : String) (lazily silent : Bool) :
    Ensures (a.At V) (m.teardown.unmountMatching target lazily silent)
      (fun _ s => (∃ selects, m.patterns target = .ok selects ∧
        ∀ p ∈ (a.ledger s).table, selects p = false) ∧ a.Below V s)
      fun _ => a.Below V := by
  have hbelow := Account.below_of_at (a := a) hV
  unfold Teardown.unmountMatching
  cases hread : m.teardown.patterns target with
  | error reason => exact Ensures.refuse hbelow
  | ok selects =>
    refine ((h.listed V).failing fun _ => hbelow).bind fun paths =>
      Ensures.of_fact ?_
    rintro rfl
    have hsome := h.unmountSome (V := V) lazily silent (V.table.filter selects)
      (fun failures => Teardown.outcome (V.table.filter selects).length failures)
      fun failures W _ => outcome (a.At W) _ failures
    -- a path that is still selected was mounted before, so that it was one of those to unmount
    have hclear : ∀ (_ : Unit) s,
        (∀ p ∈ V.table.filter selects, p ∉ (a.ledger s).table) ∧ a.Below V s →
        (∃ selects', m.patterns target = .ok selects' ∧
          ∀ p ∈ (a.ledger s).table, selects' p = false) ∧ a.Below V s := by
      rintro _ s ⟨hgone, hs⟩
      refine ⟨⟨selects, hread, fun p hp => ?_⟩, hs⟩
      rw [← Bool.not_eq_true]
      intro hmatch
      exact hgone p (List.mem_filter.2 ⟨hs.1.table p hp, hmatch⟩) hp
    have hrest := hsome.mono hbelow hclear fun _ _ hs => hs
    exact Ensures.ite (fun _ => Ensures.bind (Q := fun _ => a.At V) (Ensures.refuse hbelow)
      fun _ => hrest) fun _ => hrest

/-- **A target.** Behind an `unmount target` that succeeds, the ledger is `ClearOf m.patterns
target`. -/
theorem unmountTarget (h : Accountable m a allowed) {V : Ledger} (hV : V.Coherent)
    (target : String) (lazily silent : Bool) :
    Ensures (a.At V) (m.teardown.unmount target lazily silent)
      (fun _ s => (a.ledger s).ClearOf m.patterns target ∧ a.Below V s) fun _ => a.Below V := by
  unfold Teardown.unmount Ledger.ClearOf
  by_cases hp : Teardown.isPattern target = true
  · simp only [if_pos hp]
    exact h.unmountMatching hV target lazily silent
  · simp only [if_neg hp]
    refine (h.unmountKey hV (.ofPath target) lazily silent).weaken ?_ fun _ _ hs => hs
    rintro _ s hs
    refine ⟨?_, hs.below (hV.erase _) (.erase V _)⟩
    rw [hs.1]
    exact V.free_erase _

/-- **An unmount keeps a ledger coherent** and enters nothing. If it succeeds, the ledger is
`ClearOf` what was typed, as `m.target typed` reads it. -/
theorem unmountTyped (h : Accountable m a allowed) {V : Ledger} (hV : V.Coherent) (typed : String)
    (lazily forGood : Bool) :
    Ensures (a.At V) (m.unmount typed lazily forGood)
      (fun _ s => (a.ledger s).ClearOf m.patterns (m.target typed) ∧ a.Below V s)
      fun _ => a.Below V := by
  have hbelow := Account.below_of_at (a := a) hV
  have hdisable : Ensures (a.At V) (m.disableRemount (m.target typed)) (fun _ => a.At V)
      fun _ => a.Below V := by
    unfold SessionManager.disableRemount
    refine Ensures.ite (fun _ => Ensures.refuse hbelow) fun _ => Ensures.inContext ?_
    exact Ensures.failing (h.uninstall V _) fun _ => hbelow
  have hunmount := h.unmountTarget hV (m.target typed) lazily false
  unfold SessionManager.unmount
  exact Ensures.ite (fun _ => hdisable.bind fun _ => hunmount) fun _ => hunmount

/-- **Everything.** Behind an `unmountAll` that succeeds, `table = []`. -/
theorem unmountAll (h : Accountable m a allowed) {V : Ledger} (hV : V.Coherent) (lazily : Bool) :
    Ensures (a.At V) (m.unmountAll lazily)
      (fun _ s => (a.ledger s).table = [] ∧ a.Below V s) fun _ => a.Below V := by
  have hbelow := Account.below_of_at (a := a) hV
  unfold SessionManager.unmountAll Teardown.unmountAll
  refine ((h.listed V).failing fun _ => hbelow).bind fun paths =>
    Ensures.of_fact ?_
  rintro rfl
  refine Ensures.ite (fun hnil => ?_) fun _ => ?_
  · refine Ensures.weaken (h.print V _) (fun _ s hs => ⟨?_, hbelow s hs⟩) fun _ => hbelow
    rw [hs.1]
    exact List.isEmpty_iff.1 hnil
  · -- the table holds no other path than those that were tried, as a ledger only shrinks
    have hsome := h.unmountSome (V := V) lazily true V.table
      (fun failures => do
        m.console.print (Numeral.decimal (V.table.length - failures.length) ++ " of "
          ++ Numeral.decimal V.table.length ++ " mounts were successfully unmounted")
        Teardown.outcome V.table.length failures)
      fun failures W _ => Ensures.bind (h.print W _) fun _ => outcome (a.At W) _ failures
    refine hsome.mono hbelow (fun _ s hs => ⟨?_, hs.2⟩) fun _ _ hs => hs
    rw [List.eq_nil_iff_forall_not_mem]
    exact fun p hp => hs.1 p (hs.2.1.table p hp) hp

end Accountable

end MountKeeper
