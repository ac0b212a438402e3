import MountKeeper.Proofs.Refusing
import MountKeeper.Proofs.Sessions.Books
import MountKeeper.Proofs.Sessions.Watched
import MountKeeper.Rehearsal.Worlds

/-! # What a refusal leaves behind

A request that is refused as not valid should leave everything as it was. It does, with one
exception: that a mount which is to come back needs a configuration file is found out only when the
session has been started, and the session is left running.

* `SessionManager.Decides`: no part of a platform but the manager itself decides what is refused.
* `SessionManager.Harmless`: a request has changed nothing.
* `SessionManager.LeavesRunning` is the exception, and `SessionManager.Decides.harmless_iff` says that
  it is the only one. -/

namespace MountKeeper

open Act (Ensures Keeps RefusesNothing RefusesInPlace Follows Told)

variable {σ V : Type}

/-- What follows an act that refuses nothing refuses nothing: both fail alike. -/
theorem Act.Follows.refusesNothing {α ε : Type} {a : Act σ α} {b : Act (Traced σ ε) α}
    (h : Follows b a) (ha : RefusesNothing a) : RefusesNothing b := by
  obtain ⟨w, h⟩ := h
  refine ⟨fun t _ => ?_⟩
  have hfailure := ha.ensures t.host trivial
  rw [h t]
  rcases hrun : a.runOn t.host with ⟨r, s'⟩
  rw [hrun] at hfailure
  cases r <;> exact hfailure

namespace SessionManager

/-- The manager decides what is refused: the parts of its platform refuse nothing, except that a
mount need not be one that comes back, and then nothing has changed. `view` is what the records, the
mounts and the remount artifacts of a host are. -/
structure Decides (m : SessionManager σ) (view : σ → V) : Prop where
  list : ∀ v, Ensures (fun s => view s = v) m.books.mounts.list (fun _ s => view s = v)
    fun f _ => ¬ f.IsRefusal
  isDisconnected : ∀ key, RefusesNothing (m.books.mounts.isDisconnected key)
  isAlive : ∀ pid, RefusesNothing (m.books.processes.isAlive pid)
  unregister : ∀ key, RefusesNothing (m.books.registry.unregister key)
  detach : ∀ path lazily, RefusesNothing (m.books.unmounter.unmount path lazily)
  start : ∀ session options, RefusesNothing (m.supervisor.start session options)
  stop : ∀ session, RefusesNothing (m.supervisor.stop session)
  install : ∀ record, RefusesNothing (m.remount.install record)
  uninstall : ∀ key, RefusesInPlace view (m.remount.uninstall key)
  print : ∀ line, RefusesNothing (m.console.print line)

namespace Decides

variable {m : SessionManager σ} {view : σ → V}

/-! ## Parts that refuse nothing -/

/-- `list` refuses nothing, as one part of what `Decides` says of it. -/
theorem refusesNothing_list (h : m.Decides view) : RefusesNothing m.books.mounts.list :=
  ⟨fun s _ => (h.list (view s)).weaken (fun _ _ _ => trivial) (fun _ _ hf => hf) s rfl⟩

/-- `isMounted key` refuses nothing: it asks for the list and looks into it. -/
theorem isMounted (h : m.Decides view) (key : SessionKey) :
    RefusesNothing (m.books.mounts.isMounted key) :=
  h.refusesNothing_list.bind fun _ => .pure _

/-- `reconcile key` refuses nothing: that a record cannot be read or a mount not be taken away is
passed over. -/
theorem reconcile (h : m.Decides view) (key : SessionKey) :
    RefusesNothing (m.books.reconcile key) := by
  have hforget : RefusesNothing (m.books.forget key) := (RefusesNothing.attempt _).bind fun _ => .pure _
  have hrecord : RefusesNothing (m.books.readableRecord key) := by
    refine (RefusesNothing.attempt _).bind fun found => ?_
    cases found with
    | ok record => exact .pure _
    | error f => exact hforget.bind fun _ => .pure _
  -- only a process is asked for, and asking refuses nothing
  have htaken (mounted : Bool) (record : Option Session) :
      RefusesNothing (m.books.isTaken key mounted record) := by
    cases record with
    | none => exact .ite ((h.isDisconnected key).bind fun _ => .pure _) (.pure _)
    | some record =>
      obtain ⟨key, config, owner, state⟩ := record
      cases owner with
      | process pid => exact h.isAlive pid
      | service name => exact .pure _
  have hclear (record : Option Session) (mounted : Bool) :
      RefusesNothing (m.books.clearAway key record mounted) := by
    have hrest : RefusesNothing (if record.isSome then m.books.forget key else pure ()) :=
      .ite hforget (.pure _)
    exact .ite ((RefusesNothing.attempt _).bind fun _ => hrest) hrest
  refine hrecord.bind fun record => (h.isMounted key).bind fun mounted => ?_
  exact (htaken mounted record).bind fun taken =>
    .ite (.pure _) ((hclear record mounted).bind fun _ => .pure _)

/-- `unmountKey key lazily silent` refuses nothing. That nothing is mounted is a failure of another
kind. -/
theorem unmountKey (h : m.Decides view) (key : SessionKey) (lazily silent : Bool) :
    RefusesNothing (m.teardown.unmountKey key lazily silent) := by
  have hdetach : RefusesNothing (m.teardown.detach key lazily) :=
    ((h.detach _ _).inContext _).bind fun _ => (RefusesNothing.attempt _).bind fun _ => .pure _
  -- that nothing is mounted is an error of another kind than a refusal
  have hstop (record : Option Session) : RefusesNothing (m.teardown.stopUnmounted key record) := by
    cases record with
    | none => exact .refuse nofun
    | some record =>
      have halive : RefusesNothing (m.teardown.ownerAlive record) := by
        obtain ⟨key, config, owner, state⟩ := record
        cases owner with
        | process pid => exact h.isAlive pid
        | service name => exact .pure _
      refine halive.bind fun alive => .ite ((h.stop _).inContext _) ?_
      exact (h.unregister key).bind fun _ => .refuse nofun
  have hsay (a : Act σ Unit) (ha : RefusesNothing a) : RefusesNothing (a >>= fun _ =>
      if (!silent) = true then m.console.print s!"Successfully unmounted {key.text}" else pure ()) :=
    ha.bind fun _ => .ite (h.print _) (.pure _)
  refine (RefusesNothing.attempt _).bind fun record => (h.isMounted key).bind fun mounted => ?_
  exact .ite (hsay _ hdetach) (hsay _ (hstop _))

/-- `unmountEach` refuses nothing, whatever the parts do: each path is attempted. -/
theorem unmountEach (m : SessionManager σ) (lazily silent : Bool) (paths : List String) :
    RefusesNothing (m.teardown.unmountEach lazily silent paths) := by
  induction paths with
  | nil => exact .pure _
  | cons path rest ih =>
    refine (RefusesNothing.attempt _).bind fun result => ih.bind fun failures => ?_
    cases result with
    | ok _ => exact .pure _
    | error f => exact .pure _

/-- `outcome total failures` refuses nothing: that some of a batch failed is a failure of another
kind. -/
theorem outcome (total : Nat) (failures : List String) :
    RefusesNothing (Teardown.outcome (σ := σ) total failures) :=
  .ite (.pure _) (.refuse nofun)

/-- A target that `m.patterns` reads as a pattern is not refused. -/
theorem unmountMatching (h : m.Decides view) {target : String} {selects : String → Bool}
    (hread : m.patterns target = .ok selects) (lazily silent : Bool) :
    RefusesNothing (m.teardown.unmountMatching target lazily silent) := by
  have hread' : m.teardown.patterns target = .ok selects := hread
  unfold Teardown.unmountMatching
  rw [hread']
  refine (h.refusesNothing_list.inContext _).bind fun paths => ?_
  have hrest := (unmountEach m lazily silent (paths.filter selects)).bind
    fun failures => outcome (σ := σ) (paths.filter selects).length failures
  exact .ite ((RefusesNothing.refuse (e := .notMounted target) nofun).bind fun _ => hrest) hrest

/-- `unmountAll lazily` refuses nothing. -/
theorem unmountAll (h : m.Decides view) (lazily : Bool) : RefusesNothing (m.unmountAll lazily) := by
  refine (h.refusesNothing_list.inContext _).bind fun paths => .ite (h.print _) ?_
  refine (unmountEach m lazily true paths).bind fun failures => (h.print _).bind fun _ => ?_
  exact outcome _ _

/-- `enableRemount key options` refuses nothing where there is a configuration file. -/
theorem enableRemount (h : m.Decides view) (key : SessionKey) {options : MountOptions}
    {config : String} (hconfig : options.configPath = some config) :
    RefusesNothing (m.enableRemount key options) := by
  unfold SessionManager.enableRemount
  rw [hconfig]
  exact ((h.install _).inContext _).bind fun name => h.print _

end Decides

end SessionManager

/-! ## Mounts -/

/-- `c.Clears key`: the call forgets the record of `key`, or takes its mount away lazily. This is
how a dead session is cleared away. -/
def ManagerCall.Clears (key : SessionKey) : ManagerCall → Prop
  | .unregister k => k = key
  | .detach path lazily => path = key.text ∧ lazily = true
  | _ => False

/-- Nothing was called but what clears a key. -/
def OnlyClears (key : SessionKey) (calls : List ManagerCall) : Prop :=
  ∀ c ∈ calls, c.Clears key

/-- No call at all clears only `key`. -/
theorem OnlyClears.nil (key : SessionKey) : OnlyClears key [] :=
  fun _ hc => absurd hc List.not_mem_nil

/-- One call more that clears `key` leaves it at that. -/
theorem OnlyClears.append {key : SessionKey} {calls : List ManagerCall} {c : ManagerCall}
    (h : OnlyClears key calls) (hc : c.Clears key) : OnlyClears key (calls ++ [c]) := by
  intro c' hc'
  rcases List.mem_append.1 hc' with hc' | hc'
  · exact h c' hc'
  · rw [List.mem_singleton.1 hc']
    exact hc

/-- A session was started at a key, behind nothing but what clears the key. -/
def EndsInStart (key : SessionKey) (calls : List ManagerCall) : Prop :=
  ∃ cleared session, calls = cleared ++ [.start session] ∧ OnlyClears key cleared ∧
    session.key = key

/-- **To reconcile a key clears nothing else**: `b.watched.reconcile key` calls nothing but what
clears `key`. -/
theorem Bookkeeping.keeps_reconcile (b : Bookkeeping σ) (key : SessionKey) :
    Keeps (fun t => OnlyClears key t.trace) (b.watched.reconcile key) := by
  have hkeeping : b.watched.Keeping key fun t => OnlyClears key t.trace := {
    lookup := Act.keeps_unseen _ _
    unregister := Act.ensures_trace (fun _ hT => hT.append rfl) _
    list := Act.keeps_unseen _ _
    isDisconnected := Act.keeps_unseen _ _
    isAlive := fun _ => Act.keeps_unseen _ _
    unmount := Act.ensures_trace (fun _ hT => hT.append ⟨rfl, rfl⟩) _ }
  exact hkeeping.reconcile

namespace SessionManager

/-- What is missing from a mount that is to come back without a configuration file. -/
def configNeeded : Failure :=
  .ofSession (.validation "remount on restart needs a config file")

/-- A mount leaves a session running that it was refused for: it was to come back, has no
configuration file, and was started before that was found out. -/
def LeavesRunning (options : MountOptions) (f : Failure) (calls : List ManagerCall) : Prop :=
  (wantsRemount options = true ∧ options.foreground = false ∧ options.configPath = none) ∧
    f = configNeeded ∧ EndsInStart (.ofPath options.mountPath) calls

namespace Decides

variable {m : SessionManager σ} {view : σ → V}

/-- `m.watched.validate options` calls nothing and changes nothing. A mount that it lets pass and
that is to come back is one in the background. -/
theorem validate (h : m.Decides view) (v : V) (options : MountOptions) :
    Ensures (Told (fun s => view s = v) []) (m.watched.validate options)
      (fun _ t => (wantsRemount options = true → options.foreground = false) ∧
        Told (fun s => view s = v) [] t)
      fun f t => f.IsRefusal → Told (fun s => view s = v) [] t := by
  have hrequest : Ensures (Told (fun s => view s = v) []) (checkRequest options)
      (fun _ t => (wantsRemount options = true → options.foreground = false) ∧
        Told (fun s => view s = v) ([] : List ManagerCall) t)
      fun f t => f.IsRefusal → Told (fun s => view s = v) [] t := by
    unfold checkRequest
    refine Ensures.ite (fun _ => Ensures.refuse fun _ ht _ => ht) fun hno => ?_
    exact Ensures.pure fun _ ht => ⟨fun hwants => by simpa [hwants] using hno, ht⟩
  have hmounted : Ensures (Told (fun s => view s = v) [])
      (m.watched.books.mounts.isMounted (.ofPath options.mountPath))
      (fun _ => Told (fun s => view s = v) []) fun f t => f.IsRefusal → Told (fun s => view s = v) [] t := by
    refine Ensures.bind (((h.list v).unseen []).failing fun f t ht hf => absurd hf ht.1) fun paths => ?_
    exact Ensures.pure fun _ ht => ht
  unfold SessionManager.validate
  -- the checks come in order, and none of them has changed the host when the next one is made
  refine hrequest.bind fun _ => Ensures.of_fact fun hforeground => hmounted.bind fun mounted => ?_
  refine Ensures.ite (fun _ => Ensures.pure fun _ ht => ⟨hforeground, ht⟩) fun _ => ?_
  refine Ensures.bind (Q := fun _ => Told (fun s => view s = v) []) (Ensures.look fun _ ht => ht)
    fun t => ?_
  exact Ensures.ofExcept (fun _ _ _ ht => ⟨hforeground, ht⟩) fun _ _ _ ht _ => ht

/-- `reconcile` on the watched platform refuses nothing, and calls nothing but what clears its key.
-/
theorem reconcile_watched (h : m.Decides view) (key : SessionKey) :
    Ensures (fun t => OnlyClears key t.trace) (m.watched.books.reconcile key)
      (fun _ t => OnlyClears key t.trace) fun f _ => ¬ f.IsRefusal :=
  Ensures.refusingNothing (m.books.keeps_reconcile key)
    ((follows_reconcile m.books key).refusesNothing (h.reconcile key))

/-- `start session options` on the watched platform refuses nothing, and stands in the trace behind
what clears the key. -/
theorem start_watched (h : m.Decides view) (key : SessionKey) (session : Session)
    (hsession : session.key = key) (options : MountOptions) :
    Ensures (fun t => OnlyClears key t.trace)
      (Act.inContext "failed to mount" (m.watched.supervisor.start session options))
      (fun _ t => EndsInStart key t.trace) fun f _ => ¬ f.IsRefusal := by
  have hcall : Ensures (fun t => OnlyClears key t.trace) (m.watched.supervisor.start session options)
      (fun _ t => EndsInStart key t.trace) fun _ t => EndsInStart key t.trace :=
    Act.ensures_trace (fun T hT => ⟨T, session, rfl, hT, hsession⟩) _
  have hfollows := Follows.seen (ManagerCall.start session) (m.supervisor.start session options)
  exact (Ensures.inContext (E := fun _ t => EndsInStart key t.trace) hcall).refusingNothing
    ((hfollows.refusesNothing (h.start session options)).inContext _)

/-- Behind a start, `enableRemount` refuses a mount for a missing configuration file and for nothing
else, so that a refusal leaves the session running. -/
theorem enableRemount_watched (h : m.Decides view) {options : MountOptions}
    (hwants : wantsRemount options = true) (hforeground : options.foreground = false) :
    Ensures (fun t => EndsInStart (.ofPath options.mountPath) t.trace)
      (m.watched.enableRemount (.ofPath options.mountPath) options)
      (fun _ _ => options.configPath ≠ none)
      fun f t => f.IsRefusal → LeavesRunning options f t.trace := by
  cases hconfig : options.configPath with
  | none =>
    unfold SessionManager.enableRemount
    rw [hconfig]
    exact Ensures.refuse fun t ht _ => ⟨⟨hwants, hforeground, hconfig⟩, rfl, ht⟩
  | some config =>
    have hremount := (m.follows_enableRemount (.ofPath options.mountPath) options).refusesNothing
      (h.enableRemount _ hconfig)
    exact hremount.ensures.mono (fun _ _ => trivial) (fun _ _ _ => by simp)
      fun f t hf hrefusal => absurd hrefusal hf

/-- **A mount** that is refused has called nothing and changed nothing, or leaves its session
running. One that was to come back without a configuration file never succeeds with a session. -/
theorem mount (h : m.Decides view) (v : V) (options : MountOptions) :
    Ensures (Told (fun s => view s = v) []) (m.watched.mount options)
      (fun started _ => wantsRemount options = true → options.configPath = none →
        goesOn started = false)
      fun f t => f.IsRefusal →
        Told (fun s => view s = v) [] t ∨ LeavesRunning options f t.trace := by
  let key := SessionKey.ofPath options.mountPath
  unfold SessionManager.mount
  refine ((h.validate v options).failing fun _ _ hf hrefusal => .inl (hf hrefusal)).bind fun _ => ?_
  refine Ensures.of_fact fun hforeground => ?_
  -- from here on only the trace counts: nothing is refused any more but the remount
  have hreconcile : Ensures (Told (fun s => view s = v) []) (m.watched.books.reconcile key)
      (fun _ t => OnlyClears key t.trace) fun f _ => ¬ f.IsRefusal :=
    (h.reconcile_watched key).mono (fun t ht => ht.2 ▸ OnlyClears.nil key) (fun _ _ ht => ht)
      fun _ _ hf => hf
  refine (hreconcile.failing fun f _ hf hrefusal => absurd hrefusal hf).bind fun found => ?_
  cases found with
  | alreadyMounted => exact Ensures.refuse fun _ _ hrefusal => nomatch hrefusal
  | proceed =>
    refine Ensures.bind (Q := fun _ t => OnlyClears key t.trace) (Ensures.look fun _ ht => ht)
      fun t => ?_
    refine ((h.start_watched key _ rfl options).failing fun f _ hf hrefusal =>
      absurd hrefusal hf).bind fun started => ?_
    refine Ensures.ite (fun hgoes => ?_) fun hends => Ensures.pure fun _ _ hwants _ => ?_
    · rw [Bool.and_eq_true] at hgoes
      have hremount := h.enableRemount_watched hgoes.2 (hforeground hgoes.2)
      refine (hremount.failing fun f _ hf hrefusal => .inr (hf hrefusal)).bind fun _ => ?_
      exact Ensures.pure fun _ hconfig _ hnone => absurd hnone hconfig
    · simpa [hwants] using hends

/-! ## Unmounts -/

/-- What is left of a host by an unmount that was refused: nothing has changed, and nothing was called
but to keep a mount from coming back. -/
def Untouched (view : σ → V) (v : V) (t : Traced σ ManagerCall) : Prop :=
  view t.host = v ∧ ∀ c ∈ t.trace, ∃ key, c = .uninstall key

/-- Where `view` is `v` and nothing was called, the host is untouched. -/
theorem untouched_of_told {v : V} {t : Traced σ ManagerCall}
    (ht : Told (fun s => view s = v) [] t) : Untouched view v t := by
  refine ⟨ht.1, fun c hc => ?_⟩
  rw [ht.2] at hc
  exact absurd hc List.not_mem_nil

/-- An act that refuses nothing leaves nothing to be said about its refusals: any precondition will
do. -/
theorem untouched_of_refusesNothing {a : Act (Traced σ ManagerCall) Unit} (ha : RefusesNothing a)
    (P : Traced σ ManagerCall → Prop) (v : V) :
    Ensures P a (fun _ _ => True) fun f t => f.IsRefusal → Untouched view v t :=
  ha.ensures.mono (fun _ _ => trivial) (fun _ _ ht => ht) fun _ _ hf hrefusal => absurd hrefusal hf

/-- `unmount target` on the watched platform refuses no path. -/
theorem unmountPath_watched (h : m.Decides view) {target : String} (lazily : Bool)
    (hpath : ¬ Teardown.isPattern target = true) :
    RefusesNothing (m.watched.teardown.unmount target lazily false) := by
  unfold Teardown.unmount
  rw [if_neg hpath]
  exact (m.followed_watched.unmountKey _ lazily false).refusesNothing (h.unmountKey _ lazily false)

/-- `unmount target` refuses a pattern when `m.patterns` reads none from it, which is before
anything else. -/
theorem unmountPattern_watched (h : m.Decides view) (v : V) {target : String} (lazily : Bool)
    (hpattern : Teardown.isPattern target = true) :
    Ensures (Told (fun s => view s = v) []) (m.watched.teardown.unmount target lazily false)
      (fun _ _ => True) fun f t => f.IsRefusal → Untouched view v t := by
  unfold Teardown.unmount
  rw [if_pos hpattern]
  cases hread : m.patterns target with
  | error reason =>
    have hread' : m.watched.teardown.patterns target = .error reason := hread
    unfold Teardown.unmountMatching
    rw [hread']
    exact Ensures.refuse fun _ ht _ => untouched_of_told ht
  | ok selects =>
    exact untouched_of_refusesNothing ((m.followed_watched.unmountMatching _ lazily false).refusesNothing
      (h.unmountMatching hread lazily false)) _ v

/-- `disableRemount target` refuses a pattern, or is refused by the installer. Either has changed
nothing. -/
theorem disableRemount_watched (h : m.Decides view) (v : V) (target : String) :
    Ensures (Told (fun s => view s = v) []) (m.watched.disableRemount target)
      (fun _ _ => ¬ Teardown.isPattern target = true)
      fun f t => f.IsRefusal → Untouched view v t := by
  refine Ensures.ite (fun _ => Ensures.refuse fun _ ht _ => untouched_of_told ht) fun hpath => ?_
  refine Ensures.inContext ((((h.uninstall _).ensures v).seen _ []).weaken (fun _ _ _ => hpath) ?_)
  intro f t ht hrefusal
  refine ⟨ht.1 hrefusal, fun c hc => ⟨.ofPath target, ?_⟩⟩
  rw [ht.2] at hc
  exact List.mem_singleton.1 hc

/-- **An unmount** that is refused has changed nothing, and called nothing but to keep the mount from
coming back, which was refused itself. -/
theorem unmount (h : m.Decides view) (v : V) (typed : String) (lazily forGood : Bool) :
    Ensures (Told (fun s => view s = v) []) (m.watched.unmount typed lazily forGood)
      (fun _ _ => True) fun f t => f.IsRefusal → Untouched view v t := by
  unfold SessionManager.unmount
  refine Ensures.ite (fun _ => ?_) fun _ => ?_
  · refine (h.disableRemount_watched v (m.target typed)).bind fun _ => ?_
    intro t hpath
    exact untouched_of_refusesNothing (h.unmountPath_watched lazily hpath) (fun _ => True) v t trivial
  · by_cases hpattern : Teardown.isPattern (m.target typed) = true
    · exact h.unmountPattern_watched v lazily hpattern
    · exact untouched_of_refusesNothing (h.unmountPath_watched lazily hpattern) _ v

end Decides

/-! ## Requests -/

/-- A request has changed nothing: the records, the mounts and the remount artifacts are as they
were, no session was started or stopped, and nothing was unmounted. It may have been asked not to
bring a mount back. -/
def Harmless (m : SessionManager σ) (view : σ → V) (r : SessionRequest) (s : σ) : Prop :=
  view ((r.act m).runOn s).2 = view s ∧ ∀ c ∈ m.calls r s, ∃ key, c = .uninstall key

/-- **A refused request is harmless** if and only if it is not a mount that leaves its session
running. Those are the mounts of `LeavesRunning`: they were to come back, had no configuration file,
and were started. -/
theorem Decides.harmless_iff {m : SessionManager σ} {view : σ → V} (h : m.Decides view)
    {r : SessionRequest} {s s' : σ} {f : Failure} (hrun : (r.act m).runOn s = (.error f, s'))
    (hf : f.IsRefusal) :
    m.Harmless view r s ↔ ¬ ∃ options, r = .mount options ∧ LeavesRunning options f (m.calls r s) := by
  -- the watched request ends in the same way
  obtain ⟨T, hwatched⟩ := (r.follows m).runOn_eq hrun []
  have hcalls : m.calls r s = T := by
    unfold calls
    rw [hwatched]
  have hstart : Told (fun x => view x = view s) [] (⟨s, []⟩ : Traced σ ManagerCall) := ⟨rfl, rfl⟩
  unfold Harmless
  rw [hrun, hcalls]
  constructor
  · rintro ⟨-, hT⟩ ⟨options, -, -, -, cleared, session, rfl, -⟩
    -- a start is no call that keeps a mount from coming back
    obtain ⟨key, hkey⟩ := hT (.start session) (by simp)
    exact absurd hkey (by simp)
  · intro hno
    cases r with
    | mount options =>
      have hmount : Ensures (Told (fun x => view x = view s) [])
          (SessionRequest.act m.watched (.mount options)) (fun _ _ => True)
          fun f t => f.IsRefusal → Told (fun x => view x = view s) [] t ∨
            LeavesRunning options f t.trace :=
        Ensures.bind (h.mount (view s) options) fun _ => Ensures.pure fun _ _ => trivial
      rcases hmount.of_error hstart hwatched hf with hquiet | hrunning
      · exact untouched_of_told hquiet
      · exact absurd ⟨options, rfl, hrunning⟩ hno
    | unmount typed lazily forGood =>
      exact (h.unmount (view s) typed lazily forGood).of_error hstart hwatched hf
    | unmountAll lazily =>
      exact absurd hf ((h.unmountAll lazily).ensures.of_error trivial hrun)

end SessionManager

/-! ## A host -/

namespace Rehearsal.Host

/-- `note event` writes into the journal, and does not fail. -/
theorem refusesNothing_note (event : String) : RefusesNothing (note event) := .change _

/-- `failIf reason` fails with a plain text, if it does. -/
theorem refusesNothing_failIf (reason : Option String) : RefusesNothing (failIf reason) := by
  cases reason with
  | none => exact .pure _
  | some text => exact .failText text

/-- `(tableRunner table).run program args` refuses nothing: the outcomes of `Programs` are of other
kinds. -/
theorem refusesNothing_run (table program : String) (args : List String) :
    RefusesNothing ((tableRunner table).run program args) := by
  -- whatever is laid down for a call, its failure is that of a program
  have houtcome (programs : Programs) (call : String) (f : Failure)
      (hf : outcomeOf programs program call = .error f) : ¬ f.IsRefusal := by
    unfold outcomeOf at hf
    split at hf
    · rw [← Except.error.inj hf]
      exact fun h => nomatch h
    · split at hf
      · rename_i outcome _
        cases outcome <;> simp only [resultOf, reduceCtorEq, Except.error.injEq] at hf <;>
          (subst hf; exact fun h => nomatch h)
      · exact absurd hf (by simp)
  have hdrop : RefusesNothing (dropLines table (args.getLastD "")) :=
    (RefusesNothing.query _).bind fun text => .update _
  have hrun : RefusesNothing (runner.run program args) := by
    refine RefusesNothing.look.bind fun h => (refusesNothing_note _).bind fun _ => ?_
    exact .ofExcept (houtcome h.programs _)
  exact hrun.bind fun output => .ite ((hdrop.on _).bind fun _ => .pure _) (.pure _)

/-- `endProcess verb kept pid` fails with a plain text, if it does. -/
theorem refusesNothing_endProcess (verb : String) (kept : Processes → List UInt32) (pid : UInt32) :
    RefusesNothing (endProcess verb kept pid) :=
  (refusesNothing_note _).bind fun _ => RefusesNothing.look.bind fun _ =>
    .ite (.failText _) (.change _)

/-- The parts of `localSupervisor` refuse nothing that a supervisor asks of them. -/
theorem obliging_localSupervisor (surroundings : Surroundings) (l : Layout) :
    (localSupervisor surroundings (pidFiles l)).Obliging where
  register session pid h := (PidFiles.refusesNothing_register h l.work).on _
  unregister key := (PidFiles.refusesNothing_unregister l.work key).on _
  isAlive pid := RefusesNothing.look.bind fun _ => .pure _
  terminate pid := refusesNothing_endProcess _ _ pid
  watch := .change _
  arrived := RefusesNothing.look.bind fun _ => (RefusesNothing.change _).bind fun _ => .pure _
  build options := by
    refine Ensures.bind (RefusesNothing.look).ensures fun h => ?_
    refine Ensures.bind (refusesNothing_failIf _).ensures fun _ => ?_
    refine Ensures.bind (RefusesNothing.change _).ensures fun _ => ?_
    refine Ensures.pure fun _ _ => ⟨⟨?_, ?_, ?_⟩, trivial⟩
    · refine (refusesNothing_note _).bind fun _ => RefusesNothing.look.bind fun h => ?_
      refine (refusesNothing_failIf _).bind fun _ => ?_
      split
      · exact ((RefusesNothing.update _).on _).bind fun _ => .change _
      · exact .change _
    · exact RefusesNothing.look.bind fun _ => .ite
        ((refusesNothing_note _).bind fun _ => (RefusesNothing.change _).bind fun _ => .pure _)
        ((RefusesNothing.change _).bind fun _ => .pure _)
    · exact (refusesNothing_note _).bind fun _ => RefusesNothing.look.bind fun _ =>
        refusesNothing_failIf _

/-- `startInBackground` refuses nothing: the owner of the session that it records is a process. -/
theorem refusesNothing_startInBackground (l : Layout) (session : Session) :
    RefusesNothing (startInBackground l (pidFiles l) session) := by
  unfold startInBackground
  refine RefusesNothing.look.bind fun h => ?_
  have hregister (pid : UInt32) : RefusesNothing
      ((pidFiles l).register { session with owner := .process pid }) :=
    (PidFiles.refusesNothing_register rfl l.work).on diskPart
  have hline : RefusesNothing (addLine l.table session.key) :=
    (RefusesNothing.query _).bind fun text => .update _
  refine .ite (RefusesNothing.bind (.failText _) fun _ => ?_) ?_
  all_goals
    refine (RefusesNothing.change _).bind fun _ => (hregister _).bind fun _ => ?_
    exact (RefusesNothing.change _).bind fun _ => (hline.on _).bind fun _ => .pure _

/-- `startDaemon` refuses nothing, in the process that waits as in the one that serves. -/
theorem refusesNothing_startDaemon (surroundings : Surroundings) (l : Layout) (session : Session)
    (options : MountOptions) : RefusesNothing
      (startDaemon l (localSupervisor surroundings (pidFiles l)) session options) := by
  unfold startDaemon
  refine ((obliging_localSupervisor surroundings l).unregister _).bind fun _ => ?_
  refine RefusesNothing.look.bind fun h => ?_
  rcases daemonLife (localSupervisor surroundings (pidFiles l)) session options h with ⟨words, after⟩
  refine (RefusesNothing.change _).bind fun _ => ?_
  -- the looks of a rehearsal always know whether the daemon has ended
  have hwait (looks : List Readiness.Look) (h : ∀ look ∈ looks, ∃ status, look.ended = .ok status) :
      RefusesNothing ((Readiness.waitFor "CHILD" (Path.join l.scratch "cloudfuse.daemon") looks).on
        diskPart) := by
    refine (Readiness.refusesNothing_waitFor _ _ fun look hlook f hf => ?_).on _
    obtain ⟨status, hstatus⟩ := h look hlook
    exact absurd (hf.symm.trans hstatus) (by simp)
  cases words with
  | none => exact (hwait _ (by simp)).bind fun _ => .pure _
  | some text =>
    refine ((RefusesNothing.update _).on _).bind fun _ => ?_
    exact (hwait _ (by simp)).bind fun _ => .pure _

/-- `localStarts` refuses nothing, in any of the ways to serve. -/
theorem refusesNothing_localStarts (surroundings : Surroundings) (l : Layout) (daemons : Bool)
    (session : Session) (options : MountOptions) : RefusesNothing
      ((localStarts l daemons (localSupervisor surroundings (pidFiles l))).start session options) :=
  .ite ((obliging_localSupervisor surroundings l).serveHere session options (.pure _)) <|
    .ite (refusesNothing_startDaemon surroundings l session options)
      (refusesNothing_startInBackground l session)

/-- **A local platform refuses nothing by itself**: `localManager` decides what is refused, where
`view` is the whole disk. -/
theorem decides_localManager (surroundings : Surroundings) (l : Layout) (daemons : Bool) :
    (localManager surroundings l daemons).Decides fun h => h.disk where
  list d := by
    rintro h rfl
    have hrun : (localManager surroundings l daemons).books.mounts.list.runOn h
        = (MountTable.readTable l.table h.disk, h) := rfl
    rw [hrun]
    unfold MountTable.readTable
    cases h.disk.readText l.table with
    | ok text => rfl
    | error e => exact Failure.not_isRefusal_ofOs e
  isDisconnected key := (RefusesNothing.pure _).on _
  isAlive pid := RefusesNothing.look.bind fun _ => .pure _
  unregister key := (PidFiles.refusesNothing_unregister l.work key).on _
  detach path lazily := UnmountTools.refusesNothing_unmount (refusesNothing_run l.table) _ path lazily
  start session options := (refusesNothing_note _).bind fun _ => refusesNothing_localStarts _ _ _ _ _
  stop session := (refusesNothing_note _).bind fun _ =>
    (obliging_localSupervisor surroundings l).stop session
  install record := Systemd.refusesNothing_install (refusesNothing_run l.table) record
  uninstall key :=
    let units : Systemd Host :=
      { disk := diskPart, runner := tableRunner l.table, unitDir := l.units, passwd := l.passwd }
    Systemd.refusesInPlace_uninstall (s := units) (refusesNothing_run l.table) key
  print line := .change _

/-- A host with an empty directory `/mnt/a`. -/
def emptyDirectory : Host where
  surroundings := ⟨"/home/u", "/"⟩
  disk := { nodes := [(["mnt"], .directory), (["mnt", "a"], .directory), (["work"], .directory),
    (["mtab"], .file ByteArray.empty)] }

/-- The manager of that host. -/
def directoryManager : SessionManager Host :=
  localManager emptyDirectory.surroundings (.under "/") false

/-- A mount in the background that is to come back after a restart, without a configuration file. -/
def unconfigured (path : String) : MountOptions where
  mountPath := path
  configPath := none
  foreground := false
  nonempty := false
  fuseOptions := []
  workDir := "/work"
  waitForMount := .ofSeconds 5
  remount := { system := true }
  config := {}

/-- The refusal to mount at a directory that does not exist. -/
def directoryMissing : Failure :=
  .ofSession (.validation "mount directory /mnt/b does not exist")

/-- `harmless_iff` at a mount on a directory that is missing: it is refused in time, and is
harmless. -/
theorem harmless_iff_missingDirectory :
    directoryManager.Decides (fun h => h.disk) ∧
    ((SessionRequest.mount (unconfigured "/mnt/b")).act directoryManager).runOn emptyDirectory
      = (.error directoryMissing,
        (((SessionRequest.mount (unconfigured "/mnt/b")).act directoryManager).runOn
          emptyDirectory).2) ∧
    directoryMissing.IsRefusal ∧
    directoryManager.Harmless (fun h => h.disk) (.mount (unconfigured "/mnt/b")) emptyDirectory := by
  have hdecides : directoryManager.Decides fun h => h.disk := decides_localManager _ _ _
  have hrun := Act.runOn_of_failure?
    (a := (SessionRequest.mount (unconfigured "/mnt/b")).act directoryManager) (s := emptyDirectory)
    (f := directoryMissing) (by decide +kernel)
  refine ⟨hdecides, hrun, by decide, ?_⟩
  refine (hdecides.harmless_iff hrun (by decide)).2 ?_
  rintro ⟨options, -, -, hneeded, -⟩
  exact absurd hneeded (by decide)

/-- At a directory that is there, the same mount is refused when its session has been started, and
leaves it running. -/
theorem not_harmless_emptyDirectory :
    Act.failure? (((SessionRequest.mount (unconfigured "/mnt/a")).act directoryManager).runOn
      emptyDirectory).1 = some SessionManager.configNeeded ∧
    SessionManager.configNeeded.IsRefusal ∧
    ¬ directoryManager.Harmless (fun h => h.disk) (.mount (unconfigured "/mnt/a"))
      emptyDirectory := by
  refine ⟨by decide +kernel, by decide, ?_⟩
  rintro ⟨-, hcalls⟩
  have hstarted : directoryManager.calls (.mount (unconfigured "/mnt/a")) emptyDirectory
      = [.start ⟨.ofPath "/mnt/a", none, .process emptyDirectory.self, .starting⟩] := by
    decide +kernel
  obtain ⟨key, hkey⟩ := hcalls _ (hstarted ▸ List.mem_singleton_self _)
  exact absurd hkey (by simp)

end Rehearsal.Host

end MountKeeper
