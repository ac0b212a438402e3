import MountKeeper.Proofs.Sessions.Harmless
import Mathlib.Data.List.Induction

/-! # One directory, several spellings

The records, the mounts and the processes of a session are looked up by its key, so that a path that
is served is refused to a second mount under every spelling that has the same key. A key forgives the
kind of a slash and the slashes at the end of a path. It does not look at the names on the way: a
doubled slash inside of a path makes another key.

* `SessionKey.SpelledAlike` says without keys which spellings have the same one, by
  `SessionKey.ofPath_eq_iff`.
* `SessionManager.Serving` is a path that is served, and `SessionManager.Vacant` a mount that nothing
  stands in the way of.
* `SessionManager.Serving.refuses_spelledAlike`: a mount under a spelling alike is refused and calls
  for nothing. `SessionManager.Vacant.start_mem_calls`: a vacant one is started, whatever other path
  means the same directory. -/

namespace MountKeeper

open Act (Ensures Keeps)

variable {σ : Type}

/-! ## Spellings with the same key -/

namespace SessionKey

/-- Two paths are the same text but for the slashes at their ends, when every backslash is read as a
slash. -/
def SpelledAlike (p q : String) : Prop :=
  ∃ stem i j, p.toList.map forward = stem ++ List.replicate i '/' ∧
    q.toList.map forward = stem ++ List.replicate j '/'

/-- `dropSlashes` drops any number of slashes from the end. -/
theorem dropSlashes_append_replicate (cs : List Char) (n : Nat) :
    dropSlashes (cs ++ List.replicate n '/') = dropSlashes cs := by
  induction n with
  | zero => rw [List.replicate_zero, List.append_nil]
  | succ n ih =>
    -- the slash that goes first is the last one of the block
    rw [List.replicate_succ', ← List.append_assoc, ← ih, dropSlashes, List.reverse_append,
      List.reverse_singleton, List.singleton_append, List.dropWhile_cons_of_pos (by rfl)]
    rfl

/-- A text is `dropSlashes` of it, and slashes behind that. -/
theorem exists_append_replicate (cs : List Char) :
    ∃ n, cs = dropSlashes cs ++ List.replicate n '/' := by
  -- from the end, where the slashes are
  induction cs using List.reverseRecOn with
  | nil => exact ⟨0, rfl⟩
  | append_singleton front c ih =>
    by_cases hc : c = '/'
    · obtain ⟨n, hn⟩ := ih
      have hdrop : dropSlashes (front ++ ['/']) = dropSlashes front :=
        dropSlashes_append_replicate front 1
      refine ⟨n + 1, ?_⟩
      rw [hc, hdrop, List.replicate_succ', ← List.append_assoc, ← hn]
    · have hlast : (front ++ [c]).getLast? ≠ some '/' := by simpa using hc
      refine ⟨0, ?_⟩
      rw [dropSlashes_of_getLast? hlast, List.replicate_zero, List.append_nil]

/-- `canonicalChars` tells `dropSlashes` of the text with its separators turned: the canonical form
is that, or a lone slash for the root where nothing is left, and what is left is never a lone slash.
-/
theorem canonicalChars_eq_iff {cs ds : List Char} :
    canonicalChars cs = canonicalChars ds ↔
      dropSlashes (cs.map forward) = dropSlashes (ds.map forward) := by
  have hroot (es : List Char) : dropSlashes es ≠ ['/'] := by
    intro he
    exact getLast?_dropSlashes es (by rw [he]; rfl)
  constructor
  · intro h
    unfold canonicalChars at h
    dsimp only at h
    -- nothing is left of both texts, of one of them, or of none
    split at h <;> split at h
    · next hcs hds => rw [hcs, hds]
    · exact absurd h.symm (hroot _)
    · exact absurd h (hroot _)
    · exact h
  · intro h
    unfold canonicalChars
    rw [h]

/-- **Spellings with the same key**: `ofPath p = ofPath q ↔ SpelledAlike p q`. -/
theorem ofPath_eq_iff {p q : String} : ofPath p = ofPath q ↔ SpelledAlike p q := by
  have hkeys : ofPath p = ofPath q ↔
      dropSlashes (p.toList.map forward) = dropSlashes (q.toList.map forward) := by
    rw [SessionKey.ext_iff, text_ofPath, text_ofPath, canonical, canonical, String.ofList_inj,
      canonicalChars_eq_iff]
  rw [hkeys]
  constructor
  · intro h
    obtain ⟨i, hi⟩ := exists_append_replicate (p.toList.map forward)
    obtain ⟨j, hj⟩ := exists_append_replicate (q.toList.map forward)
    exact ⟨dropSlashes (p.toList.map forward), i, j, hi, h ▸ hj⟩
  · rintro ⟨stem, i, j, hp, hq⟩
    rw [hp, hq, dropSlashes_append_replicate, dropSlashes_append_replicate]

end SessionKey

open SessionKey (SpelledAlike)

/-- A call is written down in a trace. -/
def ManagerCall.Made (call : ManagerCall) (trace : List ManagerCall) : Prop :=
  call ∈ trace

/-- A call that was made was made in every longer trace. -/
theorem ManagerCall.Made.append {call : ManagerCall} {trace : List ManagerCall}
    (h : call.Made trace) (later : ManagerCall) : call.Made (trace ++ [later]) :=
  List.mem_append_left _ h

/-- The last call of a trace was made. -/
theorem ManagerCall.made_last (call : ManagerCall) (trace : List ManagerCall) :
    call.Made (trace ++ [call]) :=
  List.mem_append_right _ (List.mem_singleton_self call)

namespace SessionManager

variable {m : SessionManager σ} {path : String} {record : Session} {options : MountOptions} {s : σ}

/-! ## Served paths -/

/-- A path is served: it has a record, it is mounted, and the process that owns the record exists. To
look at that leaves the host as it is. -/
structure Serving (m : SessionManager σ) (path : String) (record : Session) (s : σ) : Prop where
  recorded : (m.books.registry.lookup (.ofPath path)).runOn s = (.ok (some record), s)
  mounted : (m.books.mounts.isMounted (.ofPath path)).runOn s = (.ok true, s)
  alive : ∀ pid, record.owner = .process pid → (m.books.processes.isAlive pid).runOn s = (.ok true, s)

/-- The refusal to mount a path that is served. -/
def servedRefusal (options : MountOptions) : Failure :=
  if options.foreground && wantsRemount options then
    .ofSession (.validation "remount on restart cannot be enabled for a foreground mount")
  else .ofSession (.alreadyMounted (SessionKey.ofPath options.mountPath).text)

/-- `m.calls (.mount options) s` is the trace of the watched mount. -/
theorem calls_mount (m : SessionManager σ) (options : MountOptions) (s : σ) :
    m.calls (.mount options) s = ((m.watched.mount options).runOn ⟨s, []⟩).2.trace := by
  rw [calls, SessionRequest.act, Act.runOn_bind]
  rcases (m.watched.mount options).runOn ⟨s, []⟩ with ⟨r, t⟩
  cases r with
  | ok started => rfl
  | error f => rfl

namespace Serving

/-- In a served path the books find the record and the mount, and change nothing. -/
theorem finds (h : m.Serving path record s) :
    m.books.Finds (.ofPath path) (some record) true s s :=
  ⟨s, h.recorded, h.mounted⟩

/-- Looking leaves no trace: a watched manager serves the path on the traced host. -/
theorem watched (h : m.Serving path record s) : m.watched.Serving path record ⟨s, []⟩ where
  recorded := by
    show (m.books.registry.lookup (.ofPath path)).unseen.runOn ⟨s, []⟩ = _
    rw [Act.runOn_unseen, h.recorded]
  mounted := by
    show (m.books.watched.mounts.isMounted (.ofPath path)).runOn ⟨s, []⟩ = _
    rw [runOn_isMounted_watched, h.mounted]
  alive pid howner := by
    show (m.books.processes.isAlive pid).unseen.runOn ⟨s, []⟩ = _
    rw [Act.runOn_unseen, h.alive pid howner]

/-- The directory of a served path is not looked at: an allowed mount under any spelling of it is
valid, and the path is found to be taken behind that. -/
theorem runOn_validate (h : m.Serving path record s)
    (hkey : SessionKey.ofPath options.mountPath = .ofPath path)
    (hallowed : ¬ (options.foreground && wantsRemount options) = true) :
    (m.validate options).runOn s = (.ok (), s) := by
  rw [validate, checkRequest, if_neg hallowed, Act.runOn_bind]
  show ((m.books.mounts.isMounted (.ofPath options.mountPath)) >>= _).runOn s = _
  rw [hkey, Act.runOn_bind, h.mounted]
  rfl

/-- The session of a served path is alive: `reconcile` answers `.alreadyMounted`. -/
theorem runOn_reconcile (h : m.Serving path record s) :
    (m.books.reconcile (.ofPath path)).runOn s = (.ok .alreadyMounted, s) := by
  have htaken : (m.books.isTaken (.ofPath path) true (some record)).runOn s = (.ok true, s) := by
    rw [Bookkeeping.isTaken]
    cases howner : record.owner with
    | process pid => exact h.alive pid howner
    | service name => rfl
  rw [h.finds.runOn_reconcile, Act.runOn_bind, htaken]
  rfl

/-- A mount of a served path ends in `servedRefusal options`, and the host stays as it is. -/
theorem runOn_mount (h : m.Serving path record s)
    (hkey : SessionKey.ofPath options.mountPath = .ofPath path) :
    (m.mount options).runOn s = (.error (servedRefusal options), s) := by
  unfold servedRefusal
  by_cases hallowed : (options.foreground && wantsRemount options) = true
  · -- it is refused before the path is looked at
    rw [if_pos hallowed, mount, validate, checkRequest, if_pos hallowed]
    rfl
  · -- the key of the spelling is that of the path, which is found to be taken
    rw [if_neg hallowed, mount, Act.runOn_bind, h.runOn_validate hkey hallowed]
    dsimp only
    rw [hkey, Act.runOn_bind, h.runOn_reconcile]
    rfl

/-- **Spelled alike, refused alike.** The spellings with the key of a served path are those that are
`SpelledAlike`: they differ from it in the kind of their slashes and in the slashes at their ends
only. A mount under any of them is refused, calls for nothing, and leaves the host as it is. -/
theorem refuses_spelledAlike (h : m.Serving path record s) (options : MountOptions) :
    (SessionKey.ofPath options.mountPath = .ofPath path ↔ SpelledAlike options.mountPath path) ∧
    (SpelledAlike options.mountPath path →
      m.calls (.mount options) s = [] ∧
      (m.mount options).runOn s = (.error (servedRefusal options), s)) := by
  refine ⟨SessionKey.ofPath_eq_iff, fun halike => ?_⟩
  have hkey := SessionKey.ofPath_eq_iff.2 halike
  refine ⟨?_, h.runOn_mount hkey⟩
  rw [calls_mount, h.watched.runOn_mount hkey]

end Serving

/-! ## Vacant mounts -/

/-- Nothing stands in the way of a mount: it may be asked for, its path has no record and is not
mounted, and the directory is as it should be. -/
structure Vacant (m : SessionManager σ) (options : MountOptions) (s : σ) : Prop where
  allowed : ¬ (options.foreground && wantsRemount options) = true
  unrecorded : (m.books.registry.lookup (.ofPath options.mountPath)).runOn s = (.ok none, s)
  unmounted : (m.books.mounts.isMounted (.ofPath options.mountPath)).runOn s = (.ok false, s)
  directory : checkDirectory (m.disk.get s) options = .ok ()

/-- The session that a mount begins with. -/
def sessionFor (m : SessionManager σ) (options : MountOptions) (s : σ) : Session where
  key := .ofPath options.mountPath
  configPath := options.configPath
  owner := .process (m.self s)

/-- A call that was `Made` stays written down while a mount is made to come back. -/
theorem keeps_enableRemount (call : ManagerCall) (key : SessionKey) :
    Keeps (fun t => call.Made t.trace) (m.watched.enableRemount key options) := by
  unfold enableRemount
  cases options.configPath with
  | none => exact Ensures.refuse fun _ ht => ht
  | some config =>
    have hinstall (record : RemountRecord) :
        Keeps (fun t => call.Made t.trace) (m.watched.remount.install record) :=
      Act.ensures_trace (fun _ hT => hT.append _) _
    exact ((hinstall _).inContext _).bind fun name => Act.keeps_unseen _ _

/-- What is left of a mount behind its checks makes `.start session` first of all, so the call is
written down however it ends. -/
theorem made_start (m : SessionManager σ) (session : Session) (options : MountOptions) :
    Ensures (fun _ => True)
      (Act.inContext "failed to mount" (m.watched.supervisor.start session options)
        >>= fun started =>
          if goesOn started && wantsRemount options then
            m.watched.enableRemount (.ofPath options.mountPath) options >>= fun _ => pure started
          else pure started)
      (fun _ t => (ManagerCall.start session).Made t.trace)
      fun _ t => (ManagerCall.start session).Made t.trace := by
  have hstart : Ensures (fun _ => True) (m.watched.supervisor.start session options)
      (fun _ t => (ManagerCall.start session).Made t.trace)
      fun _ t => (ManagerCall.start session).Made t.trace :=
    Act.ensures_trace (fun T (_ : True) => ManagerCall.made_last _ T) _
  -- the call is written down before the start is tried, so that it is there however that ends
  refine Ensures.bind (Ensures.inContext hstart) fun started => ?_
  exact Keeps.ite ((keeps_enableRemount _ _).bind fun _ => .pure _) (.pure _)

namespace Vacant

/-- Looking leaves no trace: a watched manager finds the mount vacant on the traced host. -/
theorem watched (h : m.Vacant options s) : m.watched.Vacant options ⟨s, []⟩ where
  allowed := h.allowed
  unrecorded := by
    show (m.books.registry.lookup (.ofPath options.mountPath)).unseen.runOn ⟨s, []⟩ = _
    rw [Act.runOn_unseen, h.unrecorded]
  unmounted := by
    show (m.books.watched.mounts.isMounted (.ofPath options.mountPath)).runOn ⟨s, []⟩ = _
    rw [runOn_isMounted_watched, h.unmounted]
  directory := h.directory

/-- A vacant mount is valid, and the validation changes nothing. -/
theorem runOn_validate (h : m.Vacant options s) : (m.validate options).runOn s = (.ok (), s) := by
  rw [validate, checkRequest, if_neg h.allowed, Act.runOn_bind]
  show ((m.books.mounts.isMounted (.ofPath options.mountPath)) >>= _).runOn s = _
  rw [Act.runOn_bind, h.unmounted]
  show (Act.ofExcept (checkDirectory (m.disk.get s) options)).runOn s = _
  rw [h.directory]
  rfl

/-- Where neither a record nor a mount is found, `reconcile` answers `.proceed` and clears nothing
away. -/
theorem runOn_reconcile (h : m.Vacant options s) :
    (m.books.reconcile (.ofPath options.mountPath)).runOn s = (.ok .proceed, s) := by
  have hfound : m.books.Finds (.ofPath options.mountPath) none false s s :=
    ⟨s, h.unrecorded, h.unmounted⟩
  rw [hfound.runOn_reconcile]
  rfl

/-- `m.mount options` of a vacant mount: the session is started, and then made to come back if that
was asked for. -/
theorem runOn_mount (h : m.Vacant options s) :
    (m.mount options).runOn s
      = (Act.inContext "failed to mount" (m.supervisor.start (m.sessionFor options s) options)
          >>= fun started =>
            if goesOn started && wantsRemount options then
              m.enableRemount (.ofPath options.mountPath) options >>= fun _ => pure started
            else pure started).runOn s := by
  rw [mount, Act.runOn_bind, h.runOn_validate]
  dsimp only
  rw [Act.runOn_bind, h.runOn_reconcile]
  rfl

/-- **A vacant mount is started**: `.start` is among its calls, whether or not another spelling of
its directory is served. -/
theorem start_mem_calls (h : m.Vacant options s) :
    .start (m.sessionFor options s) ∈ m.calls (.mount options) s := by
  rw [calls_mount, h.watched.runOn_mount]
  exact (made_start m (m.sessionFor options s) options).final trivial

end Vacant

end SessionManager

/-! ## A host -/

namespace Rehearsal.Host

/-- A mount in the background. -/
def inBackground (path : String) : MountOptions :=
  { unconfigured path with remount := {} }

/-- The host with the empty directory, when `/mnt/a` has been mounted there. -/
def servedDirectory : Host :=
  (((SessionRequest.mount (inBackground "/mnt/a")).act directoryManager).runOn emptyDirectory).2

/-- The session that has been started. -/
def servedSession : Session where
  key := .ofPath "/mnt/a"
  owner := .process emptyDirectory.nextPid
  state := .running

/-- `registry.lookup key` of a local manager reads the PID file and leaves the host as it is. -/
theorem runOn_lookup (surroundings : Surroundings) (l : Layout) (daemons : Bool) (key : SessionKey)
    (h : Host) : ((localManager surroundings l daemons).books.registry.lookup key).runOn h
      = (PidFiles.lookup l.work h.disk key, h) := by
  have hdisk : ((PidFiles.registry l.work).lookup key).runOn h.disk
      = (PidFiles.lookup l.work h.disk key, h.disk) := rfl
  exact Act.runOn_on_of diskPart hdisk

/-- `mounts.isMounted key` of a local manager reads the mount table and leaves the host as it is. -/
theorem runOn_isMounted (surroundings : Surroundings) (l : Layout) (daemons : Bool)
    (key : SessionKey) (h : Host) :
    ((localManager surroundings l daemons).books.mounts.isMounted key).runOn h
      = ((MountTable.readTable l.table h.disk).map fun paths => MountTable.lists paths key, h) := by
  show ((localManager surroundings l daemons).books.mounts.list >>= _).runOn h = _
  have hdisk : (MountTable.ofFile l.table).list.runOn h.disk
      = (MountTable.readTable l.table h.disk, h.disk) := rfl
  have hlist : (localManager surroundings l daemons).books.mounts.list.runOn h
      = (MountTable.readTable l.table h.disk, h) := Act.runOn_on_of diskPart hdisk
  rw [Act.runOn_bind, hlist]
  cases MountTable.readTable l.table h.disk with
  | ok paths => rfl
  | error f => rfl

/-- The served directory serves `/mnt/a` in the sense of `Serving`. -/
theorem serving_servedDirectory :
    directoryManager.Serving "/mnt/a" servedSession servedDirectory where
  recorded := by
    rw [directoryManager, runOn_lookup]
    exact Prod.ext (Act.eq_ok_of_toOption (by decide +kernel)) rfl
  mounted := by
    rw [directoryManager, runOn_isMounted]
    exact Prod.ext (Act.eq_ok_of_toOption (by decide +kernel)) rfl
  alive pid howner := by
    obtain rfl := Owner.process.inj howner
    exact Prod.ext (Act.eq_ok_of_toOption (by decide +kernel)) rfl

/-- `/mnt/a/` is refused where `/mnt/a` is served: a slash more at the end is forgiven. -/
theorem refuses_slashAtEnd :
    directoryManager.Serving "/mnt/a" servedSession servedDirectory ∧
    SpelledAlike "/mnt/a/" "/mnt/a" ∧
    directoryManager.calls (.mount (inBackground "/mnt/a/")) servedDirectory = [] ∧
    (directoryManager.mount (inBackground "/mnt/a/")).runOn servedDirectory
      = (.error (.ofSession (.alreadyMounted "/mnt/a")), servedDirectory) := by
  have halike : SpelledAlike "/mnt/a/" "/mnt/a" := ⟨"/mnt/a".toList, 1, 0, by decide, by decide⟩
  have hrefused := serving_servedDirectory.refuses_spelledAlike (inBackground "/mnt/a/")
  have hrefusal : SessionManager.servedRefusal (inBackground "/mnt/a/")
      = .ofSession (.alreadyMounted "/mnt/a") := by decide
  exact ⟨serving_servedDirectory, halike, hrefusal ▸ hrefused.2 halike⟩

/-- `/mnt//a` is started where `/mnt/a` is served: a slash more inside of the path is not forgiven,
and the same directory is served twice. -/
theorem starts_slashInside :
    ((SessionRequest.mount (inBackground "/mnt/a")).act directoryManager).runOn emptyDirectory
      = (.ok (), servedDirectory) ∧
    Path.isAbsolute "/mnt/a" = true ∧ Path.isAbsolute "/mnt//a" = true ∧
    Path.parts "/mnt/a" = Path.parts "/mnt//a" ∧
    directoryManager.Serving "/mnt/a" servedSession servedDirectory ∧
    SessionKey.ofPath "/mnt//a" ≠ .ofPath "/mnt/a" ∧
    .start (directoryManager.sessionFor (inBackground "/mnt//a") servedDirectory)
      ∈ directoryManager.calls (.mount (inBackground "/mnt//a")) servedDirectory := by
  -- the record and the entry in the table that are there have another key
  have hvacant : directoryManager.Vacant (inBackground "/mnt//a") servedDirectory := {
    allowed := by decide
    unrecorded := by
      rw [directoryManager, runOn_lookup]
      exact Prod.ext (Act.eq_ok_of_toOption (by decide +kernel)) rfl
    unmounted := by
      rw [directoryManager, runOn_isMounted]
      exact Prod.ext (Act.eq_ok_of_toOption (by decide +kernel)) rfl
    directory := Act.eq_ok_of_toOption (by decide +kernel) }
  have hmounted := Act.runOn_of_toOption
    (a := (SessionRequest.mount (inBackground "/mnt/a")).act directoryManager) (s := emptyDirectory)
    (x := ()) (by decide +kernel)
  exact ⟨hmounted, by decide, by decide, by decide, serving_servedDirectory, by decide,
    hvacant.start_mem_calls⟩

end Rehearsal.Host

end MountKeeper
