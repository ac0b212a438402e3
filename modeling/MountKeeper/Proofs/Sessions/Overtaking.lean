import MountKeeper.Pattern.Reader
import MountKeeper.Proofs.PidFiles.OneKey
import MountKeeper.Proofs.Sessions.Interleaving

/-! # One process overtakes another

A path is mounted, unmounted and mounted again before the process of the first mount has noticed
that it was unmounted. When that process shuts down, it removes the record of the second one.

* `Site.Hospitable` is a site where mounts and unmounts succeed.
* `Site.Hospitable.run_overtaking` is the run in which one process overtakes another.
* `Site.Shared.spares_iff`: records are spared exactly when there is no more than one process. -/

namespace MountKeeper

open Act (Ensures Keeps Succeeds)

variable {σ : Type}

/-! ## Where nothing fails -/

/-- A mount, and its process up to its first poll. -/
def Site.Event.comingUp (pid : UInt32) (options : MountOptions) : List Site.Event :=
  [.mount pid options, .advance pid, .advance pid]

/-- A mount, an unmount and another mount; only then does the first process look about. -/
def Site.Event.overtaking (first second : UInt32) (options : MountOptions) (typed : String) :
    List Site.Event :=
  Site.Event.comingUp first options ++ ([.unmount typed false false] ++
    (Site.Event.comingUp second options ++ [.advance first]))

/-- A data path that can be started and watched. -/
structure DataPath.Willing (path : DataPath σ) (At : Occupancy → σ → Prop) : Prop where
  start : ∀ O, Succeeds (At O) path.start
  isRunning : ∀ O, Succeeds (At O) path.isRunning

/-- **A site where mounts and unmounts succeed**: no part fails, the path can be mounted with the
given options when it is free, and unmounted as it was typed. -/
structure Site.Hospitable (site : Site σ) (At : Occupancy → σ → Prop) (options : MountOptions)
    (typed : String) : Prop where
  mountPath : SessionKey.ofPath options.mountPath = site.key
  request : (options.foreground && SessionManager.wantsRemount options) = false
  directory : ∀ s, At {} s →
    SessionManager.checkDirectory (site.manager.disk.get s) options = .ok ()
  target_path : Teardown.isPattern (site.manager.target typed) = false
  target_key : SessionKey.ofPath (site.manager.target typed) = site.key
  lookup : ∀ O, Succeeds (At O) (site.manager.books.registry.lookup site.key)
  register : ∀ O session pid, session.key = site.key → session.owner = .process pid →
    Succeeds (At O) (site.manager.books.registry.register session)
  unregister : ∀ O, Succeeds (At O) (site.manager.books.registry.unregister site.key)
  list : ∀ O, Succeeds (At O) site.manager.books.mounts.list
  unmount : ∀ O, Succeeds (At O) (site.manager.books.unmounter.unmount site.key.text false)
  build : ∀ O pid, Ensures (At O) ((site.server pid).factory.build options)
    (fun path s => path.MountsFor At pid ∧ path.Willing At ∧ At O s) fun _ _ => False
  watch : ∀ O pid, Succeeds (At O) (site.server pid).signals.begin
  arrived : ∀ O pid, Succeeds (At O) (site.server pid).signals.arrived
  ready : ∀ O pid, Succeeds (At O) (site.ready pid)

/-- **The path is held by a process**: its data path and no other is mounted, and the record names
it. -/
def Site.HeldBy (At : Occupancy → σ → Prop) (pid : UInt32) (s : σ) : Prop :=
  ∃ record : Session, record.owner = .process pid ∧ At ⟨some record, {pid}⟩ s

/-- What changes nothing that is known of a path leaves it to its holder. -/
theorem Site.ensures_heldBy {At : Occupancy → σ → Prop} (pid : UInt32) {α : Type} {a : Act σ α}
    {E : Failure → σ → Prop} (h : ∀ O, Ensures (At O) a (fun _ => At O) E) :
    Ensures (Site.HeldBy At pid) a (fun _ => Site.HeldBy At pid) E :=
  fun s ⟨record, howner, hs⟩ =>
    (h ⟨some record, {pid}⟩).weaken (fun _ _ hs => ⟨record, howner, hs⟩) (fun _ _ hf => hf) s hs

namespace Site.Hospitable

variable {site : Site σ} {At : Occupancy → σ → Prop} {options : MountOptions} {typed : String}
  {pid : UInt32} {path : DataPath σ} {O : Occupancy}

/-- `site.recorded w` is the record that is known of the path. -/
theorem recorded_eq (hh : site.Hospitable At options typed) (h : site.Shared At) {w : Scene σ}
    (hw : At O w.host) : site.recorded w = .ok O.record := by
  obtain ⟨found, s, hrun, hfound, -⟩ := ((h.lookup O).of_succeeds (hh.lookup O)).exists_ok hw
  unfold recorded
  rw [hrun, hfound]

/-- `isMounted site.key` answers whether some data path is mounted. -/
theorem isMounted (hh : site.Hospitable At options typed) (h : site.Shared At) (O : Occupancy) :
    Ensures (At O) (site.manager.books.mounts.isMounted site.key)
      (fun mounted s => (mounted = true ↔ O.up.Nonempty) ∧ At O s) fun _ _ => False :=
  ((h.list O).of_succeeds (hh.list O)).bind fun _ => Ensures.pure fun _ hs => hs

/-- `forget site.key` drops the record, which cannot fail here. -/
theorem forget (hh : site.Hospitable At options typed) (h : site.Shared At) (O : Occupancy) :
    Ensures (At O) (site.manager.books.forget site.key)
      (fun _ => At { O with record := none }) fun _ _ => False := by
  have hunregister : Ensures (At O)
      (Act.attempt (site.manager.books.registry.unregister site.key))
      (fun _ => At { O with record := none }) fun _ _ => False :=
    Ensures.attempt ((h.unregister O).of_succeeds (hh.unregister O)).never
  exact hunregister.bind fun _ => Ensures.pure fun _ hs => hs

/-- A free path is found to be free, and nothing is cleared away. -/
theorem reconcile (hh : site.Hospitable At options typed) (h : site.Shared At) :
    Ensures (At {}) (site.manager.books.reconcile site.key)
      (fun found s => found = .proceed ∧ At {} s) fun _ _ => False := by
  have hrecord : Ensures (At {}) (site.manager.books.readableRecord site.key)
      (fun record s => record = none ∧ At {} s) fun _ _ => False := by
    have hlookup : Ensures (At {}) (Act.attempt (site.manager.books.registry.lookup site.key))
        (fun found s => found = .ok none ∧ At {} s) fun _ _ => False := by
      have hfound := (h.lookup {}).of_succeeds (hh.lookup {})
      refine Ensures.attempt (hfound.weaken ?_ fun _ _ hf => hf.elim)
      rintro found s ⟨rfl, hs⟩
      exact ⟨rfl, hs⟩
    refine hlookup.bind fun found => Ensures.of_fact ?_
    rintro rfl
    exact Ensures.pure fun s hs => ⟨rfl, hs⟩
  refine hrecord.bind fun record => Ensures.of_fact ?_
  rintro rfl
  refine (hh.isMounted h {}).bind fun mounted => Ensures.of_fact fun hmounted => ?_
  -- nothing is recorded and nothing is mounted, so that the path is not taken
  have hnot : mounted = false :=
    Bool.eq_false_iff.2 fun hm => Set.not_nonempty_empty (hmounted.1 hm)
  subst hnot
  exact Ensures.pure fun s hs => ⟨rfl, hs⟩

/-- At a free path, a mount is admitted: it is checked and reconciled, and not refused. -/
theorem prepare (hh : site.Hospitable At options typed) (h : site.Shared At) :
    Ensures (At {}) (site.manager.prepare options) (fun _ => At {}) fun _ _ => False := by
  have hrequest : Ensures (At {}) (SessionManager.checkRequest (σ := σ) options) (fun _ => At {})
      fun _ _ => False := by
    unfold SessionManager.checkRequest
    rw [hh.request]
    exact Ensures.pure fun s hs => hs
  have hvalidate : Ensures (At {}) (site.manager.validate options) (fun _ => At {})
      fun _ _ => False := by
    unfold SessionManager.validate
    rw [hh.mountPath]
    refine hrequest.bind fun _ => (hh.isMounted h {}).bind fun mounted => ?_
    refine Ensures.of_fact fun _ => Ensures.ite (fun _ => Ensures.pure fun s hs => hs) fun _ => ?_
    refine Ensures.bind (Q := fun x s => x = s ∧ At {} s) (Ensures.look fun s hs => ⟨rfl, hs⟩)
      fun x => Ensures.ofExcept (fun _ _ s hs => hs.2) fun f hf s hs => ?_
    -- the directory can be served, so the check of it cannot be what fails
    rw [hh.directory x (hs.1 ▸ hs.2)] at hf
    exact absurd hf (by simp)
  unfold SessionManager.prepare
  rw [hh.mountPath]
  refine hvalidate.bind fun _ => (hh.reconcile h).bind fun found => Ensures.of_fact ?_
  rintro rfl
  exact Ensures.pure fun s hs => hs

/-- At a free path, a process starts its data path and is recorded. -/
theorem attach (hh : site.Hospitable At options typed) (h : site.Shared At)
    (hpath : path.MountsFor At pid) (hw : path.Willing At) {session : Session}
    (hkey : session.key = site.key) (howner : session.owner = .process pid) :
    Ensures (At {}) ((site.server pid).attach path session) (fun _ => HeldBy At pid)
      fun _ _ => False := by
  have hstart := (hpath.start {}).of_succeeds (hw.start {})
  rw [LawfulSingleton.insert_empty_eq] at hstart
  -- with its data path up, the process finds the record free and takes it
  have hregister : Ensures (At ⟨none, {pid}⟩)
      (Act.attempt ((site.server pid).registry.register session))
      (fun result s => result = .ok () ∧ HeldBy At pid s) fun _ _ => False := by
    rw [h.registry]
    refine Ensures.attempt (((h.register ⟨none, {pid}⟩ session hkey).of_succeeds
      (hh.register _ session pid hkey howner)).weaken ?_ fun _ _ hf => hf.elim)
    rintro - s ⟨record, hrecord, hs⟩
    exact ⟨rfl, record, hrecord.trans howner, hs⟩
  refine (Ensures.inContext (hstart.failing fun _ _ hf => hf)).bind fun _ => ?_
  refine hregister.bind fun result => Ensures.of_fact ?_
  rintro rfl
  exact Ensures.pure fun s hs => hs

/-- `takeUp` builds a data path and attaches it, so that the process holds the path. -/
theorem takeUp (hh : site.Hospitable At options typed) (h : site.Shared At) (pid : UInt32) :
    Ensures (At {})
      ((site.server pid).takeUp (site.session pid options) options (site.ready pid) pid)
      (fun taken s => taken.1.MountsFor At pid ∧ taken.1.Willing At ∧ HeldBy At pid s)
      fun _ _ => False := by
  refine (hh.build {} pid).bind fun path => ?_
  refine Ensures.of_fact fun hpath => Ensures.of_fact fun hw => ?_
  have hwatch := Ensures.of_succeeds (h.watch {} pid) (hh.watch {} pid)
  have hready := ensures_heldBy pid fun O =>
    Ensures.of_succeeds (h.ready O pid) (hh.ready O pid)
  have hmonitor := ensures_heldBy pid fun O => h.ensures_watchHealth O pid options
  refine hwatch.bind fun _ => (hh.attach h hpath hw rfl rfl).bind fun _ => hready.bind fun _ => ?_
  refine Ensures.bind (Ensures.look (Q := fun _ => HeldBy At pid) fun s hs => hs) fun _ => ?_
  exact hmonitor.bind fun _ => Ensures.pure fun s hs => ⟨hpath, hw, hs⟩

/-- Behind an unmount of a mounted path, the path is free. -/
theorem unmountTyped (hh : site.Hospitable At options typed) (h : site.Shared At)
    (hup : O.up.Nonempty) : Ensures (At O) (site.manager.unmount typed false false)
      (fun _ => At {}) fun _ => At {} := by
  have hlookup : Ensures (At O) (Act.attempt (site.manager.books.registry.lookup site.key))
      (fun _ => At O) fun _ _ => False :=
    Ensures.attempt (((h.lookup O).of_succeeds (hh.lookup O)).weaken (fun _ _ hs => hs.2)
      fun _ _ hf => hf.elim)
  have hunmount := (h.unmount O false).of_succeeds (hh.unmount O)
  have hdetach : Ensures (At O) (site.manager.teardown.detach site.key false) (fun _ => At {})
      fun _ _ => False :=
    (Ensures.inContext (hunmount.failing fun _ _ hf => hf)).bind fun _ => hh.forget h _
  rw [site.manager.unmount_eq hh.target_path, hh.target_key]
  refine hlookup.never.bind fun record => (hh.isMounted h O).never.bind fun mounted =>
    Ensures.of_fact fun hmounted => ?_
  rw [if_pos (hmounted.2 hup)]
  exact hdetach.never.bind fun _ => h.print {} _

/-- A process whose data path is mounted no more does not go on. -/
theorem poll (hh : site.Hospitable At options typed) (h : site.Shared At)
    (hpath : path.MountsFor At pid) (hw : path.Willing At) (hdown : pid ∉ O.up)
    (options : MountOptions) : Ensures (At O) ((site.server pid).poll path options)
      (fun goesOn s => goesOn = false ∧ At O s) fun _ _ => False := by
  have harrived := Ensures.of_succeeds (h.arrived O pid) (hh.arrived O pid)
  refine harrived.bind fun signals => ?_
  refine (h.ensures_answerSignals O pid options signals).bind fun ended => ?_
  refine Ensures.ite (fun _ => Ensures.pure fun s hs => ⟨rfl, hs⟩) fun _ => ?_
  refine ((hpath.isRunning O).of_succeeds (hw.isRunning O)).weaken ?_ fun _ _ hf => hf
  rintro running s ⟨hrunning, hs⟩
  exact ⟨Bool.eq_false_iff.2 fun h => hdown (hrunning h), hs⟩

/-! ### Two processes, one after the other -/

/-- **A mount at a free path**: its process comes to serve the path, and holds it. The two events
are the admission and the process taking the session up. -/
theorem run_mount (hh : site.Hospitable At options typed) (h : site.Shared At) {w : Scene σ}
    (hw : At {} w.host) (habsent : w.stages pid = .absent) : ∃ (s : σ) (path : DataPath σ),
      site.run (Event.comingUp pid options) w
        = ⟨s, Function.update w.stages pid (.serving path options)⟩ ∧
      path.MountsFor At pid ∧ path.Willing At ∧ HeldBy At pid s := by
  obtain ⟨_, s₁, hprepared, hs₁⟩ := (hh.prepare h).exists_ok hw
  -- there is no leftover to be removed, so that nothing changes
  have hclear : Ensures (At {}) (site.advance pid (.admitted options))
      (fun stage s => stage = .starting options ∧ At {} s) fun _ _ => False := by
    have hstarting : Ensures (At {}) (pure (Stage.starting options) : Act σ (Stage σ))
        (fun stage s => stage = .starting options ∧ At {} s) fun _ _ => False :=
      Ensures.pure fun s hs => ⟨rfl, hs⟩
    have hunregister := (h.unregister {}).of_succeeds (hh.unregister {})
    exact Ensures.ite (fun _ => hunregister.bind fun _ => hstarting) fun _ => hstarting
  obtain ⟨_, s₂, hcleared, rfl, hs₂⟩ := hclear.exists_ok hs₁
  have htake : Ensures (At {}) (site.advance pid (.starting options))
      (fun stage s => ∃ path, stage = .serving path options ∧ path.MountsFor At pid ∧
        path.Willing At ∧ HeldBy At pid s) fun _ _ => False :=
    (hh.takeUp h pid).bind fun taken => Ensures.pure fun s hs => ⟨taken.1, rfl, hs⟩
  obtain ⟨_, s₃, htaken, path, rfl, hpath, hwilling, hheld⟩ := htake.exists_ok hs₂
  refine ⟨s₃, path, ?_, hpath, hwilling, hheld⟩
  calc site.run (Event.comingUp pid options) w
      = site.run [.advance pid, .advance pid]
          ⟨s₁, Function.update w.stages pid (.admitted options)⟩ := by
        rw [← step_mount habsent hprepared]
        rfl
    _ = site.run [.advance pid] ⟨s₂, Function.update w.stages pid (.starting options)⟩ := by
        rw [← step_advance_update hcleared]
        rfl
    _ = ⟨s₃, Function.update w.stages pid (.serving path options)⟩ := by
        rw [← step_advance_update htaken]
        rfl

/-- **One process overtakes another**: behind `Event.overtaking`, the first is about to shut down,
and the second holds the path. -/
theorem run_overtaking (hh : site.Hospitable At options typed) (h : site.Shared At) {s : σ}
    (hs : At {} s) {first second : UInt32} (hne : first ≠ second) :
    ∃ (w : Scene σ) (path : DataPath σ),
      site.run (Event.overtaking first second options typed) (.quiet s) = w ∧
      w.stages first = .leaving path options ∧ path.MountsFor At first ∧
      HeldBy At second w.host := by
  have habsent : (Scene.quiet s).stages first = .absent := rfl
  obtain ⟨s₁, path, hrun₁, hpath, hwilling, _, -, hs₁⟩ := hh.run_mount h (w := .quiet s) hs habsent
  -- the unmount frees the path, and the first process has not noticed yet
  have hs₂ := Ensures.final (hh.unmountTyped h (Set.singleton_nonempty first)) hs₁
  obtain ⟨s₃, path', hrun₃, -, -, hheld⟩ := hh.run_mount h
    (w := site.step ⟨s₁, Function.update (Scene.quiet s).stages first (.serving path options)⟩
      (.unmount typed false false))
    hs₂ (Function.update_of_ne hne.symm _ _)
  -- now it looks about
  have hpoll : Ensures (HeldBy At second) (site.advance first (.serving path options))
      (fun stage s => stage = .leaving path options ∧ HeldBy At second s) fun _ _ => False := by
    rintro s ⟨record, howner, hs⟩
    have hdown : first ∉ ({second} : Set UInt32) := hne
    refine Ensures.bind (hh.poll h (O := ⟨some record, {second}⟩) hpath hwilling hdown options)
      (fun goesOn => Ensures.of_fact ?_) s hs
    rintro rfl
    exact Ensures.pure fun s hs => ⟨rfl, record, howner, hs⟩
  obtain ⟨_, s₄, hpolled, rfl, hheld⟩ := hpoll.exists_ok hheld
  let stages : UInt32 → Stage σ := Function.update (Function.update (Scene.quiet s).stages first
    (.serving path options)) second (.serving path' options)
  have hstage : stages first = .serving path options := by
    show Function.update (Function.update _ first _) second _ first = _
    rw [Function.update_of_ne hne, Function.update_self]
  refine ⟨⟨s₄, Function.update stages first (.leaving path options)⟩, path, ?_,
    Function.update_self first _ _, hpath, hheld⟩
  calc site.run (Event.overtaking first second options typed) (.quiet s)
      = site.run (Event.comingUp second options ++ [.advance first])
          (site.run [.unmount typed false false]
            (site.run (Event.comingUp first options) (.quiet s))) := by
        rw [Event.overtaking, run_append, run_append]
    _ = site.run [.advance first] (site.run (Event.comingUp second options)
          (site.step ⟨s₁, Function.update (Scene.quiet s).stages first (.serving path options)⟩
            (.unmount typed false false))) := by
        rw [hrun₁, run_append]
        rfl
    _ = ⟨s₄, Function.update stages first (.leaving path options)⟩ := by
        rw [hrun₃]
        exact step_advance hstage hpolled

/-- Behind the shutdown of a process nothing is recorded, whatever was. -/
theorem recorded_advance (hh : site.Hospitable At options typed) (h : site.Shared At)
    {w : Scene σ} (hstage : w.stages pid = .leaving path options) (hpath : path.MountsFor At pid)
    (hw : At O w.host) : site.recorded (site.step w (.advance pid)) = .ok none := by
  have hshutdown : Ensures (At O) (site.advance pid (.leaving path options))
      (fun _ s => ∃ U, At ⟨none, U⟩ s) fun _ s => ∃ U, At ⟨none, U⟩ s := by
    refine Ensures.bind (h.ensures_shutdown hpath O rfl options (fun _ U s hs => ⟨U, hs⟩)
      fun U => ?_) fun _ => Ensures.pure fun s hs => hs
    exact ((h.unregister ⟨O.record, U⟩).of_succeeds (hh.unregister _)).never
  have hgone : ∃ U, At ⟨none, U⟩ (site.step w (.advance pid)).host := by
    have hfinal := hshutdown.final hw
    show ∃ U, At ⟨none, U⟩ (w.turn pid (site.advance pid (w.stages pid)) .ended).host
    rw [hstage, Scene.turn_host]
    exact hfinal
  obtain ⟨U, hU⟩ := hgone
  exact hh.recorded_eq h hU

/-- Where there are two processes, **records are not spared**: behind `run_overtaking` the first
shuts down, and the record of the second is gone. -/
theorem not_spares (hh : site.Hospitable At options typed) (h : site.Shared At) {s : σ}
    (hs : At {} s) {P : Set UInt32} {first second : UInt32} (hfirst : first ∈ P)
    (hsecond : second ∈ P) (hne : first ≠ second) : ¬ site.Spares P s := by
  intro hspares
  -- one of them overtakes the other, whose shutdown leaves nothing recorded
  obtain ⟨w, path, hrun, hstage, hpath, record, howner, hw⟩ := hh.run_overtaking h hs hne
  have habout : ∀ e ∈ Event.overtaking first second options typed, e.About site P := by
    simp [Event.overtaking, Event.comingUp, Event.About, hfirst, hsecond, hh.mountPath,
      hh.target_path, hh.target_key]
  have hspared := hspares _ habout first second record
  rw [hrun, hstage, hh.recorded_eq h hw, hh.recorded_advance h hstage hpath hw] at hspared
  exact absurd (hspared rfl rfl howner hne.symm) (by simp)

end Site.Hospitable

/-- **The exact condition.** Where nothing fails, records are spared if and only if the path is
never served by more than one process. -/
theorem Site.Shared.spares_iff {site : Site σ} {At : Occupancy → σ → Prop} {options : MountOptions}
    {typed : String} (h : site.Shared At) (hh : site.Hospitable At options typed) {s : σ}
    (hs : At {} s) (P : Set UInt32) : site.Spares P s ↔ P.Subsingleton := by
  refine ⟨fun hspares first hfirst second hsecond => ?_, h.spares_of_subsingleton hs⟩
  by_contra hne
  exact hh.not_spares h hs hfirst hsecond hne hspares

/-! ## A host with PID files -/

/-- A host where one path is mounted by processes, with their records in PID files. -/
structure PidHost where
  disk : Disk
  /-- The processes whose data path is mounted. -/
  up : List UInt32 := []

namespace PidHost

/-- The disk of the host. -/
def diskPart : Part PidHost Disk := ⟨(·.disk), fun d h => { h with disk := d }⟩

/-- The path. -/
def key : SessionKey := .ofPath "/mnt"

/-- The directory of PID files. -/
def workDir : String := "/work"

/-- The records of the host, in the PID files of `workDir`. -/
def registry : SessionRegistry PidHost := (PidFiles.registry workDir).on diskPart

/-- A data path is mounted from its start until it is unmounted or stopped. -/
def dataPath (pid : UInt32) : DataPath PidHost where
  start := Act.change fun h => { h with up := pid :: h.up }
  isRunning := do return (← Act.look).up.contains pid
  stop := Act.change fun h => { h with up := h.up.filter (· != pid) }

/-- Processes that are there until they end by themselves. -/
def processes : ProcessTable PidHost where
  isAlive _ := pure true
  childrenOf _ := pure []
  pidsNamed _ := pure []
  terminate _ := pure ()
  kill _ := pure ()

/-- Nothing is shown to anyone. -/
def console : Console PidHost := ⟨fun _ => pure ()⟩

/-- What a process serves with. No monitor can be run. -/
def server (pid : UInt32) : LocalSupervisor PidHost where
  registry := registry
  processes := processes
  monitor := {
    surroundings := ⟨"/home/u", "/"⟩
    runner := ⟨fun _ _ => Act.failText "no programs"⟩
    processes := processes
    locator := .children processes
    console := console
    enabled := ⟨fun _ => true, fun _ h => h⟩ }
  factory := ⟨fun _ => pure (dataPath pid)⟩
  signals := ⟨pure (), pure []⟩
  reloadLog _ := Act.failText "nothing is logged"
  self _ := pid
  pollLimit _ := 0

/-- The file system that the path is in. -/
def mountDisk : Disk := { nodes := [(["mnt"], .directory)] }

/-- The mounts of the host. -/
def listed (h : PidHost) : List String :=
  if h.up.isEmpty then [] else ["/mnt"]

/-- The manager of the host. -/
def manager : SessionManager PidHost where
  surroundings := ⟨"/home/u", "/"⟩
  books := {
    registry := registry
    mounts := {
      list := do return (← Act.look).listed
      isDisconnected := fun _ => pure false }
    unmounter := ⟨fun _ _ => Act.change fun h => { h with up := [] }⟩
    processes := processes }
  supervisor := {
    start := fun _ _ => Act.failText "mounts are admitted only"
    stop := fun _ => registry.unregister key }
  remount := {
    install := fun _ => Act.failText "no units"
    uninstall := fun _ => pure () }
  console := console
  disk := ⟨fun _ => mountDisk, fun _ h => h⟩
  patterns := Pattern.reader
  self _ := 1

/-- The path with its manager and its processes. -/
def site : Site PidHost := ⟨key, manager, server, fun _ => pure ()⟩

/-- What is known of the path. -/
def At (O : Occupancy) (h : PidHost) : Prop :=
  PidFiles.Records workDir key O.record h.disk ∧ O.up = {pid | pid ∈ h.up}

/-- The PID file of the key can be written in `workDir`. -/
theorem storable_key : PidFiles.Storable workDir key := by decide +kernel

variable {O : Occupancy} {h : PidHost}

/-- `registry.lookup key` answers with the record that is known. -/
theorem lookup_of_at (hs : At O h) : (registry.lookup key).runOn h = (.ok O.record, h) :=
  Act.runOn_on_of diskPart (PidFiles.runOn_lookup_of_records storable_key hs.1)

/-- `registry.register session` answers, and the record is that of the process. -/
theorem at_of_register (hs : At O h) {session : Session} {pid : UInt32} (hkey : session.key = key)
    (howner : session.owner = .process pid) : ∃ (h' : PidHost) (record : Session),
      (registry.register session).runOn h = (.ok (), h') ∧ record.owner = .process pid ∧
      At { O with record := some record } h' := by
  obtain ⟨d, record, hrun, hrecord, hrecords⟩ :=
    PidFiles.records_of_register storable_key hkey howner hs.1
  exact ⟨_, record, Act.runOn_on_of diskPart hrun, hrecord, hrecords, hs.2⟩

/-- `registry.unregister key` answers, and there is no record. -/
theorem at_of_unregister (hs : At O h) : ∃ h', (registry.unregister key).runOn h = (.ok (), h') ∧
    At { O with record := none } h' := by
  obtain ⟨d, hrun, hrecords⟩ := PidFiles.records_of_unregister storable_key hs.1
  exact ⟨_, Act.runOn_on_of diskPart hrun, hrecords, hs.2⟩

/-- The path is listed if and only if some data path is mounted. -/
theorem lists_listed_iff (hs : At O h) :
    MountTable.lists h.listed key = true ↔ O.up.Nonempty := by
  rw [hs.2]
  unfold listed
  cases h.up with
  | nil => simp [MountTable.lists]
  | cons pid pids =>
    have hlists : MountTable.lists ["/mnt"] key = true := by decide +kernel
    exact iff_of_true hlists ⟨pid, List.mem_cons_self⟩

/-- `dataPath pid` mounts the path for `pid`. -/
theorem mountsFor_dataPath (pid : UInt32) : (dataPath pid).MountsFor At pid where
  start O := by
    rintro h ⟨hrecords, hup⟩
    exact ⟨hrecords, by rw [hup]; ext p; simp [Set.mem_insert_iff]⟩
  isRunning O := by
    rintro h ⟨hrecords, hup⟩
    exact ⟨fun hrunning => by rw [hup]; exact List.contains_iff_mem.1 hrunning, hrecords, hup⟩
  stop O := by
    rintro h ⟨hrecords, -⟩
    exact ⟨{p | p ∈ h.up.filter (· != pid)}, hrecords, rfl⟩

/-- `site` is shared: its parts do to the path what `At` says. -/
theorem shared : site.Shared At where
  registry _ := rfl
  self _ _ := rfl
  lookup O := by
    intro h hs
    rw [show (site.manager.books.registry.lookup site.key).runOn h = _ from lookup_of_at hs]
    exact ⟨rfl, hs⟩
  register O session hkey := by
    intro h hs
    -- a PID file holds a process, so that a session of a service is refused
    cases howner : session.owner with
    | service name =>
      obtain ⟨f, hrun⟩ := PidFiles.runOn_register_of_service workDir howner h.disk
      rw [show (site.manager.books.registry.register session).runOn h = _ from
        Act.runOn_on_of diskPart hrun]
      exact hs
    | process pid =>
      obtain ⟨h', record, hrun, hrecord, hs'⟩ := at_of_register hs hkey howner
      rw [show (site.manager.books.registry.register session).runOn h = _ from hrun]
      exact ⟨record, hrecord, hs'⟩
  unregister O := by
    intro h hs
    obtain ⟨h', hrun, hs'⟩ := at_of_unregister hs
    rw [show (site.manager.books.registry.unregister site.key).runOn h = _ from hrun]
    exact hs'
  list O := by
    intro h hs
    show (MountTable.lists h.listed key = true ↔ O.up.Nonempty) ∧ At O h
    exact ⟨lists_listed_iff hs, hs⟩
  isDisconnected O := .pure _
  isAlive O pid := .pure _
  unmount O lazily := by
    rintro h ⟨hrecords, -⟩
    exact ⟨hrecords, by simp⟩
  stopSession O record := by
    intro h hs
    obtain ⟨h', hrun, hs'⟩ := at_of_unregister hs
    rw [show (site.manager.supervisor.stop record).runOn h = _ from hrun]
    exact .inl hs'
  uninstall O := .pure _
  print O line := .pure _
  build O pid options := Ensures.pure fun h hs => ⟨mountsFor_dataPath pid, hs⟩
  watch O pid := .pure _
  arrived O pid := .pure _
  reloadLog O pid path := .fail _
  runMonitor O pid owner monitor cache := fun h hs => hs
  stopMonitor O pid owner := fun h hs => hs
  ready O pid := .pure _

/-- A mount at the path. -/
def options : MountOptions where
  mountPath := "/mnt"
  configPath := none
  foreground := false
  nonempty := false
  fuseOptions := []
  workDir := workDir
  waitForMount := .ofSeconds 5
  remount := {}
  config := {}

/-- `site` is hospitable: none of its parts fails. -/
theorem hospitable : site.Hospitable At options "/mnt" where
  mountPath := rfl
  request := rfl
  directory h _ := by
    have hchecked : (SessionManager.checkDirectory mountDisk options).toOption = some () := by
      decide +kernel
    exact Act.eq_ok_of_toOption hchecked
  target_path := by decide +kernel
  target_key := by decide +kernel
  lookup O := by
    intro h hs
    rw [show (site.manager.books.registry.lookup site.key).runOn h = _ from lookup_of_at hs]
    trivial
  register O session pid hkey howner := by
    intro h hs
    obtain ⟨h', record, hrun, -, -⟩ := at_of_register hs hkey howner
    rw [show (site.manager.books.registry.register session).runOn h = _ from hrun]
    trivial
  unregister O := by
    intro h hs
    obtain ⟨h', hrun, -⟩ := at_of_unregister hs
    rw [show (site.manager.books.registry.unregister site.key).runOn h = _ from hrun]
    trivial
  list O := fun _ _ => trivial
  unmount O := fun _ _ => trivial
  build O pid := Ensures.pure fun h hs =>
    ⟨mountsFor_dataPath pid, ⟨fun _ _ _ => trivial, fun _ _ _ => trivial⟩, hs⟩
  watch O pid := fun _ _ => trivial
  arrived O pid := fun _ _ => trivial
  ready O pid := fun _ _ => trivial

/-- The host before the first mount. -/
def vacant : PidHost := { disk := PidFiles.emptyWork }

/-- Nothing is mounted or recorded on `vacant`. -/
theorem at_vacant : At {} vacant :=
  ⟨PidFiles.records_none rfl key, by simp [vacant]⟩

/-- `spares_iff` at `vacant`. -/
theorem spares_iff_vacant :
    site.Shared At ∧ site.Hospitable At options "/mnt" ∧ At {} vacant ∧
    ∀ P : Set UInt32, site.Spares P vacant ↔ P.Subsingleton :=
  ⟨shared, hospitable, at_vacant, shared.spares_iff hospitable at_vacant⟩

/-- Process 7 is about to shut down, and process 8 has mounted the path since. -/
def overtaken : Scene PidHost :=
  site.run (Site.Event.overtaking 7 8 options "/mnt") (.quiet vacant)

/-- The record of process 8. -/
def record : Session := ⟨key, none, .process 8, .running⟩

/-- **A record is not spared**: in the scene `overtaken`, the record is that of process 8, and the
shutdown of process 7 removes it. -/
theorem not_spares_overtaken :
    (overtaken.stages 7).isLeaving = true ∧
    (site.recorded overtaken).toOption = some (some record) ∧
    (site.recorded (site.step overtaken (.advance 7))).toOption = some none ∧
    ¬ site.Spares {7, 8} vacant := by
  have hleaving : (overtaken.stages 7).isLeaving = true := by decide +kernel
  have hbefore : (site.recorded overtaken).toOption = some (some record) := by decide +kernel
  have hbehind : (site.recorded (site.step overtaken (.advance 7))).toOption = some none := by
    decide +kernel
  refine ⟨hleaving, hbefore, hbehind, fun hspares => ?_⟩
  have habout : ∀ e ∈ Site.Event.overtaking 7 8 options "/mnt", e.About site {7, 8} := by
    have htarget := hospitable.target_path
    have hkey := hospitable.target_key
    simp [Site.Event.overtaking, Site.Event.comingUp, Site.Event.About, htarget, hkey,
      hospitable.mountPath]
  -- the record of 8 would have to be there behind the shutdown of 7
  have hspared := hspares _ habout 7 8 record hleaving (Act.eq_ok_of_toOption hbefore) rfl
    (by decide)
  have hnone := Act.eq_ok_of_toOption hbehind
  unfold overtaken at hnone
  rw [hspared] at hnone
  exact absurd hnone (by simp)

end PidHost

end MountKeeper
