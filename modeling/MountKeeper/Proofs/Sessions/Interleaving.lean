import MountKeeper.Proofs.Sessions.Books
import MountKeeper.Proofs.Sessions.Stages
import Mathlib.Data.Set.Subsingleton

/-! # Whose record a shutdown removes

A process that has served a path removes the record of the path when it shuts down, without a look
at the owner. Where an unmount and another mount have come between, that is the record of another
process.

* `Site.Spares`: no shutdown takes the record of another process away, whatever happens at the path.
* `Site.Shared` is what is asked of the parts of a site.
* `Site.Shared.sound_step` and `Site.Shared.sound_run`: what is recorded names one of the processes
  that were there, whatever happens; `Site.Shared.ensures_shutdown`: a shutdown removes it.
* `Site.Shared.spares_of_subsingleton`: where there is one process, no record of another is lost. -/

namespace MountKeeper

open Act (Ensures Keeps)

variable {σ : Type}

/-! ## Events at a path -/

namespace Site

/-- The event is about the path, and comes from one of some processes if it is a mount. -/
def Event.About (site : Site σ) (P : Set UInt32) : Event → Prop
  | .mount pid options => pid ∈ P ∧ SessionKey.ofPath options.mountPath = site.key
  | .advance _ => True
  | .unmount typed _ _ => Teardown.isPattern (site.manager.target typed) = false ∧
      SessionKey.ofPath (site.manager.target typed) = site.key

/-- **Records are spared**: whatever mounts, unmounts and processes do at the path, in whatever
order, a record that names another process than the one that shuts down is there behind the shutdown
as it was before. -/
def Spares (site : Site σ) (P : Set UInt32) (s : σ) : Prop :=
  ∀ events : List Event, (∀ e ∈ events, e.About site P) →
    ∀ (pid other : UInt32) (record : Session),
      ((site.run events (.quiet s)).stages pid).isLeaving = true →
      site.recorded (site.run events (.quiet s)) = .ok (some record) →
      record.owner = .process other → other ≠ pid →
      site.recorded (site.step (site.run events (.quiet s)) (.advance pid)) = .ok (some record)

end Site

/-! ## What is known of a path -/

/-- What is known of a path. -/
structure Occupancy where
  /-- What is recorded. -/
  record : Option Session := none
  /-- The processes whose data path is mounted. -/
  up : Set UInt32 := ∅

namespace Occupancy

/-- If there is a record, then it names one of some processes. -/
def NamesOne (P : Set UInt32) (O : Occupancy) : Prop :=
  ∀ record, O.record = some record → ∃ pid ∈ P, record.owner = .process pid

/-- Where nothing is recorded, `NamesOne` holds. -/
theorem namesOne_of_none (P : Set UInt32) (U : Set UInt32) : NamesOne P ⟨none, U⟩ :=
  fun _ h => absurd h (by simp)

/-- A record with the owner `pid ∈ P` satisfies `NamesOne P`. -/
theorem namesOne_of_owner {P : Set UInt32} {pid : UInt32} (hpid : pid ∈ P) {record : Session}
    (howner : record.owner = .process pid) (U : Set UInt32) : NamesOne P ⟨some record, U⟩ := by
  intro record' h
  rw [← Option.some.inj h]
  exact ⟨pid, hpid, howner⟩

end Occupancy

/-- **The data path of a process**: when it has started it is mounted, as long as it serves it is
mounted, and whatever its stop does to what is mounted, the record stays. -/
structure DataPath.MountsFor (path : DataPath σ) (At : Occupancy → σ → Prop) (pid : UInt32) :
    Prop where
  start : ∀ O, Ensures (At O) path.start (fun _ => At { O with up := insert pid O.up })
    fun _ => At O
  isRunning : ∀ O, Ensures (At O) path.isRunning
    (fun running s => (running = true → pid ∈ O.up) ∧ At O s) fun _ => At O
  stop : ∀ O, Ensures (At O) path.stop (fun _ s => ∃ U, At { O with up := U } s)
    fun _ s => ∃ U, At { O with up := U } s

/-- **The parts of a site** that processes share. `At` says what is known of the path on a host. Any
part may fail; then it leaves things as they are. -/
structure Site.Shared (site : Site σ) (At : Occupancy → σ → Prop) : Prop where
  /-- The processes have the registry of the manager. -/
  registry : ∀ pid, (site.server pid).registry = site.manager.books.registry
  self : ∀ pid s, (site.server pid).self s = pid
  lookup : ∀ O, Ensures (At O) (site.manager.books.registry.lookup site.key)
    (fun found s => found = O.record ∧ At O s) fun _ => At O
  /-- What is recorded for a session has its owner. -/
  register : ∀ O session, session.key = site.key →
    Ensures (At O) (site.manager.books.registry.register session)
      (fun _ s => ∃ record, record.owner = session.owner ∧ At { O with record := some record } s)
      fun _ => At O
  /-- The record is removed, whosever it is. -/
  unregister : ∀ O, Ensures (At O) (site.manager.books.registry.unregister site.key)
    (fun _ => At { O with record := none }) fun _ => At O
  /-- The path is listed when the data path of some process is mounted. -/
  list : ∀ O, Ensures (At O) site.manager.books.mounts.list
    (fun paths s => (MountTable.lists paths site.key = true ↔ O.up.Nonempty) ∧ At O s) fun _ => At O
  isDisconnected : ∀ O, Keeps (At O) (site.manager.books.mounts.isDisconnected site.key)
  isAlive : ∀ O pid, Keeps (At O) (site.manager.books.processes.isAlive pid)
  /-- An unmount takes away what is mounted. -/
  unmount : ∀ O lazily, Ensures (At O)
    (site.manager.books.unmounter.unmount site.key.text lazily)
    (fun _ => At { O with up := ∅ }) fun _ => At O
  /-- To stop a session from outside removes its record, or leaves it. -/
  stopSession : ∀ O record, Ensures (At O) (site.manager.supervisor.stop record)
    (fun _ s => At { O with record := none } s ∨ At O s)
    fun _ s => At { O with record := none } s ∨ At O s
  uninstall : ∀ O, Keeps (At O) (site.manager.remount.uninstall site.key)
  print : ∀ O line, Keeps (At O) (site.manager.console.print line)
  build : ∀ O pid options, Ensures (At O) ((site.server pid).factory.build options)
    (fun path s => path.MountsFor At pid ∧ At O s) fun _ => At O
  watch : ∀ O pid, Keeps (At O) (site.server pid).signals.begin
  arrived : ∀ O pid, Keeps (At O) (site.server pid).signals.arrived
  reloadLog : ∀ O pid path, Keeps (At O) ((site.server pid).reloadLog path)
  runMonitor : ∀ O pid owner monitor cache,
    Keeps (At O) ((site.server pid).monitor.run owner monitor cache)
  stopMonitor : ∀ O pid owner, Keeps (At O) ((site.server pid).monitor.stop owner)
  ready : ∀ O pid, Keeps (At O) (site.ready pid)

namespace Site

variable {site : Site σ} {At : Occupancy → σ → Prop} {P : Set UInt32}

/-- Something is known of the path, and the record names one of some processes. -/
def Known (At : Occupancy → σ → Prop) (P : Set UInt32) (s : σ) : Prop :=
  ∃ O : Occupancy, O.NamesOne P ∧ At O s

/-- To keep `Known At P`, it is enough to take each occupancy with `NamesOne P` to one that has it.
-/
theorem keeps_known {α : Type} {a : Act σ α} (h : ∀ O : Occupancy, O.NamesOne P →
    Ensures (At O) a (fun _ => Known At P) fun _ => Known At P) : Keeps (Known At P) a :=
  fun s ⟨O, hO, hs⟩ => h O hO s hs

/-- What keeps `At O` for every `O` keeps `Known At P`. -/
theorem keeps_known_of_keeps {α : Type} {a : Act σ α} (h : ∀ O, Keeps (At O) a) :
    Keeps (Known At P) a :=
  keeps_known fun O hO => (h O).weaken (fun _ _ hs => ⟨O, hO, hs⟩) fun _ _ hs => ⟨O, hO, hs⟩

namespace Shared

/-- **What a process does from its start to its end** is what it does at its stages, one after the
other: `takeUp`, `serve` and `shutdown`. -/
theorem serveHere_eq (h : site.Shared At) (pid : UInt32) (options : MountOptions) :
    (site.server pid).serveHere (site.session pid options) options (site.ready pid) = (do
      let (path, polls) ←
        (site.server pid).takeUp (site.session pid options) options (site.ready pid) pid
      (site.server pid).serve path options polls
      (site.server pid).shutdown path { site.session pid options with state := .stopping }
        options pid
      return .completed) :=
  (site.server pid).serveHere_eq (h.self pid) _ _ _

/-! ## What is always known -/

/-- What is mounted at the path is taken away; the record stays, so what is known does. -/
theorem keeps_detach (h : site.Shared At) (lazily : Bool) :
    Keeps (Known At P) (site.manager.books.unmounter.unmount site.key.text lazily) :=
  keeps_known fun O hO => (h.unmount O lazily).weaken
    (fun _ _ hs => ⟨{ O with up := ∅ }, hO, hs⟩) fun _ _ hs => ⟨O, hO, hs⟩

/-- The parts of the books keep `Known At P`. -/
theorem keeping (h : site.Shared At) (P : Set UInt32) :
    site.manager.books.Keeping site.key (Known At P) where
  lookup := keeps_known fun O hO =>
    (h.lookup O).weaken (fun _ _ hs => ⟨O, hO, hs.2⟩) fun _ _ hs => ⟨O, hO, hs⟩
  unregister := keeps_known fun O hO =>
    (h.unregister O).weaken (fun _ _ hs => ⟨_, Occupancy.namesOne_of_none P O.up, hs⟩)
      fun _ _ hs => ⟨O, hO, hs⟩
  list := keeps_known fun O hO =>
    (h.list O).weaken (fun _ _ hs => ⟨O, hO, hs.2⟩) fun _ _ hs => ⟨O, hO, hs⟩
  isDisconnected := keeps_known_of_keeps h.isDisconnected
  isAlive pid := keeps_known_of_keeps fun O => h.isAlive O pid
  unmount := h.keeps_detach true

/-- `prepare` keeps what is known: `validate` only asks, and `reconcile` removes a record at most.
-/
theorem keeps_prepare (h : site.Shared At) {options : MountOptions}
    (hkey : SessionKey.ofPath options.mountPath = site.key) :
    Keeps (Known At P) (site.manager.prepare options) := by
  unfold SessionManager.prepare
  rw [hkey]
  refine (SessionManager.keeps_validate (h.keeping P) hkey).bind fun _ => ?_
  refine (h.keeping P).reconcile.bind fun found => ?_
  cases found with
  | proceed => exact .pure _
  | alreadyMounted => exact .fail _

/-- An unmount of the path keeps what is known: behind it the record is there as before, or gone. -/
theorem keeps_unmount (h : site.Shared At) {typed : String}
    (hpath : Teardown.isPattern (site.manager.target typed) = false)
    (hkey : SessionKey.ofPath (site.manager.target typed) = site.key) (lazily forGood : Bool) :
    Keeps (Known At P) (site.manager.unmount typed lazily forGood) := by
  refine SessionManager.keeps_unmount (h.keeping P) (h.keeps_detach lazily)
    (fun record => keeps_known fun O hO => ?_)
    (fun line => keeps_known_of_keeps fun O => h.print O line) (keeps_known_of_keeps h.uninstall)
    hpath hkey forGood
  have hknown (s : σ) : At { O with record := none } s ∨ At O s → Known At P s
    | .inl hs => ⟨_, Occupancy.namesOne_of_none P O.up, hs⟩
    | .inr hs => ⟨O, hO, hs⟩
  exact (h.stopSession O record).weaken (fun _ => hknown) fun _ => hknown

/-! ### A process -/

section Process

variable {pid : UInt32} {path : DataPath σ}

/-- The start of a data path adds a process to those that are up, and leaves the record. -/
theorem keeps_start (hpath : path.MountsFor At pid) : Keeps (Known At P) path.start :=
  keeps_known fun O hO => (hpath.start O).weaken
    (fun _ _ hs => ⟨{ O with up := insert pid O.up }, hO, hs⟩) fun _ _ hs => ⟨O, hO, hs⟩

/-- The stop of a data path leaves the record. -/
theorem keeps_stop (hpath : path.MountsFor At pid) : Keeps (Known At P) path.stop := by
  have hknown {O : Occupancy} (hO : O.NamesOne P) (s : σ) :
      (∃ U, At { O with up := U } s) → Known At P s :=
    fun ⟨U, hs⟩ => ⟨{ O with up := U }, hO, hs⟩
  exact keeps_known fun O hO => (hpath.stop O).weaken (fun _ => hknown hO) fun _ => hknown hO

/-- `watchHealth` does not fail: that the monitor cannot be run does not matter. -/
theorem ensures_watchHealth (h : site.Shared At) (O : Occupancy) (pid : UInt32)
    (options : MountOptions) : Ensures (At O) ((site.server pid).watchHealth options pid)
      (fun _ => At O) fun _ _ => False := by
  have hrun := h.runMonitor O pid pid options.config.monitor options.config.cache
  have hdone : Ensures (At O) (pure () : Act σ Unit) (fun _ => At O) fun _ _ => False :=
    Ensures.pure fun s hs => hs
  refine Ensures.ite (fun _ => ?_) fun _ => hdone
  exact hrun.attempted.bind fun _ => hdone

/-- `attach path session` keeps what is known: a session that cannot be recorded is not served, and
otherwise is recorded for its owner, `pid`. -/
theorem keeps_attach (h : site.Shared At) (hpid : pid ∈ P) (hpath : path.MountsFor At pid)
    {session : Session} (hkey : session.key = site.key) (howner : session.owner = .process pid) :
    Keeps (Known At P) ((site.server pid).attach path session) := by
  have hregister : Keeps (Known At P) ((site.server pid).registry.register session) := by
    rw [h.registry]
    refine keeps_known fun O hO => (h.register O session hkey).weaken ?_ fun _ _ hs => ⟨O, hO, hs⟩
    rintro - s ⟨record, hrecord, hs⟩
    exact ⟨_, Occupancy.namesOne_of_owner hpid (hrecord.trans howner) O.up, hs⟩
  refine ((keeps_start hpath).inContext _).bind fun _ => hregister.attempt.bind fun result => ?_
  cases result with
  | ok _ => exact .pure _
  | error f => exact (keeps_stop hpath).attempt.bind fun _ => .fail f

/-- When `takeUp` returns, its data path is one of `pid` in the sense of `MountsFor`. Whether it
returns or fails, what is known stays, since a record it makes has an owner in `P`. -/
theorem ensures_takeUp (h : site.Shared At) (hpid : pid ∈ P) (options : MountOptions) :
    Ensures (Known At P)
      ((site.server pid).takeUp (site.session pid options) options (site.ready pid) pid)
      (fun taken s => taken.1.MountsFor At pid ∧ Known At P s) fun _ => Known At P := by
  have hbuild : Ensures (Known At P) ((site.server pid).factory.build options)
      (fun path s => path.MountsFor At pid ∧ Known At P s) fun _ => Known At P :=
    fun s ⟨O, hO, hs⟩ => (h.build O pid options).weaken (fun _ _ hs => ⟨hs.1, O, hO, hs.2⟩)
      (fun _ _ hs => ⟨O, hO, hs⟩) s hs
  have hwatch := keeps_known_of_keeps (P := P) fun O => h.watch O pid
  have hready := keeps_known_of_keeps (P := P) fun O => h.ready O pid
  have hmonitor := keeps_known_of_keeps (P := P) fun O =>
    (h.ensures_watchHealth O pid options).never
  -- the data path is one of `pid` as soon as it is built, whether it starts or not
  refine hbuild.bind fun path => Ensures.of_fact fun hpath => ?_
  have hattach : Keeps (Known At P) ((site.server pid).attach path
      { site.session pid options with state := .running }) := h.keeps_attach hpid hpath rfl rfl
  refine Ensures.bind hwatch fun _ => Ensures.bind hattach fun _ => ?_
  refine Ensures.bind hready fun _ => Ensures.bind Keeps.look fun _ => ?_
  exact Ensures.bind hmonitor fun _ => Ensures.pure fun s hs => ⟨hpath, hs⟩

/-- `answerSignals` does not fail, whether or not a configuration can be read again. -/
theorem ensures_answerSignals (h : site.Shared At) (O : Occupancy) (pid : UInt32)
    (options : MountOptions) (signals : List Signal) :
    Ensures (At O) ((site.server pid).answerSignals options signals) (fun _ => At O)
      fun _ _ => False := by
  induction signals with
  | nil => exact Ensures.pure fun s hs => hs
  | cons signal rest ih =>
    cases signal with
    | interrupt => exact Ensures.pure fun s hs => hs
    | terminate => exact Ensures.pure fun s hs => hs
    | reload =>
      unfold LocalSupervisor.answerSignals
      cases options.configPath with
      | none => exact ih
      | some path => exact (h.reloadLog O pid path).attempted.bind fun _ => ih

/-- `poll` goes on only with `pid ∈ O.up`. -/
theorem ensures_poll (h : site.Shared At) (hpath : path.MountsFor At pid) (O : Occupancy)
    (options : MountOptions) : Ensures (At O) ((site.server pid).poll path options)
      (fun goesOn s => (goesOn = true → pid ∈ O.up) ∧ At O s) fun _ => At O := by
  refine Ensures.bind (h.arrived O pid) fun signals => ?_
  refine (h.ensures_answerSignals O pid options signals).never.bind fun ended => ?_
  refine Ensures.ite (fun _ => Ensures.pure fun s hs => ⟨nofun, hs⟩) fun _ => ?_
  exact hpath.isRunning O

/-- **A shutdown removes the record**, whosever it is: behind it `At ⟨none, U⟩` holds, unless the
registry fails. -/
theorem ensures_shutdown (h : site.Shared At) (hpath : path.MountsFor At pid) (O : Occupancy)
    {session : Session} (hkey : session.key = site.key) (options : MountOptions)
    {E : Failure → σ → Prop} (hgone : ∀ f U s, At ⟨none, U⟩ s → E f s)
    (hunregister : ∀ U, Ensures (At ⟨O.record, U⟩)
      (site.manager.books.registry.unregister site.key) (fun _ => At ⟨none, U⟩) E) :
    Ensures (At O) ((site.server pid).shutdown path session options pid)
      (fun _ s => ∃ U, At ⟨none, U⟩ s) E := by
  -- whatever the data path does when it is stopped, the record is still there
  have hstop : Ensures (At O) (Act.attempt path.stop)
      (fun _ s => ∃ U, At ⟨O.record, U⟩ s) fun _ _ => False :=
    Ensures.attempt ((hpath.stop O).weaken (fun _ _ hs => hs) fun _ _ hs => hs)
  have hend : Ensures (At O) (Act.attempt path.stop >>= fun stopped =>
      (site.server pid).registry.unregister session.key >>= fun _ => Act.ofExcept stopped)
      (fun _ s => ∃ U, At ⟨none, U⟩ s) E := by
    rw [h.registry, hkey]
    refine hstop.never.bind fun stopped => Ensures.of_exists fun U => ?_
    refine (hunregister U).bind fun _ => ?_
    exact Ensures.ofExcept (fun _ _ s hs => ⟨U, hs⟩) fun f _ s hs => hgone f U s hs
  -- the monitor is stopped before that, whether or not it can be
  refine Ensures.ite (fun _ => ?_) fun _ => hend
  have henabled : Ensures (At O) (site.server pid).monitor.isEnabled (fun _ => At O) E := by
    refine Ensures.bind (Q := fun _ => At O) (Ensures.look fun s hs => hs) fun _ => ?_
    exact Ensures.pure fun s hs => hs
  refine henabled.bind fun enabled => Ensures.ite (fun _ => ?_) fun _ => hend
  exact (h.stopMonitor O pid pid).attempted.never.bind fun _ => hend

/-- A shutdown keeps what is known: it removes the record, and `NamesOne` holds of nothing. -/
theorem keeps_shutdown (h : site.Shared At) (hpath : path.MountsFor At pid)
    {session : Session} (hkey : session.key = site.key) (options : MountOptions) :
    Keeps (Known At P) ((site.server pid).shutdown path session options pid) := by
  have hgone (U : Set UInt32) (s : σ) (hs : At ⟨none, U⟩ s) : Known At P s :=
    ⟨_, Occupancy.namesOne_of_none P U, hs⟩
  refine keeps_known fun O hO => (h.ensures_shutdown hpath O hkey options
    (E := fun _ => Known At P) (fun _ => hgone) fun U => ?_).weaken
    (fun _ s ⟨U, hs⟩ => hgone U s hs) fun _ _ hs => hs
  exact (h.unregister ⟨O.record, U⟩).failing fun _ _ hs => ⟨⟨O.record, U⟩, hO, hs⟩

end Process

end Shared

/-! ## Every run -/

/-- A process that is one of some processes, with the data path that is its own. -/
def Placed (At : Occupancy → σ → Prop) (P : Set UInt32) (pid : UInt32) : Stage σ → Prop
  | .absent | .ended => True
  | .admitted _ | .starting _ => pid ∈ P
  | .serving path _ | .leaving path _ => pid ∈ P ∧ path.MountsFor At pid

/-- Something is known of the path, and every process is one that may be there. -/
structure Sound (At : Occupancy → σ → Prop) (P : Set UInt32) (w : Scene σ) : Prop where
  known : Known At P w.host
  placed : ∀ pid, Placed At P pid (w.stages pid)

/-- A turn of one process keeps the scene `Sound`, if it keeps what is known and leads to a stage
that is `Placed`. -/
theorem Sound.turn {w : Scene σ} (hw : Sound At P w) {pid : UInt32} {a : Act σ (Stage σ)}
    {otherwise : Stage σ} (ha : Ensures (Known At P) a
      (fun stage s => Placed At P pid stage ∧ Known At P s) fun _ => Known At P)
    (hother : Placed At P pid otherwise) : Sound At P (w.turn pid a otherwise) := by
  -- no other process moves
  have hplaced {stage : Stage σ} (hstage : Placed At P pid stage) (pid' : UInt32) :
      Placed At P pid' (Function.update w.stages pid stage pid') := by
    by_cases heq : pid' = pid
    · subst heq
      rwa [Function.update_self]
    · rw [Function.update_of_ne heq]
      exact hw.placed pid'
  have hbehind := ha w.host hw.known
  rcases hrun : a.runOn w.host with ⟨r, s⟩
  rw [hrun] at hbehind
  cases r with
  | ok stage =>
    rw [Scene.turn_of_ok hrun]
    exact ⟨hbehind.2, hplaced hbehind.1⟩
  | error f =>
    rw [Scene.turn_of_error hrun]
    exact ⟨hbehind, hplaced hother⟩

namespace Shared

/-- `site.advance pid stage` keeps what is known, and leads to a stage that is `Placed`. -/
theorem ensures_advance (h : site.Shared At) {pid : UInt32} {stage : Stage σ}
    (hstage : Placed At P pid stage) : Ensures (Known At P) (site.advance pid stage)
      (fun stage s => Placed At P pid stage ∧ Known At P s) fun _ => Known At P := by
  cases stage with
  | absent => exact Ensures.pure fun s hs => ⟨trivial, hs⟩
  | ended => exact Ensures.pure fun s hs => ⟨trivial, hs⟩
  | admitted options =>
    -- a record that was found dead may be removed before the start
    have hstarting : Ensures (Known At P) (pure (Stage.starting options))
        (fun stage s => Placed At P pid stage ∧ Known At P s) fun _ => Known At P :=
      Ensures.pure fun s hs => ⟨hstage, hs⟩
    exact Ensures.ite (fun _ => Ensures.bind (h.keeping P).unregister fun _ => hstarting)
      fun _ => hstarting
  | starting options =>
    refine (h.ensures_takeUp hstage options).bind fun taken => Ensures.of_fact fun hpath => ?_
    exact Ensures.pure fun s hs => ⟨⟨hstage, hpath⟩, hs⟩
  | serving path options =>
    have hpoll : Keeps (Known At P) ((site.server pid).poll path options) := keeps_known fun O hO =>
      (h.ensures_poll hstage.2 O options).weaken (fun _ _ hs => ⟨O, hO, hs.2⟩)
        fun _ _ hs => ⟨O, hO, hs⟩
    refine Ensures.bind hpoll fun goesOn => Ensures.ite (fun _ => ?_) fun _ => ?_
    · exact Ensures.pure fun s hs => ⟨hstage, hs⟩
    · exact Ensures.pure fun s hs => ⟨hstage, hs⟩
  | leaving path options =>
    refine Ensures.bind (h.keeps_shutdown hstage.2 rfl options) fun _ => ?_
    exact Ensures.pure fun s hs => ⟨trivial, hs⟩

/-- **One event** keeps the scene `Sound`. -/
theorem sound_step (h : site.Shared At) {w : Scene σ} (hw : Sound At P w) {e : Event}
    (he : e.About site P) : Sound At P (site.step w e) := by
  cases e with
  | advance pid => exact hw.turn (h.ensures_advance (hw.placed pid)) trivial
  | unmount typed lazily forGood =>
    exact ⟨Ensures.final (h.keeps_unmount he.1 he.2 lazily forGood) hw.known, hw.placed⟩
  | mount pid options =>
    refine hw.turn ?_ (hw.placed pid)
    have hplaced := hw.placed pid
    unfold enter
    split
    case h_1 =>
      refine Ensures.bind (h.keeps_prepare he.2) fun _ => ?_
      exact Ensures.pure fun s hs => ⟨he.1, hs⟩
    case h_2 => exact Ensures.pure fun s hs => ⟨hplaced, hs⟩

/-- **Any events** keep the scene `Sound`. Induction on the events, with `sound_step` at each. -/
theorem sound_run (h : site.Shared At) {w : Scene σ} (hw : Sound At P w) {events : List Event}
    (hevents : ∀ e ∈ events, e.About site P) : Sound At P (site.run events w) := by
  induction events generalizing w with
  | nil => exact hw
  | cons e events ih =>
    exact ih (h.sound_step hw (hevents e List.mem_cons_self))
      fun e' he' => hevents e' (List.mem_cons_of_mem e he')

/-- A quiet path is `Sound`: nothing is recorded, and there is no process yet. -/
theorem sound_quiet {s : σ} (hs : At {} s) : Sound At P (.quiet s) where
  known := ⟨{}, Occupancy.namesOne_of_none P ∅, hs⟩
  placed _ := trivial

/-- **What is recorded names one of the processes**, whatever happens: its owner is in `P`. -/
theorem owner_mem_of_recorded (h : site.Shared At) {w : Scene σ} (hw : Sound At P w)
    {record : Session} (hrecord : site.recorded w = .ok (some record)) {pid : UInt32}
    (howner : record.owner = .process pid) : pid ∈ P := by
  obtain ⟨O, hO, hs⟩ := hw.known
  have hlookup := h.lookup O w.host hs
  unfold recorded at hrecord
  rcases hrun : (site.manager.books.registry.lookup site.key).runOn w.host with ⟨r, s⟩
  rw [hrun] at hrecord hlookup
  dsimp only at hrecord
  subst hrecord
  obtain ⟨pid', hpid', howner'⟩ := hO record hlookup.1.symm
  rwa [← Owner.process.inj (howner'.symm.trans howner)]

/-- Where `P` has one process, it finds no record but its own, so that `site.Spares P`. -/
theorem spares_of_subsingleton (h : site.Shared At) {s : σ} (hs : At {} s) (hP : P.Subsingleton) :
    site.Spares P s := by
  intro events hevents pid other record hleaving hrecord howner hne
  have hsound := h.sound_run (sound_quiet hs) hevents
  -- the owner of the record and the process that shuts down are both among the processes
  have hother : other ∈ P := h.owner_mem_of_recorded hsound hrecord howner
  have hpid : pid ∈ P := by
    have hplaced := hsound.placed pid
    cases hstage : (site.run events (.quiet s)).stages pid <;> rw [hstage] at hplaced hleaving
    case leaving => exact hplaced.1
    all_goals exact absurd hleaving (by simp [Stage.isLeaving])
  exact absurd (hP hother hpid) hne

end Shared

end Site

end MountKeeper
