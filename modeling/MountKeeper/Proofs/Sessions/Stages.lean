import MountKeeper.LocalSupervisor
import MountKeeper.Proofs.Act
import MountKeeper.SessionManager
import Mathlib.Logic.Function.Basic

/-! # The stages of serving processes

Processes that serve one mount path are cut into stages, so that they can be interleaved with each
other and with commands.

* `SessionManager.prepare` is what a mount does before its session is started, and
  `LocalSupervisor.takeUp` and `LocalSupervisor.poll` are the pieces of a serving process.
  `SessionManager.mount_eq`, `LocalSupervisor.serveHere_eq` and `LocalSupervisor.serve_succ` say
  that nothing is lost by cutting.
* `Stage` is where a process is in its life; `Site.advance` takes it to the next stage.
* `Site.Event` is what happens at a path; `Site.step` and `Site.run` are what comes of it. -/

namespace MountKeeper

variable {σ : Type}

/-! ## Cutting -/

/-- To look at the host and pay no heed to it is to do nothing. -/
theorem Act.look_bind {α : Type} (a : Act σ α) : (Act.look >>= fun _ => a) = a := rfl

namespace SessionManager

/-- What a mount does before its session is started: the request is checked, and the path is freed
from what a dead session has left. -/
def prepare (m : SessionManager σ) (options : MountOptions) : Act σ Unit := do
  m.validate options
  let key := SessionKey.ofPath options.mountPath
  match ← m.books.reconcile key with
  | .alreadyMounted => Act.refuse (.alreadyMounted key.text)
  | .proceed => pure ()

/-- A mount begins with its admission. -/
theorem mount_eq (m : SessionManager σ) (options : MountOptions) : m.mount options = (do
    m.prepare options
    let key := SessionKey.ofPath options.mountPath
    let session : Session := {
      key := key, configPath := options.configPath, owner := .process (m.self (← Act.look)) }
    let started ← Act.inContext "failed to mount" (m.supervisor.start session options)
    if goesOn started && wantsRemount options then
      m.enableRemount key options
    return started) := by
  unfold mount prepare
  rw [bind_assoc]
  congr 1
  funext _
  dsimp only
  rw [bind_assoc]
  congr 1
  -- a path that is taken ends the mount in the first part, and a free one leads on to the second
  funext found
  cases found <;> rfl

end SessionManager

namespace LocalSupervisor

/-- Everything before the first poll: the data path is started and the session is recorded. It is
answered with the data path and a bound for its polls. -/
def takeUp (s : LocalSupervisor σ) (session : Session) (options : MountOptions) (ready : Act σ Unit)
    (pid : UInt32) : Act σ (DataPath σ × Nat) := do
  let path ← s.factory.build options
  s.signals.begin
  s.attach path { session with state := .running }
  ready
  let h ← Act.look
  s.watchHealth options pid
  return (path, s.pollLimit h)

/-- One round of serving: whether it goes on. Signals are seen before the data path is. -/
def poll (s : LocalSupervisor σ) (path : DataPath σ) (options : MountOptions) : Act σ Bool := do
  if ← s.answerSignals options (← s.signals.arrived) then
    return false
  else path.isRunning

/-- Serving is one round after the other. -/
theorem serve_succ (s : LocalSupervisor σ) (path : DataPath σ) (options : MountOptions) (n : Nat) :
    s.serve path options (n + 1) = (do
      if ← s.poll path options then
        s.serve path options n) := by
  rw [serve, poll, bind_assoc]
  congr 1
  funext signals
  rw [bind_assoc]
  congr 1
  funext ended
  cases ended <;> rfl

/-- **The life of a process** that serves a session: it is taken up, served and shut down. -/
theorem serveHere_eq (s : LocalSupervisor σ) {pid : UInt32} (hself : ∀ h, s.self h = pid)
    (session : Session) (options : MountOptions) (ready : Act σ Unit) :
    s.serveHere session options ready = (do
      let session := { session with owner := .process pid }
      let (path, polls) ← s.takeUp session options ready pid
      s.serve path options polls
      s.shutdown path { session with state := .stopping } options pid
      return .completed) := by
  unfold serveHere runSession takeUp
  simp only [hself, Act.look_bind, bind_assoc, pure_bind]

end LocalSupervisor

/-! ## Stages -/

/-- What it takes to have one path mounted, by processes that serve it. -/
structure Site (σ : Type) where
  /-- The path. -/
  key : SessionKey
  manager : SessionManager σ
  /-- What a process serves with. -/
  server : UInt32 → LocalSupervisor σ
  /-- What a process does once its session is recorded. -/
  ready : UInt32 → Act σ Unit

/-- Where a process is in its life. -/
inductive Stage (σ : Type) where
  /-- There is no such process yet. -/
  | absent
  /-- The mount that the process comes from has found the path free. -/
  | admitted (options : MountOptions)
  /-- It is about to start its data path. -/
  | starting (options : MountOptions)
  /-- It is serving. -/
  | serving (path : DataPath σ) (options : MountOptions)
  /-- It has seen the end of its data path or a signal, and is about to shut down. -/
  | leaving (path : DataPath σ) (options : MountOptions)
  | ended

/-- Whether a process is about to shut down. -/
def Stage.isLeaving : Stage σ → Bool
  | leaving _ _ => true
  | _ => false

namespace Site

/-- The session that a process serves. -/
def session (site : Site σ) (pid : UInt32) (options : MountOptions) : Session where
  key := site.key
  configPath := options.configPath
  owner := .process pid

/-- A process comes from a mount that is admitted. -/
def enter (site : Site σ) (options : MountOptions) : Stage σ → Act σ (Stage σ)
  | .absent => do
    site.manager.prepare options
    return .admitted options
  | stage => return stage

/-- Takes a process to its next stage. -/
def advance (site : Site σ) (pid : UInt32) : Stage σ → Act σ (Stage σ)
  | .admitted options => do
    -- what a session in the background would be taken for is removed before there is its process
    if !options.foreground then
      site.manager.books.registry.unregister site.key
    return .starting options
  | .starting options => do
    let (path, _) ← (site.server pid).takeUp (site.session pid options) options (site.ready pid) pid
    return .serving path options
  | .serving path options => do
    if ← (site.server pid).poll path options then return .serving path options
    else return .leaving path options
  | .leaving path options => do
    (site.server pid).shutdown path { site.session pid options with state := .stopping } options pid
    return .ended
  | stage => return stage

end Site

/-! ## Events -/

/-- A host, and where each process is on it. -/
structure Scene (σ : Type) where
  host : σ
  stages : UInt32 → Stage σ

namespace Scene

/-- The host, with no process on it. -/
def quiet (s : σ) : Scene σ := ⟨s, fun _ => .absent⟩

/-- A process does something that answers with its next stage, or ends up in another one. -/
def turn (w : Scene σ) (pid : UInt32) (a : Act σ (Stage σ)) (otherwise : Stage σ) : Scene σ :=
  match a.runOn w.host with
  | (.ok stage, s) => ⟨s, Function.update w.stages pid stage⟩
  | (.error _, s) => ⟨s, Function.update w.stages pid otherwise⟩

/-- A turn leaves the host as its act does, whatever stage comes of it. -/
theorem turn_host (w : Scene σ) (pid : UInt32) (a : Act σ (Stage σ)) (otherwise : Stage σ) :
    (w.turn pid a otherwise).host = (a.runOn w.host).2 := by
  unfold turn
  rcases a.runOn w.host with ⟨_ | _, s⟩ <;> rfl

/-- A turn that succeeds takes the process to the stage it returns, and leaves the other processes.
-/
theorem turn_of_ok {w : Scene σ} {pid : UInt32} {a : Act σ (Stage σ)} {otherwise stage : Stage σ}
    {s : σ} (h : a.runOn w.host = (.ok stage, s)) :
    w.turn pid a otherwise = ⟨s, Function.update w.stages pid stage⟩ := by
  unfold turn
  rw [h]

/-- A turn that fails takes the process to the stage that is given for this case. -/
theorem turn_of_error {w : Scene σ} {pid : UInt32} {a : Act σ (Stage σ)} {otherwise : Stage σ}
    {f : Failure} {s : σ} (h : a.runOn w.host = (.error f, s)) :
    w.turn pid a otherwise = ⟨s, Function.update w.stages pid otherwise⟩ := by
  unfold turn
  rw [h]

end Scene

/-- What happens at a path. -/
inductive Site.Event where
  /-- A mount, whose session is to be served by a process of its own. -/
  | mount (pid : UInt32) (options : MountOptions)
  /-- A process goes on to its next stage. -/
  | advance (pid : UInt32)
  /-- An unmount. -/
  | unmount (typed : String) (lazily forGood : Bool)

namespace Site

/-- What comes of an event. A mount that is not admitted has no process, and a process that fails
ends. -/
def step (site : Site σ) (w : Scene σ) : Event → Scene σ
  | .mount pid options => w.turn pid (site.enter options (w.stages pid)) (w.stages pid)
  | .advance pid => w.turn pid (site.advance pid (w.stages pid)) .ended
  | .unmount typed lazily forGood =>
    { w with host := ((site.manager.unmount typed lazily forGood).runOn w.host).2 }

/-- A mount that is admitted. -/
theorem step_mount {site : Site σ} {w : Scene σ} {pid : UInt32} {options : MountOptions} {s : σ}
    (hstage : w.stages pid = .absent)
    (h : (site.manager.prepare options).runOn w.host = (.ok (), s)) :
    site.step w (.mount pid options) = ⟨s, Function.update w.stages pid (.admitted options)⟩ := by
  show w.turn pid (site.enter options (w.stages pid)) (w.stages pid) = _
  rw [hstage]
  refine Scene.turn_of_ok ?_
  show (site.manager.prepare options >>= fun _ => pure (Stage.admitted options)).runOn w.host = _
  rw [Act.runOn_bind, h]
  rfl

/-- A process that comes to its next stage. -/
theorem step_advance {site : Site σ} {w : Scene σ} {pid : UInt32} {stage stage' : Stage σ} {s : σ}
    (hstage : w.stages pid = stage) (h : (site.advance pid stage).runOn w.host = (.ok stage', s)) :
    site.step w (.advance pid) = ⟨s, Function.update w.stages pid stage'⟩ := by
  show w.turn pid (site.advance pid (w.stages pid)) .ended = _
  rw [hstage]
  exact Scene.turn_of_ok h

/-- A process that goes on from the stage that it came to last. -/
theorem step_advance_update {site : Site σ} {stages : UInt32 → Stage σ} {pid : UInt32}
    {stage stage' : Stage σ} {s s' : σ}
    (h : (site.advance pid stage).runOn s = (.ok stage', s')) :
    site.step ⟨s, Function.update stages pid stage⟩ (.advance pid)
      = ⟨s', Function.update stages pid stage'⟩ := by
  have hstage : Function.update stages pid stage pid = stage := Function.update_self pid _ _
  rw [step_advance hstage h, Function.update_idem]

/-- What comes of events, one after the other. -/
def run (site : Site σ) (events : List Event) (w : Scene σ) : Scene σ :=
  events.foldl site.step w

/-- `site.run (events ++ more)`: the first events, and then the others. -/
theorem run_append (site : Site σ) (events more : List Event) (w : Scene σ) :
    site.run (events ++ more) w = site.run more (site.run events w) :=
  List.foldl_append

/-- What is recorded under the path. -/
def recorded (site : Site σ) (w : Scene σ) : Except Failure (Option Session) :=
  ((site.manager.books.registry.lookup site.key).runOn w.host).1

end Site

end MountKeeper
