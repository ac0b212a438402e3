import MountKeeper.Proofs.Sessions.Stages
import MountKeeper.Proofs.Traced

/-! # What a serving process does

A serving process is written about while it serves: what it asks of the data path, the registry, the
watch for signals and the log, in order and with the answers. The health monitor is left out.

* `Deed` is one thing that it asks for, and `LocalSupervisor.deeds` are those of a whole life.
* `LocalSupervisor.shutdown_eq` and `LocalSupervisor.runSession_eq` cut the life into pieces.
* `LocalSupervisor.follows_runSession`: to be written about changes nothing. -/

namespace MountKeeper

open Act (Shadows Follows)

variable {σ ε : Type}

/-- What a serving process asks of the parts that it works with, with the answer. -/
inductive Deed where
  /-- The data path is started. -/
  | start (r : Except Failure Unit)
  /-- The session is recorded. -/
  | register (session : Session) (r : Except Failure Unit)
  /-- It is looked which signals have arrived. -/
  | hear (r : Except Failure (List Signal))
  /-- The log is made to follow the configuration file. -/
  | reload (file : String) (r : Except Failure LogLevel)
  /-- It is looked whether the data path is serving. -/
  | look (r : Except Failure Bool)
  /-- The data path is stopped. -/
  | stop (r : Except Failure Unit)
  /-- The record of a key is removed. -/
  | unregister (key : SessionKey) (r : Except Failure Unit)

/-- Whether something is done while serving, between the start of a session and its end. -/
def Deed.isServing : Deed → Bool
  | hear _ | reload _ _ | look _ => true
  | _ => false

/-- Whether something is an attempt to read the configuration again. -/
def Deed.isReload : Deed → Bool
  | reload _ _ => true
  | _ => false

/-- Whether a signal asks a serving process to end. -/
def Signal.asksToEnd : Signal → Bool
  | reload => false
  | _ => true

/-- Whether something is a reason to end: a signal that asks to, or a data path that is found not to
be serving. -/
def Deed.endsServing : Deed → Bool
  | hear (.ok signals) => signals.any Signal.asksToEnd
  | look (.ok running) => !running
  | _ => false

/-- An attempt to read the configuration again is made while serving, and no reason to end. -/
theorem Deed.of_isReload {d : Deed} (h : d.isReload = true) :
    d.isServing = true ∧ d.endsServing = false := by
  cases d with
  | reload file r => exact ⟨rfl, rfl⟩
  | _ => exact absurd h (by simp [isReload])

/-! ## Parts -/

/-- A data path that is written about. -/
def DataPath.noted (path : DataPath σ) : DataPath (Traced σ Deed) where
  start := path.start.noted .start
  isRunning := path.isRunning.noted .look
  stop := path.stop.noted .stop

/-- The processes of a traced host. -/
def ProcessTable.unseen (t : ProcessTable σ) : ProcessTable (Traced σ ε) where
  isAlive pid := (t.isAlive pid).unseen
  childrenOf pid := (t.childrenOf pid).unseen
  pidsNamed name := (t.pidsNamed name).unseen
  terminate pid := (t.terminate pid).unseen
  kill pid := (t.kill pid).unseen

/-- The health monitor of a traced host. -/
def HealthMonitor.unseen (m : HealthMonitor σ) : HealthMonitor (Traced σ ε) where
  surroundings := m.surroundings
  runner := ⟨fun program arguments => (m.runner.run program arguments).unseen⟩
  processes := m.processes.unseen
  locator := ⟨fun owner => (m.locator.find owner).unseen⟩
  console := ⟨fun line => (m.console.print line).unseen⟩
  program := m.program
  enabled := ⟨fun t => m.enabled.get t.host, fun b t => { t with host := m.enabled.put b t.host }⟩

namespace HealthMonitor

variable (m : HealthMonitor σ)

/-- Whether the monitor is enabled is looked up without a word. -/
theorem shadows_isEnabled : Shadows (ε := ε) m.unseen.isEnabled m.isEnabled fun _ => [] := by
  intro t
  show (Except.ok (m.enabled.get t.host), t)
    = (Except.ok (m.enabled.get t.host), ⟨t.host, t.trace ++ []⟩)
  rw [List.append_nil]

/-- That the monitor is given up is not written down. -/
theorem shadows_giveUp : Shadows (ε := ε) (Act.change (m.unseen.enabled.put false))
    (Act.change (m.enabled.put false)) fun _ => [] := by
  intro t
  show (Except.ok (), (⟨m.enabled.put false t.host, t.trace⟩ : Traced σ ε))
    = (Except.ok (), ⟨m.enabled.put false t.host, t.trace ++ []⟩)
  rw [List.append_nil]

/-- `run owner options cache` writes nothing down: it runs a program and may give up. -/
theorem shadows_run (owner : UInt32) (options : MonitorOptions) (cache : CacheOptions) :
    Shadows (ε := ε) (m.unseen.run owner options cache) (m.run owner options cache)
      fun _ => [] := by
  refine (Shadows.unseen (m.runner.run m.program _)).attempt.bind_quiet fun r => ?_
  cases r with
  | ok output => exact .pure _
  | error f => exact m.shadows_giveUp.bind_quiet fun _ => .fail _

/-- `stop owner` writes nothing down: it looks for a process and ends it. -/
theorem shadows_stop (owner : UInt32) :
    Shadows (ε := ε) (m.unseen.stop owner) (m.stop owner) fun _ => [] := by
  refine ((Shadows.unseen (m.locator.find owner)).inContext _).bind_quiet fun pid => ?_
  refine ((Shadows.unseen (m.processes.kill pid)).inContext _).bind_quiet fun _ => ?_
  exact .unseen _

end HealthMonitor

namespace LocalSupervisor

variable (s : LocalSupervisor σ) (path : DataPath σ) (session : Session) (options : MountOptions)
  (ready : Act σ Unit)

/-- What it takes to serve sessions, with the serving process written about. -/
def noted : LocalSupervisor (Traced σ Deed) where
  registry := { s.registry.on Traced.hostPart with
    register := fun session => (s.registry.register session).noted (.register session)
    unregister := fun key => (s.registry.unregister key).noted (.unregister key) }
  processes := s.processes.unseen
  monitor := s.monitor.unseen
  factory := ⟨fun options => do return (← (s.factory.build options).unseen).noted⟩
  signals := ⟨s.signals.begin.unseen, s.signals.arrived.noted .hear⟩
  reloadLog file := (s.reloadLog file).noted (.reload file)
  self t := s.self t.host
  pollLimit t := s.pollLimit t.host

/-- **What a serving process does** in its life on a host, in order. -/
def deeds (h : σ) : List Deed :=
  ((s.noted.runSession path.noted session options ready.unseen).runOn ⟨h, []⟩).2.trace

/-! ## Pieces of a life -/

/-- The session as it is recorded. -/
def running (session : Session) : Session :=
  { session with state := .running }

/-- Ends the monitor, if one is wanted and was not given up. That it cannot be ended does not
matter. -/
def endHealth (pid : UInt32) : Act σ Unit := do
  if options.config.monitor.enabled then
    if ← s.monitor.isEnabled then
      let _ ← Act.attempt (s.monitor.stop pid)

/-- `shutdown` begins with the end of the monitor, and goes on with the data path and the record. -/
theorem shutdown_eq (pid : UInt32) : s.shutdown path session options pid
    = s.endHealth options pid >>= fun _ => Act.attempt path.stop >>= fun stopped =>
      s.registry.unregister session.key >>= fun _ => Act.ofExcept stopped := by
  unfold shutdown endHealth
  split
  · rw [bind_assoc]
    refine congrArg (s.monitor.isEnabled >>= ·) (funext fun enabled => ?_)
    cases enabled <;> rfl
  · rfl

/-- What is done for a session that is recorded. -/
def serveOut : Act σ Unit := do
  let h ← Act.look
  s.watchHealth options (s.self h)
  s.serve path options (s.pollLimit h)
  s.shutdown path { session with state := .stopping } options (s.self h)

/-- `runSession`: the session is started and recorded, and then served to its end. -/
theorem runSession_eq : s.runSession path session options ready
    = s.signals.begin >>= fun _ => s.attach path (running session) >>= fun _ =>
      ready >>= fun _ => s.serveOut path session options := rfl

/-! ## The health monitor -/

/-- That the monitor cannot be run is no failure. -/
theorem runOn_watchHealth (pid : UInt32) (h : σ) :
    ∃ h', (s.watchHealth options pid).runOn h = (.ok (), h') := by
  unfold watchHealth
  split
  · exact ⟨_, rfl⟩
  · exact ⟨h, rfl⟩

/-- `watchHealth options pid` writes nothing down. -/
theorem shadows_watchHealth (pid : UInt32) :
    Shadows (s.noted.watchHealth options pid) (s.watchHealth options pid) fun _ => [] := by
  unfold watchHealth
  split
  · exact (s.monitor.shadows_run pid _ _).attempt.bind_quiet fun _ => .pure ()
  · exact .pure ()

/-- That the monitor cannot be ended is no failure. -/
theorem runOn_endHealth (pid : UInt32) (h : σ) :
    ∃ h', (s.endHealth options pid).runOn h = (.ok (), h') := by
  unfold endHealth
  split
  · rw [Act.runOn_bind]
    show ∃ h', (Act.runOn (if s.monitor.enabled.get h then _ else _) h) = _
    split
    · exact ⟨_, rfl⟩
    · exact ⟨h, rfl⟩
  · exact ⟨h, rfl⟩

/-- `endHealth options pid` writes nothing down. -/
theorem shadows_endHealth (pid : UInt32) :
    Shadows (s.noted.endHealth options pid) (s.endHealth options pid) fun _ => [] := by
  unfold endHealth
  split
  · refine s.monitor.shadows_isEnabled.bind_quiet fun enabled => ?_
    cases enabled with
    | true => exact (s.monitor.shadows_stop pid).attempt.bind_quiet fun _ => .pure ()
    | false => exact .pure ()
  · exact .pure ()

/-! ## To be written about changes nothing -/

/-- `s.noted.attach` follows `s.attach`. -/
theorem follows_attach :
    Follows (s.noted.attach path.noted session) (s.attach path session) := by
  refine ((Follows.noted Deed.start path.start).inContext _).bind fun _ => ?_
  refine (Follows.noted (Deed.register session)
    (s.registry.register session)).attempt.bind fun r => ?_
  cases r with
  | ok _ => exact .pure ()
  | error f => exact (Follows.noted Deed.stop path.stop).attempt.bind fun _ => .fail f

/-- `s.noted.answerSignals` follows `s.answerSignals`, by induction on the signals. -/
theorem follows_answerSignals (signals : List Signal) :
    Follows (s.noted.answerSignals options signals) (s.answerSignals options signals) := by
  induction signals with
  | nil => exact .pure false
  | cons signal rest ih =>
    cases signal with
    | reload =>
      unfold answerSignals
      cases options.configPath with
      | none => exact ih
      | some file =>
        exact (Follows.noted (Deed.reload file) (s.reloadLog file)).attempt.bind fun _ => ih
    | interrupt => exact .pure true
    | terminate => exact .pure true

/-- `s.noted.poll` follows `s.poll`. -/
theorem follows_poll : Follows (s.noted.poll path.noted options) (s.poll path options) := by
  refine (Follows.noted Deed.hear s.signals.arrived).bind fun signals => ?_
  refine (s.follows_answerSignals options signals).bind fun ended => ?_
  cases ended with
  | true => exact .pure false
  | false => exact .noted Deed.look path.isRunning

/-- `s.noted.serve` follows `s.serve`, by induction on the polls that are left. -/
theorem follows_serve (n : Nat) :
    Follows (s.noted.serve path.noted options n) (s.serve path options n) := by
  induction n with
  | zero => exact .pure ()
  | succ n ih =>
    rw [serve_succ, serve_succ]
    refine (s.follows_poll path options).bind fun goesOn => ?_
    cases goesOn with
    | true => exact ih
    | false => exact .pure ()

/-- `s.noted.shutdown` follows `s.shutdown`. -/
theorem follows_shutdown (pid : UInt32) : Follows (s.noted.shutdown path.noted session options pid)
    (s.shutdown path session options pid) := by
  rw [shutdown_eq, shutdown_eq]
  refine Follows.bind ⟨_, s.shadows_endHealth options pid⟩ fun _ => ?_
  refine (Follows.noted Deed.stop path.stop).attempt.bind fun stopped => ?_
  refine (Follows.noted (Deed.unregister session.key) (s.registry.unregister session.key)).bind
    fun _ => ?_
  exact .ofExcept stopped

/-- `s.noted.serveOut` follows `s.serveOut`. -/
theorem follows_serveOut : Follows (s.noted.serveOut path.noted session options)
    (s.serveOut path session options) := by
  refine .look (fun h => s.noted.watchHealth options (s.self h) >>= fun _ =>
    s.noted.serve path.noted options (s.pollLimit h) >>= fun _ =>
    s.noted.shutdown path.noted { session with state := .stopping } options (s.self h)) fun h => ?_
  refine Follows.bind ⟨_, s.shadows_watchHealth options (s.self h)⟩ fun _ => ?_
  refine (s.follows_serve path options (s.pollLimit h)).bind fun _ => ?_
  exact s.follows_shutdown path { session with state := .stopping } options (s.self h)

/-- **A serving process that is written about** does what it does otherwise: `s.noted.runSession`
follows `s.runSession`. -/
theorem follows_runSession :
    Follows (s.noted.runSession path.noted session options ready.unseen)
      (s.runSession path session options ready) := by
  rw [runSession_eq, runSession_eq]
  refine (Follows.unseen s.signals.begin).bind fun _ => ?_
  refine (s.follows_attach path (running session)).bind fun _ => ?_
  refine (Follows.unseen ready).bind fun _ => ?_
  exact s.follows_serveOut path session options

variable {s path session options ready}

/-- What is found out about a life that is written about holds of the life: it ends the same, and
the trace is `s.deeds`. -/
theorem runOn_runSession_of_noted {h h' : σ} {r : Except Failure Unit} {written : List Deed}
    (hnoted : (s.noted.runSession path.noted session options ready.unseen).runOn ⟨h, []⟩
      = (r, ⟨h', written⟩)) :
    (s.runSession path session options ready).runOn h = (r, h') ∧
      s.deeds path session options ready h = written := by
  rcases hrun : (s.runSession path session options ready).runOn h with ⟨r', h''⟩
  obtain ⟨T, hfollows⟩ := (s.follows_runSession path session options ready).runOn_eq hrun []
  rw [hnoted] at hfollows
  cases hfollows
  exact ⟨rfl, congrArg (fun p => p.2.trace) hnoted⟩

end LocalSupervisor

end MountKeeper
