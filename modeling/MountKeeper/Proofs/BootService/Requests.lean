import MountKeeper.BootService
import MountKeeper.Proofs.Traced

/-! # What the boot service asks of the launcher

* `BootService.requests` are the requests that the boot service sends the launcher in its life.
* `BootService.shadows_startAll` and `BootService.shadows_stopAll`: what its two phases on instances
  send. A marked instance is asked to be started, whether or not others were; every instance is
  asked to be stopped.
* `BootService.run_eq`: the life of the service as a report, the start phase, and what follows that;
  `BootService.run_of_starting` when the start phase was completed.
* `BootService.requests_of_starting`: the requests are those to start instances, followed by those
  to stop them; `BootService.asking` tells them apart. -/

namespace MountKeeper

open Act (Shadows Follows afterwards)

variable {σ ε : Type}

/-- The launcher, with a trace of its requests. -/
def MountLauncher.traced (l : MountLauncher σ) : MountLauncher (Traced σ Launcher.Request) where
  start name dir config :=
    (l.start name dir config).seen (.start Launcher.ownClass name dir config)
  stop name dir := (l.stop name dir).seen (.stop Launcher.ownClass name dir)
  list := l.list.seen .list

/-- The records of the boot service on a traced host. -/
def BootInstances.unseen (b : BootInstances σ) : BootInstances (Traced σ ε) where
  list := b.list.unseen
  forget key := (b.forget key).unseen

/-- The receiver of reports on a traced host. -/
def StatusSink.unseen (s : StatusSink σ) : StatusSink (Traced σ ε) where
  report state acceptStop := (s.report state acceptStop).unseen

namespace BootInstance

/-- The request that starts an instance. -/
def startRequest (i : BootInstance) : Launcher.Request :=
  .start Launcher.ownClass i.session.key.text i.session.key.text i.session.configText

/-- The request that stops an instance. -/
def stopRequest (i : BootInstance) : Launcher.Request :=
  .stop Launcher.ownClass i.session.key.text i.session.key.text

end BootInstance

namespace BootService

variable (launcher : MountLauncher σ) (boot : BootInstances σ) (sink : StatusSink σ)

/-- **The requests** that the service sends the launcher in its life on a host. -/
def requests (controls : List ServiceControl) (s : σ) : List Launcher.Request :=
  ((run launcher.traced boot.unseen sink.unseen controls).runOn ⟨s, []⟩).2.trace

/-! ## Instances -/

/-- Stops one instance, if that works. -/
def stopOne (i : BootInstance) : Act σ Unit := do
  let _ ← Act.attempt (launcher.stop i.session.key.text i.session.key.text)

/-- The requests that bring instances up: the marked ones are started. -/
def startRequests (instances : List BootInstance) : List Launcher.Request :=
  (instances.filter (·.remount)).map (·.startRequest)

/-- `startRequests` goes instance by instance. -/
theorem startRequests_eq_flatMap (instances : List BootInstance) :
    startRequests instances = instances.flatMap fun i => startRequests [i] := by
  induction instances with
  | nil => rfl
  | cons i rest ih =>
    rw [List.flatMap_cons, ← ih]
    unfold startRequests
    rw [← List.map_append, ← List.filter_append, List.singleton_append]

/-- `startAll` lists the instances and brings up one after the other. -/
theorem startAll_eq :
    startAll launcher boot = boot.list >>= fun is => is.forM (startOne launcher boot) := by
  -- a loop over a list is a traversal of it
  unfold startAll
  congr 1
  funext is
  induction is with
  | nil => rfl
  | cons i rest ih => simp_all

/-- `stopAll` lists the instances and stops one after the other. -/
theorem stopAll_eq : stopAll launcher boot = boot.list >>= fun is => is.forM (stopOne launcher) := by
  unfold stopAll
  congr 1
  funext is
  induction is with
  | nil => rfl
  | cons i rest ih => simp_all [stopOne]

/-- To bring one instance up does not fail, whatever the launcher and the records say to it. -/
theorem startOne_ok (i : BootInstance) (s : σ) :
    ((startOne launcher boot i).runOn s).1 = .ok () := by
  unfold startOne
  cases i.remount <;> rfl

/-- `startOne` sends a start request if the instance is marked. -/
theorem shadows_startOne (i : BootInstance) :
    Shadows (startOne launcher.traced boot.unseen i) (startOne launcher boot i)
      fun _ => startRequests [i] := by
  unfold startOne startRequests
  cases hmark : i.remount with
  | true =>
    rw [List.filter_cons_of_pos hmark]
    exact (Shadows.seen _ _).attempt.bind_quiet fun _ => .pure ()
  | false =>
    rw [List.filter_cons_of_neg (by simp [hmark])]
    exact (Shadows.unseen _).attempt.bind_quiet fun _ => .pure ()

/-- **The start phase** sends a start request for each marked instance, in the order of the list. -/
theorem shadows_startAll :
    Shadows (startAll launcher.traced boot.unseen) (startAll launcher boot)
      (afterwards boot.list fun is _ => startRequests is) := by
  rw [startAll_eq, startAll_eq]
  refine (Shadows.unseen boot.list).quiet_bind fun is => ?_
  rw [startRequests_eq_flatMap]
  exact Shadows.forM (shadows_startOne launcher boot) (startOne_ok launcher boot) is

/-- **The stop phase** sends a stop request for each instance, in the order of the list. -/
theorem shadows_stopAll :
    Shadows (stopAll launcher.traced boot.unseen) (stopAll launcher boot)
      (afterwards boot.list fun is _ => is.map (·.stopRequest)) := by
  have hone (i : BootInstance) :
      Shadows (stopOne launcher.traced i) (stopOne launcher i) fun _ => [i.stopRequest] :=
    (Shadows.seen _ _).attempt.bind_quiet fun _ => .pure ()
  rw [stopAll_eq, stopAll_eq]
  refine (Shadows.unseen boot.list).quiet_bind fun is => ?_
  rw [List.map_eq_flatMap]
  exact Shadows.forM hone (fun _ _ => rfl) is

/-! ## The life of the service -/

/-- What comes first: the service reports that it starts and brings the instances up. -/
def starting : Act σ Unit := do
  sink.report .startPending false
  startAll launcher boot

/-- Makes reports until one is refused. -/
def reportAll (reports : List (ServiceState × Bool)) : Act σ Unit :=
  reports.forM fun r => sink.report r.1 r.2

/-- No reports are no act. -/
theorem reportAll_nil : reportAll sink [] = pure () := rfl

/-- `reportAll sink (r :: rest)` makes the report `r` and then the others, unless it was refused. -/
theorem reportAll_cons (r : ServiceState × Bool) (rest : List (ServiceState × Bool)) :
    reportAll sink (r :: rest) = (sink.report r.1 r.2 >>= fun _ => reportAll sink rest) := rfl

/-- The reports from the controls on, up to the one that the service stops. -/
def reportsWhileServing : List ServiceControl → List (ServiceState × Bool)
  | .interrogate :: rest => (.running, true) :: reportsWhileServing rest
  | _ => [(.stopPending, false)]

/-- The reports between the start phase and the stop phase. -/
def reportsBetween (controls : List ServiceControl) : List (ServiceState × Bool) :=
  (.running, true) :: reportsWhileServing controls

/-- What comes last: the service stops the instances and reports that it has stopped. -/
def stopping : Act σ Unit := do
  let _ ← Act.attempt (stopAll launcher boot)
  sink.report .stopped false

/-- To serve and then to report the stop is to make the reports of `reportsWhileServing`. -/
theorem serve_bind (controls : List ServiceControl) :
    (serve sink controls >>= fun _ => sink.report .stopPending false)
      = reportAll sink (reportsWhileServing controls) := by
  have hlast : (pure () >>= fun _ => sink.report .stopPending false)
      = reportAll sink [(.stopPending, false)] := by
    rw [reportAll_cons, pure_bind]
    exact (bind_pure _).symm
  -- every control but an inquiry is the last one, and the closed channel ends the serving as well
  induction controls with
  | nil => exact hlast
  | cons c rest ih =>
    cases c with
    | stop => exact hlast
    | shutdown => exact hlast
    | interrogate =>
      unfold serve reportsWhileServing
      rw [bind_assoc]
      simp only [ih]
      rfl

/-- What follows the start phase, given its result. -/
def followUp (controls : List ServiceControl) : Except Failure Unit → Act σ Unit
  | .error f => reportAll sink [(.stopPending, false), (.stopped, false)] >>= fun _ => Act.fail f
  | .ok () => reportAll sink (reportsBetween controls) >>= fun _ => stopping launcher boot sink

/-- The life of the service is a report, the start phase, and what follows that. -/
theorem run_eq (controls : List ServiceControl) :
    run launcher boot sink controls
      = (sink.report .startPending false >>= fun _ =>
          Act.attempt (startAll launcher boot) >>= followUp launcher boot sink controls) := by
  unfold run
  -- both sides report and start alike; they differ in what follows a start's outcome
  congr 1
  funext _
  congr 1
  funext r
  cases r with
  | error f =>
    -- the start phase failed: `Running` is never reported, the stop is
    unfold followUp
    dsimp only
    rw [reportAll_cons, reportAll_cons, reportAll_nil]
    simp only [bind_assoc, pure_bind]
  | ok u =>
    unfold followUp reportsBetween
    dsimp only
    rw [reportAll_cons, ← serve_bind]
    simp only [bind_assoc]
    rfl

/-- **What follows a start phase that was completed**: the reports of `reportsBetween`, and the stop
phase if none of them was refused. -/
theorem run_of_starting {s s₁ : σ}
    (hstart : (starting launcher boot sink).runOn s = (.ok (), s₁)) (controls : List ServiceControl) :
    (run launcher boot sink controls).runOn s
      = (reportAll sink (reportsBetween controls) >>= fun _ =>
          stopping launcher boot sink).runOn s₁ := by
  unfold starting at hstart
  rw [Act.runOn_bind] at hstart
  rw [run_eq, Act.runOn_bind]
  -- a start phase that was completed began with a report that was received
  rcases hfirst : (sink.report .startPending false).runOn s with ⟨r, s'⟩
  rw [hfirst] at hstart
  cases r with
  | error f => exact absurd (Prod.ext_iff.1 hstart).1 (by simp)
  | ok _ =>
    dsimp only at hstart ⊢
    rw [Act.runOn_bind, Act.runOn_attempt, hstart]
    rfl

/-- The requests of the service up to the end of its start phase. -/
def requestsToStart (s : σ) : List Launcher.Request :=
  afterwards (sink.report .startPending false)
    (fun _ => afterwards boot.list fun is _ => startRequests is) s

/-- The requests of the service from the end of its start phase on. -/
def requestsToStop (controls : List ServiceControl) (s₁ : σ) : List Launcher.Request :=
  afterwards (reportAll sink (reportsBetween controls))
    (fun _ => afterwards boot.list fun is _ => is.map (·.stopRequest)) s₁

/-- `starting` sends the requests of the start phase, if its report was not refused. -/
theorem shadows_starting :
    Shadows (starting launcher.traced boot.unseen sink.unseen) (starting launcher boot sink)
      (requestsToStart boot sink) :=
  (Shadows.unseen _).quiet_bind fun _ => shadows_startAll launcher boot

/-- Reports send nothing to the launcher. -/
theorem shadows_reportAll (reports : List (ServiceState × Bool)) :
    Shadows (ε := Launcher.Request) (reportAll sink.unseen reports) (reportAll sink reports)
      fun _ => [] := by
  induction reports with
  | nil => exact .pure ()
  | cons r rest ih => exact (Shadows.unseen (sink.report r.1 r.2)).bind_quiet fun _ => ih

/-- `stopping` sends the requests of the stop phase. -/
theorem shadows_stopping :
    Shadows (stopping launcher.traced boot.unseen sink.unseen) (stopping launcher boot sink)
      (afterwards boot.list fun is _ => is.map (·.stopRequest)) :=
  (shadows_stopAll launcher boot).attempt.bind_quiet fun _ => .unseen _

/-- **The requests of a service that completes its start phase**: those up to its end, and those
from there on. -/
theorem requests_of_starting {s s₁ : σ}
    (hstart : (starting launcher boot sink).runOn s = (.ok (), s₁)) (controls : List ServiceControl) :
    requests launcher boot sink controls s
      = requestsToStart boot sink s ++ requestsToStop boot sink controls s₁ := by
  -- the traced service completes its start phase as well, so that the same reports follow
  have htraced : (starting launcher.traced boot.unseen sink.unseen).runOn ⟨s, []⟩
      = (.ok (), ⟨s₁, requestsToStart boot sink s⟩) := by
    rw [shadows_starting launcher boot sink ⟨s, []⟩, hstart]
    rfl
  unfold requests
  rw [run_of_starting launcher.traced boot.unseen sink.unseen htraced controls]
  rw [(shadows_reportAll sink _).quiet_bind (fun _ => shadows_stopping launcher boot sink) _]
  rfl

/-! ## What is asked for in each phase -/

/-- The requests with an opcode. -/
def asking (op : Launcher.Opcode) (requests : List Launcher.Request) : List Launcher.Request :=
  requests.filter fun r => r.opcode == op

/-- `r ∈ asking op requests`: the request is one of them, and has the opcode. -/
theorem mem_asking {op : Launcher.Opcode} {requests : List Launcher.Request} {r : Launcher.Request} :
    r ∈ asking op requests ↔ r ∈ requests ∧ r.opcode = op := by
  unfold asking
  rw [List.mem_filter, beq_iff_eq]

/-- In the start phase, instances are started. -/
theorem opcode_requestsToStart {s : σ} {r : Launcher.Request} (hr : r ∈ requestsToStart boot sink s) :
    r.opcode = .start := by
  obtain ⟨_, _, -, hr⟩ := Act.mem_afterwards.1 hr
  obtain ⟨is, _, -, hr⟩ := Act.mem_afterwards.1 hr
  obtain ⟨i, -, rfl⟩ := List.mem_map.1 hr
  rfl

/-- In the stop phase, instances are stopped. -/
theorem opcode_requestsToStop {controls : List ServiceControl} {s : σ} {r : Launcher.Request}
    (hr : r ∈ requestsToStop boot sink controls s) : r.opcode = .stop := by
  obtain ⟨_, _, -, hr⟩ := Act.mem_afterwards.1 hr
  obtain ⟨is, _, -, hr⟩ := Act.mem_afterwards.1 hr
  obtain ⟨i, -, rfl⟩ := List.mem_map.1 hr
  rfl

section

variable {launcher boot sink} {s s₁ : σ}
  (hstart : (starting launcher boot sink).runOn s = (.ok (), s₁)) (controls : List ServiceControl)

include hstart

/-- Instances are started in the start phase only. -/
theorem asking_start_requests :
    asking .start (requests launcher boot sink controls s) = requestsToStart boot sink s := by
  rw [requests_of_starting launcher boot sink hstart]
  unfold asking
  rw [List.filter_append, List.filter_eq_self.2, List.filter_eq_nil_iff.2, List.append_nil]
  · intro r hr
    rw [opcode_requestsToStop boot sink hr]
    decide
  · intro r hr
    rw [opcode_requestsToStart boot sink hr]
    rfl

/-- Instances are stopped behind the start phase only. -/
theorem asking_stop_requests :
    asking .stop (requests launcher boot sink controls s) = requestsToStop boot sink controls s₁ := by
  rw [requests_of_starting launcher boot sink hstart]
  unfold asking
  rw [List.filter_append, List.filter_eq_nil_iff.2, List.filter_eq_self.2, List.nil_append]
  · intro r hr
    rw [opcode_requestsToStop boot sink hr]
    rfl
  · intro r hr
    rw [opcode_requestsToStart boot sink hr]
    decide

end

end BootService

end MountKeeper
