import MountKeeper.HealthMonitor.Supervisor
import MountKeeper.LocalSupervisor
import MountKeeper.PidFiles
import MountKeeper.Proofs.Act
import MountKeeper.Readiness
import MountKeeper.Remount.Systemd
import MountKeeper.UnmountTools

/-! # Who refuses what was asked for

Some failures say that what was asked for is not valid. Most parts of a platform never fail that
way, whatever else goes wrong with them.

* `Failure.IsRefusal`: the failure is such a refusal.
* `Act.RefusesNothing`: the act does not fail that way, with one rule for each way of putting acts
  together. `Act.RefusesInPlace`: it changes nothing when it does.
* The parts of a local platform refuse nothing, except that a record of the launcher has no place in
  a PID file, and that there is no unit to remove where none is installed. -/

namespace MountKeeper

variable {σ τ α β : Type}

/-- The failure says that what was asked for is not valid. -/
def Failure.IsRefusal (f : Failure) : Prop :=
  f.kind? = some .validation

/-- `Failure.ofText text` is no refusal: it has no kind. -/
theorem Failure.not_isRefusal_ofText (text : String) : ¬ (Failure.ofText text).IsRefusal :=
  fun h => nomatch h

/-- `Failure.ofOs e` is no refusal: it has no kind. -/
theorem Failure.not_isRefusal_ofOs (e : OsError) : ¬ (Failure.ofOs e).IsRefusal :=
  fun h => nomatch h

instance (f : Failure) : Decidable f.IsRefusal :=
  inferInstanceAs (Decidable (f.kind? = some .validation))

namespace Act

/-- The act refuses nothing: whatever it fails with, it is no refusal. -/
structure RefusesNothing (a : Act σ α) : Prop where
  ensures : Ensures (fun _ => True) a (fun _ _ => True) fun f _ => ¬ f.IsRefusal

/-- The act refuses in place: when it refuses something, `view` is what it was before. -/
structure RefusesInPlace {V : Type} (view : σ → V) (a : Act σ α) : Prop where
  ensures : ∀ v, Ensures (fun s => view s = v) a (fun _ _ => True)
    fun f s => f.IsRefusal → view s = v

/-- What `Ensures P a Q E` says of the answers of `a` holds with failures that are no refusals,
whatever `E` says. -/
theorem Ensures.refusingNothing {P : σ → Prop} {Q : α → σ → Prop} {E : Failure → σ → Prop}
    {a : Act σ α} (h : Ensures P a Q E) (ha : RefusesNothing a) :
    Ensures P a Q fun f _ => ¬ f.IsRefusal := by
  intro s hs
  have hanswer := h s hs
  have hfailure := ha.ensures s trivial
  rcases hrun : a.runOn s with ⟨r, s'⟩
  rw [hrun] at hanswer hfailure
  cases r with
  | ok x => exact hanswer
  | error f => exact hfailure

namespace RefusesNothing

variable {a : Act σ α}

/-- `pure x` does not fail. -/
theorem pure (x : α) : RefusesNothing (Pure.pure x : Act σ α) :=
  ⟨Ensures.pure fun _ _ => trivial⟩

/-- `Act.fail f` refuses nothing where `f` is no refusal. -/
theorem fail {f : Failure} (h : ¬ f.IsRefusal) : RefusesNothing (Act.fail f : Act σ α) :=
  ⟨Ensures.fail fun _ _ => h⟩

/-- `Act.refuse e` refuses nothing where `e` is of another kind than `.validation`. -/
theorem refuse {e : SessionError} (h : e.kind ≠ .validation) :
    RefusesNothing (Act.refuse e : Act σ α) :=
  fail fun hf => h (Option.some.inj hf)

/-- `Act.failText text` fails with a plain text. -/
theorem failText (text : String) : RefusesNothing (Act.failText text : Act σ α) :=
  fail (Failure.not_isRefusal_ofText text)

/-- `Act.look` does not fail. -/
theorem look : RefusesNothing (Act.look : Act σ σ) :=
  ⟨Ensures.look fun _ _ => trivial⟩

/-- `Act.change f` does not fail. -/
theorem change (f : σ → σ) : RefusesNothing (Act.change f) :=
  ⟨Ensures.change fun _ _ => trivial⟩

/-- `a >>= k` refuses nothing where neither act does. -/
theorem bind {k : α → Act σ β} (h : RefusesNothing a) (hk : ∀ x, RefusesNothing (k x)) :
    RefusesNothing (a >>= k) :=
  ⟨h.ensures.bind fun x => (hk x).ensures⟩

/-- `attempt a` does not fail at all. -/
theorem attempt (a : Act σ α) : RefusesNothing (Act.attempt a) :=
  ⟨fun _ _ => trivial⟩

/-- `attempt a >>= k` refuses nothing where `k r` does not for the results `r` that `a` can have:
those that are no refusals. -/
theorem attempt_bind {k : Except Failure α → Act σ β} (h : RefusesNothing a)
    (hk : ∀ r, (∀ f, r = .error f → ¬ f.IsRefusal) → RefusesNothing (k r)) :
    RefusesNothing (Act.attempt a >>= k) := by
  have hattempt : Ensures (fun _ => True) (Act.attempt a)
      (fun r _ => (∀ f, r = .error f → ¬ f.IsRefusal) ∧ True) fun f _ => ¬ f.IsRefusal := by
    refine Ensures.attempt (h.ensures.weaken (fun x s _ => ⟨nofun, trivial⟩) fun f s hf => ⟨?_, trivial⟩)
    rintro _ ⟨⟩
    exact hf
  exact ⟨hattempt.bind fun r => Ensures.of_fact fun hr => (hk r hr).ensures⟩

/-- `inContext context a` refuses nothing where `a` does not: a context leaves the cause of a
failure as it is. -/
theorem inContext (context : String) (h : RefusesNothing a) :
    RefusesNothing (Act.inContext context a) :=
  ⟨Ensures.inContext h.ensures⟩

/-- `ofExcept r` refuses nothing where `r` is no refusal. -/
theorem ofExcept {r : Except Failure α} (h : ∀ f, r = .error f → ¬ f.IsRefusal) :
    RefusesNothing (Act.ofExcept r : Act σ α) :=
  ⟨Ensures.ofExcept (fun _ _ _ _ => trivial) fun f hf _ _ => h f hf⟩

/-- `if c then a else b` refuses nothing where neither branch does. -/
theorem ite {c : Prop} [Decidable c] {b : Act σ α} (ht : RefusesNothing a) (hf : RefusesNothing b) :
    RefusesNothing (if c then a else b) :=
  ⟨Ensures.ite (fun _ => ht.ensures) fun _ => hf.ensures⟩

/-- `b.on part` refuses nothing where `b` does not. -/
theorem on {b : Act τ α} (h : RefusesNothing b) (part : Part σ τ) :
    RefusesNothing (b.on part) := by
  refine ⟨fun s _ => ?_⟩
  have hpart := h.ensures (part.get s) trivial
  rw [runOn_on]
  rcases hrun : b.runOn (part.get s) with ⟨r, t⟩
  rw [hrun] at hpart
  cases r <;> exact hpart

/-- `Disk.update f` refuses nothing: its failures are those of the operating system. -/
theorem update (f : Disk → Except OsError Disk) : RefusesNothing (Disk.update f) := by
  refine ⟨fun d _ => ?_⟩
  dsimp only [Disk.update, Act.runOn, ExceptT.run, StateT.run]
  cases f d with
  | ok d' => trivial
  | error e => exact Failure.not_isRefusal_ofOs e

/-- `Disk.query f` refuses nothing: its failures are those of the operating system. -/
theorem query (f : Disk → Except OsError α) : RefusesNothing (Disk.query f) := by
  refine ⟨fun d _ => ?_⟩
  dsimp only [Disk.query, Act.runOn, ExceptT.run, StateT.run]
  cases f d with
  | ok x => trivial
  | error e => exact Failure.not_isRefusal_ofOs e

end RefusesNothing

end Act

open Act (Ensures RefusesNothing RefusesInPlace)

/-! ## PID files -/

namespace PidFiles

/-- `(PidFiles.registry dir).register session` refuses no session of a process. One of the launcher
has no place in a PID file, and is refused. -/
theorem refusesNothing_register {session : Session} {pid : UInt32}
    (h : session.owner = .process pid) (dir : String) :
    RefusesNothing ((registry dir).register session) := by
  dsimp only [registry, register]
  rw [h]
  exact (RefusesNothing.update _).inContext _

/-- `(PidFiles.registry dir).unregister key` refuses nothing: it removes a file, or finds none. -/
theorem refusesNothing_unregister (dir : String) (key : SessionKey) :
    RefusesNothing ((registry dir).unregister key) := by
  refine ⟨fun d _ => ?_⟩
  dsimp only [registry, unregister, Act.runOn, ExceptT.run, StateT.run]
  -- that there is no file is no failure here
  cases d.removeFile (pathOf dir key) with
  | ok d' => trivial
  | error e =>
    have hrefusal := Failure.not_isRefusal_ofOs e
    cases e with
    | notFound => trivial
    | _ => exact hrefusal

end PidFiles

/-! ## Unmount tools -/

namespace UnmountTools

variable {runner : CommandRunner σ}

/-- `tryInOrder runner args missing tools` refuses nothing where the runner does not: the last
failure is that of a tool, or `missing`. -/
theorem refusesNothing_tryInOrder (h : ∀ program args, RefusesNothing (runner.run program args))
    (args tools : List String) {missing : Failure} (hmissing : ¬ missing.IsRefusal) :
    RefusesNothing (tryInOrder runner args missing tools) := by
  induction tools generalizing missing with
  | nil => exact .fail hmissing
  | cons tool rest ih =>
    refine (h tool args).attempt_bind fun result hresult => ?_
    cases result with
    | ok _ => exact .pure _
    | error f => exact .ite (ih (hresult f rfl)) (.fail (hresult f rfl))

/-- An unmounter that tries tools refuses nothing where the runner does not. -/
theorem refusesNothing_unmount (h : ∀ program args, RefusesNothing (runner.run program args))
    (tools : List String) (path : String) (lazily : Bool) :
    RefusesNothing ((unmounter runner tools).unmount path lazily) :=
  (refusesNothing_tryInOrder h _ tools (Failure.not_isRefusal_ofText _)).inContext _

end UnmountTools

/-! ## Units -/

namespace Systemd

variable {s : Systemd σ} (h : ∀ program args, RefusesNothing (s.runner.run program args))

include h

/-- `joinGroups user groups` refuses nothing: it only runs programs. -/
theorem refusesNothing_joinGroups (user : String) (groups : List String) :
    RefusesNothing (s.joinGroups user groups) := by
  induction groups with
  | nil => exact .pure _
  | cons group rest ih => exact ((h _ _).inContext _).bind fun _ => ih

/-- `installer.install record` refuses nothing, in any of its steps. -/
theorem refusesNothing_install (record : RemountRecord) :
    RefusesNothing (s.installer.install record) := by
  have huser : RefusesNothing (s.ensureUser record.runAs) := by
    unfold ensureUser
    refine (((RefusesNothing.query _).on _).inContext _).bind fun text => .ite (.pure _) ?_
    refine ((h _ _).inContext _).bind fun _ => (h _ _).bind fun groups => ?_
    exact refusesNothing_joinGroups h _ _
  have hplace : RefusesNothing (s.placeUnit record) := by
    dsimp only [placeUnit]
    refine RefusesNothing.bind (((RefusesNothing.update _).on _).inContext _) fun _ => ?_
    exact ((RefusesNothing.update _).on _).inContext _
  have hreload : RefusesNothing s.reload := by
    unfold reload
    exact ((h _ _).inContext _).bind fun _ => .pure _
  dsimp only [installer, install]
  refine huser.bind fun _ => hplace.bind fun _ => hreload.bind fun _ => ?_
  exact ((h _ _).inContext _).bind fun _ => .pure _

/-- `installer.uninstall key` refuses only where no unit is installed, and then `s.disk` is what it
was. -/
theorem refusesInPlace_uninstall (key : SessionKey) :
    RefusesInPlace s.disk.get (s.installer.uninstall key) := by
  refine ⟨fun d => ?_⟩
  dsimp only [installer, uninstall]
  generalize s.unitPath key = path
  refine Ensures.bind (Q := fun _ x => s.disk.get x = d) (Ensures.look fun _ hx => hx) fun x => ?_
  refine Ensures.ite (fun _ => ?_) fun _ => Ensures.refuse fun _ hx _ => hx
  have hremove : RefusesNothing (Act.inContext s!"failed to remove {path}"
      ((Disk.update (·.removeFile path)).on s.disk) >>= fun _ => s.reload) :=
    (((RefusesNothing.update _).on _).inContext _).bind fun _ =>
      ((h _ _).inContext _).bind fun _ => .pure _
  exact hremove.ensures.mono (fun _ _ => trivial) (fun _ _ hx => hx) fun f _ hf hrefusal => absurd hrefusal hf

end Systemd

/-! ## Waiting for a daemon -/

namespace Readiness

/-- `waitFor pid scratch looks` refuses nothing that a look did not end with. -/
theorem refusesNothing_waitFor (pid scratch : String) {looks : List Look}
    (h : ∀ look ∈ looks, ∀ f, look.ended = .error f → ¬ f.IsRefusal) :
    RefusesNothing (waitFor pid scratch looks) := by
  have hawait (stderr : String) (f : Failure) (hf : await pid stderr looks = .error f) :
      ¬ f.IsRefusal := by
    -- a look ends the wait, one way or another, or the next look does
    induction looks with
    | nil => exact absurd hf (by simp [await])
    | cons look rest ih =>
      unfold await at hf
      split at hf
      · exact absurd hf (by simp)
      · split at hf
        · rename_i f' hended
          exact Except.error.inj hf ▸ h look List.mem_cons_self f' hended
        · rename_i status hended
          rw [← Except.error.inj hf]
          unfold failure
          split <;> exact Failure.not_isRefusal_ofText _
        · split at hf
          · exact absurd hf (by simp)
          · exact ih (fun look' hlook' => h look' (List.mem_cons_of_mem _ hlook')) hf
  refine ⟨fun d _ => ?_⟩
  dsimp only [waitFor, Act.runOn, ExceptT.run, StateT.run]
  generalize hr : await pid _ looks = r
  cases r with
  | ok _ => trivial
  | error f => exact hawait _ f hr

end Readiness

/-! ## Sessions that processes serve -/

namespace LocalSupervisor

/-- The parts of a supervisor refuse nothing that it asks of them. -/
structure Obliging (s : LocalSupervisor σ) : Prop where
  register : ∀ session pid, session.owner = .process pid →
    RefusesNothing (s.registry.register session)
  unregister : ∀ key, RefusesNothing (s.registry.unregister key)
  isAlive : ∀ pid, RefusesNothing (s.processes.isAlive pid)
  terminate : ∀ pid, RefusesNothing (s.processes.terminate pid)
  watch : RefusesNothing s.signals.begin
  arrived : RefusesNothing s.signals.arrived
  build : ∀ options, Ensures (fun _ => True) (s.factory.build options)
    (fun path _ => (RefusesNothing path.start ∧ RefusesNothing path.isRunning ∧
      RefusesNothing path.stop) ∧ True) fun f _ => ¬ f.IsRefusal

namespace Obliging

variable {s : LocalSupervisor σ}

/-- `answerSignals options signals` refuses nothing: a log that cannot be written anew is passed
over. -/
theorem answerSignals (s : LocalSupervisor σ) (options : MountOptions) (signals : List Signal) :
    RefusesNothing (s.answerSignals options signals) := by
  induction signals with
  | nil => exact .pure _
  | cons signal rest ih =>
    cases signal with
    | interrupt => exact .pure _
    | terminate => exact .pure _
    | reload =>
      unfold LocalSupervisor.answerSignals
      cases options.configPath with
      | none => exact ih
      | some path => exact (RefusesNothing.attempt _).bind fun _ => ih

/-- `serve path options n` refuses nothing, by induction on the polls that are left. -/
theorem serve (h : s.Obliging) {path : DataPath σ} (hrunning : RefusesNothing path.isRunning)
    (options : MountOptions) (n : Nat) : RefusesNothing (s.serve path options n) := by
  induction n with
  | zero => exact .pure _
  | succ n ih =>
    refine h.arrived.bind fun signals => (answerSignals s options signals).bind fun ended => ?_
    exact .ite (.pure _) (hrunning.bind fun running => .ite ih (.pure _))

/-- `shutdown path session options pid` refuses nothing, in any of its steps. -/
theorem shutdown (h : s.Obliging) {path : DataPath σ} (hstop : RefusesNothing path.stop)
    (session : Session) (options : MountOptions) (pid : UInt32) :
    RefusesNothing (s.shutdown path session options pid) := by
  have hend : RefusesNothing (Act.attempt path.stop >>= fun stopped =>
      s.registry.unregister session.key >>= fun _ => Act.ofExcept stopped) :=
    hstop.attempt_bind fun stopped hstopped => (h.unregister _).bind fun _ => .ofExcept hstopped
  refine .ite ?_ hend
  refine (RefusesNothing.look.bind fun _ => .pure _).bind fun enabled => .ite ?_ hend
  exact (RefusesNothing.attempt _).bind fun _ => hend

/-- `attach path session` refuses nothing where the owner of the session is a process. -/
theorem attach (h : s.Obliging) {path : DataPath σ} (hstart : RefusesNothing path.start)
    {session : Session} {pid : UInt32} (howner : session.owner = .process pid) :
    RefusesNothing (s.attach path session) := by
  refine (hstart.inContext _).bind fun _ => ?_
  refine (h.register session pid howner).attempt_bind fun result hresult => ?_
  cases result with
  | ok _ => exact .pure _
  | error f => exact (RefusesNothing.attempt _).bind fun _ => .fail (hresult f rfl)

/-- **To serve a session is not refused.** What `serveHere` asks of its parts is asked in turn: to
build the path, to attach, to serve, and to shut down. -/
theorem serveHere (h : s.Obliging) (session : Session) (options : MountOptions) {ready : Act σ Unit}
    (hready : RefusesNothing ready) : RefusesNothing (s.serveHere session options ready) := by
  refine RefusesNothing.look.bind fun x => ?_
  refine ⟨(h.build options).bind fun path => Ensures.of_fact fun ⟨hstart, hrunning, hstop⟩ => ?_⟩
  refine RefusesNothing.ensures (RefusesNothing.bind ?_ fun _ => .pure _)
  refine h.watch.bind fun _ => ?_
  refine (h.attach hstart rfl).bind fun _ => hready.bind fun _ => RefusesNothing.look.bind fun x => ?_
  refine RefusesNothing.bind ?_ fun _ => (h.serve hrunning options _).bind fun _ =>
    h.shutdown hstop _ options _
  exact .ite ((RefusesNothing.attempt _).bind fun _ => .pure _) (.pure _)

/-- **To stop a session is not refused.** -/
theorem stop (h : s.Obliging) (session : Session) : RefusesNothing (s.stop session) := by
  have hawait (pid : UInt32) (n : Nat) : RefusesNothing (s.awaitExit pid n) := by
    induction n with
    | zero => exact .pure _
    | succ n ih => exact (h.isAlive pid).bind fun _ => .ite ih (.pure _)
  obtain ⟨key, config, owner, state⟩ := session
  cases owner with
  | service name => exact .refuse nofun
  | process pid =>
    refine (h.isAlive pid).bind fun alive => .ite ?_ (h.unregister _)
    exact (h.terminate pid).bind fun _ => (hawait pid _).bind fun _ => h.unregister _

end Obliging

end LocalSupervisor

end MountKeeper
