import MountKeeper.Proofs.Sessions.Watched
import MountKeeper.Rehearsal.Books

/-! # Who is alive

A session may be recorded although its path is not mounted: its owner is still starting up, or has
died. Whether it is alive is decided twice. A mount asks, because a live session keeps its path; an
unmount asks, because a live session is to be stopped.

* `Teardown.watched` writes down what an unmount asks for, and `Teardown.stops` are the sessions that
  it asks to be stopped.
* `Unattached` is a path that has a record and is not mounted.
* `Unattached.answer_reconcile` and `Unattached.stops_eq` tell both decisions by themselves.
* `AgreesOnLife` says that the two decisions go together, and `Unattached.agreesOnLife_iff` when they
  do: when the owner is a process. -/

namespace MountKeeper

open Act (Shadows)

variable {σ : Type}

/-! ## Watched unmounts -/

/-- What it takes to unmount, with a trace of the calls. -/
def Teardown.watched (t : Teardown σ) : Teardown (Traced σ ManagerCall) where
  books := t.books.watched
  supervisor := {
    start := fun session options => (t.supervisor.start session options).seen (.start session)
    stop := fun session => (t.supervisor.stop session).seen (.stop session) }
  console := ⟨fun line => (t.console.print line).unseen⟩
  patterns := t.patterns

/-- The failure of an unmount that finds nothing. -/
def Teardown.nothingMounted (target : String) : Failure :=
  .ofSession (.notMounted (SessionKey.ofPath target).text)

/-- The session that a call stops. -/
def ManagerCall.stopped? : ManagerCall → Option Session
  | stop session => some session
  | _ => none

/-- The sessions that an unmount asks to be stopped, in order. -/
def Teardown.stops (t : Teardown σ) (target : String) (lazily silent : Bool) (s : σ) :
    List Session :=
  ((t.watched.unmount target lazily silent).runOn ⟨s, []⟩).2.trace.filterMap
    ManagerCall.stopped?

namespace Teardown

variable (t : Teardown σ)

/-- To ask `ownerAlive` is no call that is written down. -/
theorem shadows_ownerAlive (record : Session) :
    Shadows (t.watched.ownerAlive record) (t.ownerAlive record) fun _ => [] := by
  obtain ⟨key, config, owner, state⟩ := record
  cases owner with
  | process pid => exact .unseen _
  | service name => exact .pure true

/-- `stopUnmounted` writes down `.stop record` when the owner is alive, and `.unregister key`
otherwise. -/
theorem shadows_stopUnmounted (key : SessionKey) (record : Session) :
    Shadows (t.watched.stopUnmounted key (some record)) (t.stopUnmounted key (some record))
      (Act.afterwards (t.ownerAlive record) fun alive _ =>
        if alive then [ManagerCall.stop record] else [ManagerCall.unregister key]) := by
  refine (t.shadows_ownerAlive record).quiet_bind fun alive => ?_
  cases alive with
  | true => exact (Shadows.seen _ _).inContext _
  | false => exact (Shadows.seen _ _).bind_quiet fun _ => .fail _

end Teardown

/-! ## Recorded and not mounted -/

/-- A path, not a pattern, that has a record and is not mounted. `s'` is the host when both is known;
to look may change it. -/
structure Unattached (t : Teardown σ) (target : String) (record : Session) (s s' : σ) : Prop where
  /-- The target is a path. -/
  path : Teardown.isPattern target = false
  /-- Its record is found, and that it is not mounted. -/
  found : t.books.Finds (.ofPath target) (some record) false s s'

namespace Unattached

variable {t : Teardown σ} {target : String} {record : Session} {s s' : σ}

/-- Looking leaves no trace, so a path is `Unattached` for the watched teardown. -/
theorem watched (h : Unattached t target record s s') :
    Unattached t.watched target record ⟨s, []⟩ ⟨s', []⟩ :=
  ⟨h.path, h.found.watched []⟩

/-- `t.unmount target` of such a path decides about its record, by `stopUnmounted`, and says so if
that works out. -/
theorem runOn_unmount (h : Unattached t target record s s') (lazily silent : Bool) :
    (t.unmount target lazily silent).runOn s
      = (t.stopUnmounted (.ofPath target) (some record) >>= fun _ =>
          if !silent then
            t.console.print s!"Successfully unmounted {(SessionKey.ofPath target).text}"
          else pure ()).runOn s' := by
  obtain ⟨between, hlookup, hmounts⟩ := h.found
  have hnot : ¬ Teardown.isPattern target = true := by simp [h.path]
  rw [Teardown.unmount, if_neg hnot, Teardown.unmountKey, Act.runOn_bind, Act.runOn_attempt, hlookup]
  dsimp only
  rw [Act.runOn_bind, hmounts]
  rfl

/-- **What a mount finds** at such a path is `isTaken`: whether its record makes it taken. -/
theorem answer_reconcile (h : Unattached t target record s s') :
    ((t.books.reconcile (.ofPath target)).runOn s).1
      = ((t.books.isTaken (.ofPath target) false (some record)).runOn s').1.map
          fun taken => if taken then .alreadyMounted else .proceed := by
  rw [h.found.runOn_reconcile, Act.runOn_bind]
  rcases (t.books.isTaken (.ofPath target) false (some record)).runOn s' with ⟨r, behind⟩
  cases r with
  | error f => rfl
  | ok taken =>
    cases taken with
    | true => rfl
    | false => rfl

/-- **What an unmount stops** at such a path is `[record]`, if its owner is alive. -/
theorem stops_eq (h : Unattached t target record s s') (lazily silent : Bool) :
    t.stops target lazily silent s
      = match ((t.ownerAlive record).runOn s').1 with
        | .ok true => [record]
        | _ => [] := by
  have hsay : ∀ u : Unit, Shadows (ε := ManagerCall)
      (if !silent then
        t.watched.console.print s!"Successfully unmounted {(SessionKey.ofPath target).text}"
        else pure ())
      (if !silent then
        t.console.print s!"Successfully unmounted {(SessionKey.ofPath target).text}"
        else pure ()) fun _ => [] := by
    intro _
    cases silent with
    | true => exact .pure ()
    | false => exact .unseen _
  -- what is shown in the end leaves no trace, so that the trace is that of the decision
  have hwritten := (t.shadows_stopUnmounted (.ofPath target) record).bind_quiet hsay
  rw [Teardown.stops, h.watched.runOn_unmount, hwritten]
  dsimp only
  rw [List.nil_append, Act.afterwards]
  rcases (t.ownerAlive record).runOn s' with ⟨r, behind⟩
  cases r with
  | error f => rfl
  | ok alive =>
    cases alive with
    | true => rfl
    | false => rfl

/-! ### One owner or the other -/

variable (lazily silent : Bool)

/-- A mount finds the path of `.service name` free, because it is not mounted. -/
theorem reconcile_service (h : Unattached t target record s s') {name : String}
    (howner : record.owner = .service name) :
    ((t.books.reconcile (.ofPath target)).runOn s).1 = .ok .proceed := by
  rw [h.answer_reconcile, Bookkeeping.isTaken, howner]
  rfl

/-- An unmount stops the session of `.service name`, which counts as alive. -/
theorem stops_service (h : Unattached t target record s s') {name : String}
    (howner : record.owner = .service name) : t.stops target lazily silent s = [record] := by
  rw [h.stops_eq, Teardown.ownerAlive, howner]
  rfl

/-- A mount finds the path of `.process pid` taken as long as the process exists. -/
theorem reconcile_process (h : Unattached t target record s s') {pid : UInt32}
    (howner : record.owner = .process pid) :
    ((t.books.reconcile (.ofPath target)).runOn s).1
      = ((t.books.processes.isAlive pid).runOn s').1.map
          fun alive => if alive then .alreadyMounted else .proceed := by
  rw [h.answer_reconcile, Bookkeeping.isTaken, howner]

/-- An unmount stops the session of `.process pid` if the process exists. -/
theorem stops_process (h : Unattached t target record s s') {pid : UInt32}
    (howner : record.owner = .process pid) :
    t.stops target lazily silent s = match ((t.books.processes.isAlive pid).runOn s').1 with
      | .ok true => [record]
      | _ => [] := by
  rw [h.stops_eq, Teardown.ownerAlive, howner]

/-- An unmount drops the record of a process that is gone. It ends in `nothingMounted`, unless the
record cannot be dropped. -/
theorem answer_unmount_dead (h : Unattached t target record s s') {pid : UInt32}
    (howner : record.owner = .process pid) {s₃ : σ}
    (hdead : (t.books.processes.isAlive pid).runOn s' = (.ok false, s₃)) :
    ((t.unmount target lazily silent).runOn s).1
      = ((t.books.registry.unregister (.ofPath target)).runOn s₃).1.bind
          fun _ => .error (Teardown.nothingMounted target) := by
  have halive : (t.ownerAlive record).runOn s' = (.ok false, s₃) := by
    rw [Teardown.ownerAlive, howner]
    exact hdead
  rw [h.runOn_unmount, Act.runOn_bind, Teardown.stopUnmounted, Act.runOn_bind, halive]
  dsimp only
  rw [if_neg Bool.false_ne_true, Act.runOn_bind]
  rcases (t.books.registry.unregister (.ofPath target)).runOn s₃ with ⟨r, behind⟩
  cases r with
  | ok _ => rfl
  | error f => rfl

end Unattached

/-! ## Agreement -/

/-- What a mount finds at a path and what an unmount does there go together. -/
structure AgreesOnLife (t : Teardown σ) (target : String) (lazily silent : Bool) (record : Session)
    (s : σ) : Prop where
  /-- The session is asked to stop just when a mount finds its path taken. -/
  stopped_iff : record ∈ t.stops target lazily silent s ↔
    ((t.books.reconcile (.ofPath target)).runOn s).1 = .ok .alreadyMounted
  /-- Where a mount finds the path free, an unmount finds nothing mounted, and stops nothing. -/
  notMounted : ((t.books.reconcile (.ofPath target)).runOn s).1 = .ok .proceed →
    ((t.unmount target lazily silent).runOn s).1 = .error (Teardown.nothingMounted target) ∧
      t.stops target lazily silent s = []

namespace Unattached

variable {t : Teardown σ} {target : String} {record : Session} {s s' : σ} (lazily silent : Bool)

/-- There is no agreement about `.service name`: a mount goes by the mounts, and an unmount takes
the instance for alive. -/
theorem not_agreesOnLife_service (h : Unattached t target record s s') {name : String}
    (howner : record.owner = .service name) : ¬ AgreesOnLife t target lazily silent record s := by
  intro hagrees
  -- the mount finds the path free, so that nothing should be stopped
  have hstops := (hagrees.notMounted (h.reconcile_service howner)).2
  rw [h.stops_service lazily silent howner] at hstops
  exact List.cons_ne_nil _ _ hstops

/-- Both go by the process of `.process pid`: an unmount stops the session exactly if a mount finds
the path taken. -/
theorem stopped_iff_process (h : Unattached t target record s s') {pid : UInt32}
    (howner : record.owner = .process pid) :
    record ∈ t.stops target lazily silent s ↔
      ((t.books.reconcile (.ofPath target)).runOn s).1 = .ok .alreadyMounted := by
  rw [h.reconcile_process howner, h.stops_process lazily silent howner]
  rcases ((t.books.processes.isAlive pid).runOn s').1 with f | (_ | _)
  · simp [Except.map]
  · simp [Except.map]
  · simp [Except.map]

/-- **Agreement on life.** At a path that has a record and is not mounted, `AgreesOnLife` holds when
its owner is a process, and the record of a process that is gone can be dropped; and only then. -/
theorem agreesOnLife_iff (h : Unattached t target record s s') :
    AgreesOnLife t target lazily silent record s ↔
      ∃ pid, record.owner = .process pid ∧
        ∀ s₃ f s₄, (t.books.processes.isAlive pid).runOn s' = (.ok false, s₃) →
          (t.books.registry.unregister (.ofPath target)).runOn s₃ = (.error f, s₄) →
            f = Teardown.nothingMounted target := by
  constructor
  · intro hagrees
    rcases howner : record.owner with pid | name
    · -- where the process is gone, the mount finds the path free, and the unmount has to say so
      refine ⟨pid, rfl, fun s₃ f s₄ hdead hstays => ?_⟩
      have hfree : ((t.books.reconcile (.ofPath target)).runOn s).1 = .ok .proceed := by
        rw [h.reconcile_process howner, hdead]
        rfl
      have hanswer := (hagrees.notMounted hfree).1
      rw [h.answer_unmount_dead lazily silent howner hdead, hstays] at hanswer
      exact Except.error.inj hanswer
    · exact absurd hagrees (h.not_agreesOnLife_service lazily silent howner)
  · rintro ⟨pid, howner, hdropped⟩
    refine ⟨h.stopped_iff_process lazily silent howner, fun hfree => ?_⟩
    rw [h.reconcile_process howner] at hfree
    rcases hrun : (t.books.processes.isAlive pid).runOn s' with ⟨r, s₃⟩
    rw [hrun] at hfree
    -- only a process that is gone leaves its path free
    have hdead : r = .ok false := by
      rcases r with f | (_ | _)
      · exact absurd hfree (by simp [Except.map])
      · rfl
      · exact absurd hfree (by simp [Except.map])
    subst hdead
    constructor
    · rw [h.answer_unmount_dead lazily silent howner hrun]
      rcases hdrop : (t.books.registry.unregister (.ofPath target)).runOn s₃ with ⟨r, s₄⟩
      cases r with
      | ok _ => rfl
      | error f =>
        rw [hdropped s₃ f s₄ hrun hdrop]
        rfl
    · rw [h.stops_process lazily silent howner, hrun]

end Unattached

/-! ## A host -/

namespace Rehearsal.Host

/-- A record of `/mnt/m`. -/
def recordOf (owner : Owner) : Session where
  key := .ofPath "/mnt/m"
  owner := owner
  state := .running

/-- A host with a record of `/mnt/m`. Nothing is mounted, and no process runs. -/
def onlyRecorded (owner : Owner) : Host where
  surroundings := ⟨"/home/u", "/"⟩
  records := { sessions := [recordOf owner] }

/-- A host with a record and no mounts is `Unattached`, whoever the owner is. -/
theorem unattached_onlyRecorded (owner : Owner) :
    Unattached teardown "/mnt/m" (recordOf owner) (onlyRecorded owner) (onlyRecorded owner) := by
  have hfind : Records.find? (.ofPath "/mnt/m") [recordOf owner] = some (recordOf owner) :=
    List.find?_cons_of_pos (beq_self_eq_true (SessionKey.ofPath "/mnt/m"))
  refine ⟨by decide, onlyRecorded owner, ?_, rfl⟩
  show (Except.ok (Records.find? (.ofPath "/mnt/m") [recordOf owner]), onlyRecorded owner) = _
  rw [hfind]

/-- The record of `.process 7`, which is gone, is dropped, and nothing was mounted. -/
theorem agreesOnLife_deadProcess :
    Unattached teardown "/mnt/m" (recordOf (.process 7)) (onlyRecorded (.process 7))
      (onlyRecorded (.process 7)) ∧
    AgreesOnLife teardown "/mnt/m" false true (recordOf (.process 7)) (onlyRecorded (.process 7)) := by
  refine ⟨unattached_onlyRecorded _, ?_⟩
  refine ((unattached_onlyRecorded (.process 7)).agreesOnLife_iff false true).2 ⟨7, rfl, ?_⟩
  intro s₃ f s₄ hdead hstays
  -- no record of this host has to stay
  have hdropped : ((registry.unregister (.ofPath "/mnt/m")).runOn (onlyRecorded (.process 7))).1
      = .ok () := rfl
  obtain ⟨-, rfl⟩ := Prod.mk.inj hdead
  exact absurd (hdropped.symm.trans (congrArg Prod.fst hstays)) (by simp)

/-- The session of `.service "/mnt/m"` is stopped, although a mount finds its path free. -/
theorem not_agreesOnLife_launcherSession :
    Unattached teardown "/mnt/m" (recordOf (.service "/mnt/m")) (onlyRecorded (.service "/mnt/m"))
      (onlyRecorded (.service "/mnt/m")) ∧
    ((books.reconcile (.ofPath "/mnt/m")).runOn (onlyRecorded (.service "/mnt/m"))).1
      = .ok .proceed ∧
    teardown.stops "/mnt/m" false true (onlyRecorded (.service "/mnt/m"))
      = [recordOf (.service "/mnt/m")] ∧
    ¬ AgreesOnLife teardown "/mnt/m" false true (recordOf (.service "/mnt/m"))
      (onlyRecorded (.service "/mnt/m")) := by
  have hun := unattached_onlyRecorded (.service "/mnt/m")
  exact ⟨hun, hun.reconcile_service rfl, hun.stops_service false true rfl,
    hun.not_agreesOnLife_service false true rfl⟩

end Rehearsal.Host

end MountKeeper
