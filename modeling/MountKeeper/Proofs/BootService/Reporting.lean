import MountKeeper.Proofs.BootService.Stopping

/-! # What the boot service reports

The service manager is told of every step in the life of the service. A report that is refused is the
last one.

* `StatusSink.inTurn` are receivers that take the reports in turn, with a trace of the reports.
* `BootService.Reports sinks T a rs Q`: behind the reports `T`, the act `a` makes the reports `rs` as
  far as they are received. One rule for each way of putting acts together.
* `BootService.dueReports` are the reports that are due in the life of the service.
* `BootService.follows_run`: with one receiver for all reports, the trace is all that is added to what
  the service does.
* `BootService.reports_protocol`: the reports that are due are made, in their order and no others, up
  to the first one that is refused. -/

namespace MountKeeper

open Act (Shadows Follows)

variable {σ ε α β : Type}

/-- A report to the service manager: a state, and whether stopping is accepted in it. -/
abbrev Report := ServiceState × Bool

/-- The launcher on a traced host. -/
def MountLauncher.unseen (l : MountLauncher σ) : MountLauncher (Traced σ ε) where
  start name dir config := (l.start name dir config).unseen
  stop name dir := (l.stop name dir).unseen
  list := l.list.unseen

namespace StatusSink

/-- The receiver takes every report. -/
def Accepts (sink : StatusSink σ) : Prop :=
  ∀ state acceptStop s, ((sink.report state acceptStop).runOn s).1 = .ok ()

/-- The receiver takes no report. -/
def Refuses (sink : StatusSink σ) : Prop :=
  ∀ state acceptStop s, ∃ f, ((sink.report state acceptStop).runOn s).1 = .error f

/-- Receivers that take the reports in turn: the report with the index `n` goes to the `n`-th one.
The reports are written down, whether or not they are refused. -/
def inTurn (sinks : Nat → StatusSink σ) : StatusSink (Traced σ Report) where
  report state acceptStop := do
    let t ← Act.look
    ((sinks t.trace.length).report state acceptStop).seen (state, acceptStop)

/-- The `n`-th report goes to the `n`-th sink, and is noted in the trace whatever the sink answers.
-/
theorem runOn_report_inTurn (sinks : Nat → StatusSink σ) (state : ServiceState)
    (acceptStop : Bool) (t : Traced σ Report) :
    ((inTurn sinks).report state acceptStop).runOn t
      = ((((sinks t.trace.length).report state acceptStop).runOn t.host).1,
        ⟨(((sinks t.trace.length).report state acceptStop).runOn t.host).2,
          t.trace ++ [(state, acceptStop)]⟩) :=
  Act.runOn_seen (state, acceptStop) ((sinks t.trace.length).report state acceptStop) t

end StatusSink

namespace BootService

open StatusSink (inTurn)

/-! ## Making reports -/

/-- Behind the reports `T`, the act makes the reports `rs` and nothing else, in their order. When all
are received, its result is as `Q` says. The first one that is refused is the last one, and the act
fails. -/
structure Reports (sinks : Nat → StatusSink σ) (T : List Report) (a : Act (Traced σ Report) α)
    (rs : List Report) (Q : Except Failure α → Prop) : Prop where
  complete : (∀ n < (T ++ rs).length, (sinks n).Accepts) → ∀ t : Traced σ Report, t.trace = T →
    (a.runOn t).2.trace = T ++ rs ∧ Q (a.runOn t).1
  cut : ∀ i < (T ++ rs).length, T.length ≤ i → (∀ n < i, (sinks n).Accepts) →
    (sinks i).Refuses → ∀ t : Traced σ Report, t.trace = T →
      (a.runOn t).2.trace = (T ++ rs).take (i + 1) ∧ ∃ f, (a.runOn t).1 = .error f

/-- An answer, whatever it is. -/
def Answers (r : Except Failure α) : Prop :=
  ∃ x, r = .ok x

namespace Reports

variable {sinks : Nat → StatusSink σ} {T rs rs' : List Report} {Q : Except Failure β → Prop}

/-- An act that shadows another and writes nothing makes no reports. -/
theorem quiet {a : Act σ β} {b : Act (Traced σ Report) β} (h : Shadows b a fun _ => [])
    (hQ : ∀ s, Q (a.runOn s).1) : Reports sinks T b [] Q where
  complete _ t ht := by
    rw [h t, List.append_nil, List.append_nil]
    exact ⟨ht, hQ t.host⟩
  cut i hi hT := by
    rw [List.append_nil] at hi
    exact absurd hi (Nat.not_lt.2 hT)

/-- One report is noted as itself, and its answer is that of its sink. -/
theorem report (state : ServiceState) (acceptStop : Bool) :
    Reports sinks T ((inTurn sinks).report state acceptStop) [(state, acceptStop)] Answers where
  complete haccept t ht := by
    have hindex : t.trace.length < (T ++ [(state, acceptStop)]).length := by
      rw [ht, List.length_append, List.length_singleton]
      exact Nat.lt_succ_self _
    rw [StatusSink.runOn_report_inTurn]
    exact ⟨by rw [ht], (), haccept _ hindex _ _ _⟩
  cut i hi hT _ hrefuse t ht := by
    -- the only report is the one that is refused
    have hindex : i = t.trace.length := by
      rw [List.length_append, List.length_singleton] at hi
      rw [ht]
      omega
    have hall : (T ++ [(state, acceptStop)]).length = i + 1 := by
      rw [List.length_append, List.length_singleton, hindex, ht]
    rw [StatusSink.runOn_report_inTurn, List.take_of_length_le (Nat.le_of_eq hall), ← hindex]
    exact ⟨by rw [ht], hrefuse _ _ _⟩

/-- `a >>= k` makes the reports of both acts, one behind the other. -/
theorem bind {a : Act (Traced σ Report) α} {k : α → Act (Traced σ Report) β}
    (h : Reports sinks T a rs Answers) (hk : ∀ x, Reports sinks (T ++ rs) (k x) rs' Q) :
    Reports sinks T (a >>= k) (rs ++ rs') Q where
  complete haccept t ht := by
    rw [← List.append_assoc] at haccept ⊢
    have hfirst : ∀ n < (T ++ rs).length, (sinks n).Accepts := by
      intro n hn
      refine haccept n (Nat.lt_of_lt_of_le hn ?_)
      rw [@List.length_append _ (T ++ rs)]
      exact Nat.le_add_right _ _
    obtain ⟨htrace, x, hx⟩ := h.complete hfirst t ht
    rw [Act.runOn_bind, show a.runOn t = (.ok x, (a.runOn t).2) from Prod.ext hx rfl]
    exact (hk x).complete haccept _ htrace
  cut i hi hT haccept hrefuse t ht := by
    rw [← List.append_assoc] at hi ⊢
    by_cases hearly : i < (T ++ rs).length
    · -- the first act meets the refusal, and nothing follows
      obtain ⟨htrace, f, hf⟩ := h.cut i hearly hT haccept hrefuse t ht
      rw [Act.runOn_bind, show a.runOn t = (.error f, (a.runOn t).2) from Prod.ext hf rfl]
      exact ⟨by rw [htrace, List.take_append_of_le_length hearly], f, rfl⟩
    · have hlate := Nat.not_lt.1 hearly
      obtain ⟨htrace, x, hx⟩ :=
        h.complete (fun n hn => haccept n (Nat.lt_of_lt_of_le hn hlate)) t ht
      rw [Act.runOn_bind, show a.runOn t = (.ok x, (a.runOn t).2) from Prod.ext hx rfl]
      exact (hk x).cut i hi hlate haccept hrefuse _ htrace

/-- `Reports` is monotone in what is said of the result. -/
theorem weaken {a : Act (Traced σ Report) β} {Q' : Except Failure β → Prop}
    (h : Reports sinks T a rs Q) (hQ : ∀ r, Q r → Q' r) : Reports sinks T a rs Q' where
  complete haccept t ht := ⟨(h.complete haccept t ht).1, hQ _ (h.complete haccept t ht).2⟩
  cut := h.cut

/-- `a >>= k` where `k` makes no reports makes those of `a`. -/
theorem bind_quiet {a : Act (Traced σ Report) α} {k : α → Act (Traced σ Report) β}
    (h : Reports sinks T a rs Answers) (hk : ∀ x, Reports sinks (T ++ rs) (k x) [] Q) :
    Reports sinks T (a >>= k) rs Q := by
  have hboth := h.bind hk
  rwa [List.append_nil] at hboth

/-- `reportAll rs` notes the reports of `rs` in order, up to the first that is not taken. Induction
on `rs`, with the trace so far generalized. -/
theorem reportAll (rs : List Report) (T : List Report) :
    Reports sinks T (BootService.reportAll (inTurn sinks) rs) rs Answers := by
  induction rs generalizing T with
  | nil => exact quiet (Shadows.pure ()) fun _ => ⟨(), rfl⟩
  | cons r rest ih => exact (report r.1 r.2).bind fun _ => ih _

end Reports

/-! ## The life of the service -/

section

variable (launcher : MountLauncher σ) (boot : BootInstances σ)

/-- What is done for each instance without a trace leaves no trace of `boot.list >>= forM`. -/
theorem shadows_forM_list {one : BootInstance → Act σ Unit}
    {one' : BootInstance → Act (Traced σ ε) Unit} (hone : ∀ i, Shadows (one' i) (one i) fun _ => [])
    (hok : ∀ i s, ((one i).runOn s).1 = .ok ()) :
    Shadows (boot.list.unseen >>= fun is => is.forM one') (boot.list >>= fun is => is.forM one)
      fun _ => [] := by
  refine (Shadows.unseen boot.list).bind_quiet fun is => ?_
  have hall := Shadows.forM hone hok is
  rwa [List.flatMap_eq_nil_iff.2 fun _ _ => rfl] at hall

/-- `startAll` asks the launcher and the boot list, and reports nothing. -/
theorem shadows_startAll_unseen :
    Shadows (ε := ε) (startAll launcher.unseen boot.unseen) (startAll launcher boot)
      fun _ => [] := by
  have hone (i : BootInstance) : Shadows (ε := ε) (startOne launcher.unseen boot.unseen i)
      (startOne launcher boot i) fun _ => [] := by
    unfold startOne
    cases i.remount with
    | true => exact (Shadows.unseen _).attempt.bind_quiet fun _ => .pure ()
    | false => exact (Shadows.unseen _).attempt.bind_quiet fun _ => .pure ()
  rw [startAll_eq, startAll_eq]
  exact shadows_forM_list boot hone (startOne_ok launcher boot)

/-- `stopAll` asks the launcher and the boot list, and reports nothing. -/
theorem shadows_stopAll_unseen :
    Shadows (ε := ε) (stopAll launcher.unseen boot.unseen) (stopAll launcher boot)
      fun _ => [] := by
  have hone (i : BootInstance) : Shadows (ε := ε) (stopOne launcher.unseen i)
      (stopOne launcher i) fun _ => [] :=
    (Shadows.unseen _).attempt.bind_quiet fun _ => .pure ()
  rw [stopAll_eq, stopAll_eq]
  exact shadows_forM_list boot hone fun _ _ => rfl

/-- `startAll` fails only when the instances cannot be listed. -/
theorem startAll_fst (s : σ) :
    ((startAll launcher boot).runOn s).1 = (boot.list.runOn s).1.map fun _ => () := by
  rw [startAll_eq, Act.runOn_bind]
  rcases boot.list.runOn s with ⟨r, s'⟩
  cases r with
  | error f => rfl
  | ok is =>
    -- no instance ends the phase
    show ((is.forM (startOne launcher boot)).runOn s').1 = .ok ()
    induction is generalizing s' with
    | nil => rfl
    | cons i rest ih =>
      have hone : (startOne launcher boot i).runOn s'
          = (.ok (), ((startOne launcher boot i).runOn s').2) :=
        Prod.ext (startOne_ok launcher boot i s') rfl
      show ((startOne launcher boot i >>= fun _ => rest.forM (startOne launcher boot)).runOn s').1 = _
      rw [Act.runOn_bind, hone]
      exact ih _

end

/-- How often the service manager inquires before the service ends. -/
def inquiries (controls : List ServiceControl) : Nat :=
  (controls.takeWhile (· == .interrogate)).length

/-- **The reports that are due** in the life of the service, given what the instances are found to be
at the start. -/
def dueReports (controls : List ServiceControl) : Except Failure (List BootInstance) → List Report
  | .error _ => [(.startPending, false), (.stopPending, false), (.stopped, false)]
  | .ok _ => (.startPending, false) :: (.running, true) ::
      (List.replicate (inquiries controls) (.running, true)
        ++ [(.stopPending, false), (.stopped, false)])

/-- While it serves, the service reports `running` once for each inquiry, and `stopPending` at the
end. -/
theorem reportsWhileServing_eq (controls : List ServiceControl) :
    reportsWhileServing controls
      = List.replicate (inquiries controls) (.running, true) ++ [(.stopPending, false)] := by
  induction controls with
  | nil => rfl
  | cons c rest ih =>
    cases c with
    | stop => rfl
    | shutdown => rfl
    | interrogate => rw [reportsWhileServing, ih]; rfl

section

variable (launcher : MountLauncher σ) (boot : BootInstances σ) (sinks : Nat → StatusSink σ)

/-- What the instances are found to be at the start, behind the first report. -/
def listing (s : σ) : Except Failure (List BootInstance) :=
  (boot.list.runOn (((sinks 0).report .startPending false).runOn s).2).1

/-- The life of the service on a host, with a trace of its reports. -/
def reporting (controls : List ServiceControl) (s : σ) : Except Failure Unit × Traced σ Report :=
  (run launcher.unseen boot.unseen (inTurn sinks) controls).runOn ⟨s, []⟩

/-- `reporting` in two cases: the first report is refused, or the start phase and `followUp` go on
behind it. -/
theorem reporting_eq (controls : List ServiceControl) (s : σ) :
    ∃ s₁, reporting launcher boot sinks controls s
      = match (((sinks 0).report .startPending false).runOn s).1 with
        | .error f => (.error f, ⟨s₁, [(.startPending, false)]⟩)
        | .ok _ => (followUp launcher.unseen boot.unseen (inTurn sinks) controls
            ((listing boot sinks s).map fun _ => ())).runOn ⟨s₁, [(.startPending, false)]⟩ := by
  have hreport := StatusSink.runOn_report_inTurn sinks .startPending false ⟨s, []⟩
  dsimp only [List.length_nil] at hreport
  unfold reporting listing
  rw [run_eq, Act.runOn_bind, hreport]
  rcases ((sinks 0).report .startPending false).runOn s with ⟨r, s'⟩
  cases r with
  | error f => exact ⟨s', rfl⟩
  | ok _ =>
    -- starting the instances asks the sink nothing, so the trace is still the first report
    have hstart := shadows_startAll_unseen (ε := Report) launcher boot ⟨s', [(.startPending, false)]⟩
    rw [startAll_fst, List.append_nil] at hstart
    refine ⟨((startAll launcher boot).runOn s').2, ?_⟩
    dsimp only
    rw [Act.runOn_bind, Act.runOn_attempt, List.nil_append, hstart]

/-- Behind the loop, `stopped` is the one report, and whatever the instances answer, the service
ends with `()` if it is taken. -/
theorem reports_stopping (T : List Report) :
    Reports sinks T (stopping launcher.unseen boot.unseen (inTurn sinks)) [(.stopped, false)]
      (· = .ok ()) := by
  have hquiet : Reports sinks T (Act.attempt (stopAll launcher.unseen boot.unseen)) [] Answers :=
    .quiet (shadows_stopAll_unseen launcher boot).attempt fun s => ⟨_, rfl⟩
  have hboth := hquiet.bind fun _ => Reports.report (T := T ++ []) .stopped false
  exact hboth.weaken fun r ⟨_, hr⟩ => hr

/-- **What follows the start phase** makes the reports of `dueReports` that are due then, and has
the result of the start phase. -/
theorem reports_followUp (controls : List ServiceControl)
    (found : Except Failure (List BootInstance)) :
    Reports sinks [(.startPending, false)]
      (followUp launcher.unseen boot.unseen (inTurn sinks) controls (found.map fun _ => ()))
      (dueReports controls found).tail (· = found.map fun _ => ()) := by
  cases found with
  | error f =>
    refine (Reports.reportAll _ _).bind_quiet fun _ => ?_
    exact .quiet (.fail f) fun s => rfl
  | ok is =>
    have hdue : (dueReports controls (.ok is)).tail = reportsBetween controls ++ [(.stopped, false)] := by
      rw [reportsBetween, reportsWhileServing_eq, List.cons_append, List.append_assoc]
      rfl
    rw [hdue]
    exact (Reports.reportAll _ _).bind fun _ => reports_stopping launcher boot sinks _

/-- The first due report is `startPending`, whatever is found. -/
theorem dueReports_eq_cons (controls : List ServiceControl)
    (found : Except Failure (List BootInstance)) :
    dueReports controls found = [(.startPending, false)] ++ (dueReports controls found).tail := by
  cases found <;> rfl

/-! ### Without the trace -/

/-- `inTurn fun _ => sink` reports as `sink` does, and adds a line to the trace. -/
theorem shadows_report_inTurn (sink : StatusSink σ) (state : ServiceState) (acceptStop : Bool) :
    Shadows ((inTurn fun _ => sink).report state acceptStop) (sink.report state acceptStop)
      fun _ => [(state, acceptStop)] :=
  StatusSink.runOn_report_inTurn (fun _ => sink) state acceptStop

/-- With one sink for all reports, the trace changes nothing of what `reportAll` does. -/
theorem follows_reportAll (sink : StatusSink σ) (rs : List Report) :
    Follows (reportAll (inTurn fun _ => sink) rs) (reportAll sink rs) := by
  induction rs with
  | nil => exact .pure ()
  | cons r rest ih => exact Follows.bind ⟨_, shadows_report_inTurn sink r.1 r.2⟩ fun _ => ih

/-- With `inTurn fun _ => sink`, one receiver for all reports, **the service does what it does
without a trace**. -/
theorem follows_run (sink : StatusSink σ) (controls : List ServiceControl) :
    Follows (run launcher.unseen boot.unseen (inTurn fun _ => sink) controls)
      (run launcher boot sink controls) := by
  rw [run_eq, run_eq]
  refine Follows.bind ⟨_, shadows_report_inTurn sink _ _⟩ fun _ => ?_
  refine Follows.bind ⟨_, (shadows_startAll_unseen launcher boot).attempt⟩ fun r => ?_
  cases r with
  | error f => exact (follows_reportAll sink _).bind fun _ => .fail f
  | ok _ =>
    refine (follows_reportAll sink _).bind fun _ => ?_
    refine Follows.bind ⟨_, (shadows_stopAll_unseen launcher boot).attempt⟩ fun _ => ?_
    exact ⟨_, shadows_report_inTurn sink _ _⟩

/-! ### The protocol -/

/-- **The status protocol.** When no report is refused, the reports are `dueReports`, and the
service ends well if the instances could be listed at the start, and with that failure otherwise,
whatever becomes of the instances. The first report that is refused is the last one, and the service
fails. All this is told of receivers that take the reports in turn; with one for all reports, the
result is that of the service. -/
theorem reports_protocol (controls : List ServiceControl) (s : σ) :
    ((∀ n < (dueReports controls (listing boot sinks s)).length, (sinks n).Accepts) →
      (reporting launcher boot sinks controls s).2.trace
          = dueReports controls (listing boot sinks s) ∧
        (reporting launcher boot sinks controls s).1 = (listing boot sinks s).map fun _ => ()) ∧
    (∀ i < (dueReports controls (listing boot sinks s)).length,
      (∀ n < i, (sinks n).Accepts) → (sinks i).Refuses →
        (reporting launcher boot sinks controls s).2.trace
            = (dueReports controls (listing boot sinks s)).take (i + 1) ∧
          ∃ f, (reporting launcher boot sinks controls s).1 = .error f) ∧
    ∀ sink, (sinks = fun _ => sink) →
      (run launcher boot sink controls).runOn s
        = ((reporting launcher boot sinks controls s).1,
          (reporting launcher boot sinks controls s).2.host) := by
  obtain ⟨s₁, hrun⟩ := reporting_eq launcher boot sinks controls s
  have hrest := reports_followUp launcher boot sinks controls (listing boot sinks s)
  rw [dueReports_eq_cons]
  refine ⟨?_, ?_, ?_⟩
  · intro haccept
    rw [hrun, haccept 0 (Nat.succ_pos _)]
    exact hrest.complete haccept _ rfl
  · intro i hi haccept hrefuse
    rw [hrun]
    -- the first report is made before the store is read; the others are those of `followUp`
    cases i with
    | zero =>
      obtain ⟨f, hf⟩ := hrefuse .startPending false s
      rw [hf]
      exact ⟨rfl, f, rfl⟩
    | succ i =>
      rw [haccept 0 (Nat.succ_pos i)]
      exact hrest.cut (i + 1) hi (Nat.succ_pos i) haccept hrefuse _ rfl
  · -- a sink that is the same at every turn: forgetting the trace gives `run` itself
    rintro sink rfl
    obtain ⟨w, hw⟩ := follows_run launcher boot sink controls
    rw [reporting, hw ⟨s, []⟩]

end

end BootService

namespace Rehearsal.Host

open BootService

/-- Receivers of which only the third one refuses. -/
def refusingThird (n : Nat) : StatusSink Host where
  report _ _ := if n = 2 then Act.failText "status rejected" else pure ()

/-- With `refusingThird`, the inquiry is answered by a report that is refused, and the service does
not go on to the control behind it. -/
theorem reports_protocol_refusedAnswer :
    dueReports [.interrogate, .stop, .interrogate] (listing stores.boot refusingThird (oneMark 0))
      = [(.startPending, false), (.running, true), (.running, true), (.stopPending, false),
        (.stopped, false)] ∧
    (∀ n < 2, (refusingThird n).Accepts) ∧ (refusingThird 2).Refuses ∧
    (reporting mountLauncher stores.boot refusingThird [.interrogate, .stop, .interrogate]
      (oneMark 0)).2.trace = [(.startPending, false), (.running, true), (.running, true)] ∧
    ∃ f, (reporting mountLauncher stores.boot refusingThird [.interrogate, .stop, .interrogate]
      (oneMark 0)).1 = .error f := by
  have hdue : dueReports [.interrogate, .stop, .interrogate]
      (listing stores.boot refusingThird (oneMark 0))
      = [(.startPending, false), (.running, true), (.running, true), (.stopPending, false),
        (.stopped, false)] := by decide +kernel
  have haccept : ∀ n < 2, (refusingThird n).Accepts := by
    intro n hn state acceptStop h
    show ((if n = 2 then Act.failText "status rejected" else pure () : Act Host Unit).runOn h).1 = _
    rw [if_neg (Nat.ne_of_lt hn)]
    rfl
  have hrefuse : (refusingThird 2).Refuses := fun _ _ _ => ⟨_, rfl⟩
  have hprotocol := (reports_protocol mountLauncher stores.boot refusingThird
    [.interrogate, .stop, .interrogate] (oneMark 0)).2.1 2
  rw [hdue] at hprotocol
  exact ⟨hdue, haccept, hrefuse, hprotocol (by decide) haccept hrefuse⟩

end Rehearsal.Host

end MountKeeper
