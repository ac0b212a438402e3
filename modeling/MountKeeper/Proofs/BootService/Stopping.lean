import MountKeeper.Proofs.BootService.Requests
import MountKeeper.Rehearsal.Service
import MountKeeper.Rehearsal.Stores

/-! # What the boot service leaves behind

The service has reports to make between its two phases on instances. A report that is refused ends
it at once, so that the stop phase is reached only when none of them is.

* `BootService.StopsAll`: every instance that is listed when the service is done serving is asked to
  be stopped.
* `BootService.stopsAll_iff`: so it is exactly when no report before the stop phase was refused, or
  nothing is listed. -/

namespace MountKeeper

namespace BootService

variable {σ : Type} (launcher : MountLauncher σ) (boot : BootInstances σ) (sink : StatusSink σ)

/-! ## The stop phase -/

section

variable {launcher boot sink} {controls : List ServiceControl} {s s₁ s₂ s₃ : σ}
  {is : List BootInstance}

/-- **When no report is refused** before the stop phase, every instance that is listed then is asked
to be stopped, once and in the order of the list. -/
theorem asking_stop_of_reported (hstart : (starting launcher boot sink).runOn s = (.ok (), s₁))
    (hreports : (reportAll sink (reportsBetween controls)).runOn s₁ = (.ok (), s₂))
    (hlist : boot.list.runOn s₂ = (.ok is, s₃)) :
    asking .stop (requests launcher boot sink controls s) = is.map (·.stopRequest) := by
  rw [asking_stop_requests hstart]
  unfold requestsToStop
  rw [Act.afterwards_of_ok hreports, Act.afterwards_of_ok hlist]

/-- **When a report is refused** before the stop phase, the service ends with that failure, and
nothing is asked to be stopped. -/
theorem asking_stop_of_refused {f : Failure}
    (hstart : (starting launcher boot sink).runOn s = (.ok (), s₁))
    (hreports : (reportAll sink (reportsBetween controls)).runOn s₁ = (.error f, s₂)) :
    (run launcher boot sink controls).runOn s = (.error f, s₂)
      ∧ asking .stop (requests launcher boot sink controls s) = [] := by
  constructor
  · rw [run_of_starting launcher boot sink hstart, Act.runOn_bind, hreports]
  · rw [asking_stop_requests hstart]
    exact Act.afterwards_of_error hreports _

end

/-- The service stops what is listed: behind a start phase that was completed, every instance that
is listed once the service has made its reports is asked to be stopped before the service ends. -/
def StopsAll (controls : List ServiceControl) (s : σ) : Prop :=
  ∀ s₁ is s₃, (starting launcher boot sink).runOn s = (.ok (), s₁) →
    boot.list.runOn ((reportAll sink (reportsBetween controls)).runOn s₁).2 = (.ok is, s₃) →
    ∀ i ∈ is, i.stopRequest ∈ requests launcher boot sink controls s

variable {launcher boot sink} in
/-- **The service stops what is listed** exactly when no report between its two phases was refused,
or nothing is listed. What the launcher answers does not matter, nor what becomes of the report
behind the stop phase. -/
theorem stopsAll_iff {controls : List ServiceControl} {s s₁ s₃ : σ} {is : List BootInstance}
    (hstart : (starting launcher boot sink).runOn s = (.ok (), s₁))
    (hlist : boot.list.runOn ((reportAll sink (reportsBetween controls)).runOn s₁).2
      = (.ok is, s₃)) :
    StopsAll launcher boot sink controls s
      ↔ ((reportAll sink (reportsBetween controls)).runOn s₁).1 = .ok () ∨ is = [] := by
  have hmem (i : BootInstance) : i.stopRequest ∈ requests launcher boot sink controls s
      ↔ i.stopRequest ∈ asking .stop (requests launcher boot sink controls s) := by
    rw [mem_asking]
    exact (and_iff_left rfl).symm
  rcases hreports : (reportAll sink (reportsBetween controls)).runOn s₁ with ⟨r, s₂⟩
  cases r with
  | ok u =>
    refine iff_of_true ?_ (.inl rfl)
    intro s₁' is' s₃' hstart' hlist' i hi
    obtain rfl : s₁ = s₁' := (Prod.ext_iff.1 (hstart.symm.trans hstart')).2
    rw [hreports] at hlist'
    rw [hmem, asking_stop_of_reported hstart hreports hlist']
    exact List.mem_map_of_mem hi
  | error f =>
    have hnone := (asking_stop_of_refused hstart hreports).2
    constructor
    · intro hall
      refine .inr (List.eq_nil_iff_forall_not_mem.2 fun i hi => ?_)
      -- an instance that is listed would have been asked to be stopped
      have hasked := hall s₁ is s₃ hstart hlist i hi
      rw [hmem, hnone] at hasked
      exact List.not_mem_nil hasked
    · rintro (hok | rfl)
      · exact absurd hok (by simp)
      · intro s₁' is' s₃' hstart' hlist' i hi
        obtain rfl : s₁ = s₁' := (Prod.ext_iff.1 (hstart.symm.trans hstart')).2
        rw [hlist] at hlist'
        obtain rfl : [] = is' := Except.ok.inj (Prod.ext_iff.1 hlist').1
        exact absurd hi List.not_mem_nil

end BootService

namespace Rehearsal.Host

open BootService

/-- A host with one mark, for the drive `X:`, whose service manager refuses one of the reports. -/
def oneMark (refusedReport : Nat) : Host where
  surroundings := ⟨"/home/u", "/"⟩
  remounts := { entries := [("X:", InstanceStores.recordValues "X:" "c")] }
  refusedReport := some refusedReport

/-- The instance of the mark. -/
def markedInstance : BootInstance :=
  ⟨⟨.ofPath "X:", some "c", .service "X:", .running⟩, true⟩

/-- The host behind the start phase. -/
def started (refusedReport : Nat) : Host :=
  ((starting mountLauncher stores.boot sink).runOn (oneMark refusedReport)).2

/-- The host behind the reports that come before the stop phase. -/
def reported (refusedReport : Nat) (controls : List ServiceControl) : Host :=
  ((reportAll sink (reportsBetween controls)).runOn (started refusedReport)).2

/-- The last report is the fifth here; that it is refused keeps no instance from being stopped. -/
theorem stopsAll_iff_lastReport :
    (starting mountLauncher stores.boot sink).runOn (oneMark 4) = (.ok (), started 4) ∧
    stores.boot.list.runOn (reported 4 [.interrogate, .stop])
      = (.ok [markedInstance], (stores.boot.list.runOn (reported 4 [.interrogate, .stop])).2) ∧
    ((run mountLauncher stores.boot sink [.interrogate, .stop]).runOn (oneMark 4)).1.toOption
      = none ∧
    StopsAll mountLauncher stores.boot sink [.interrogate, .stop] (oneMark 4) := by
  have hstart := Act.runOn_of_toOption (a := starting mountLauncher stores.boot sink)
    (s := oneMark 4) (x := ()) (by decide +kernel)
  have hlist := Act.runOn_of_toOption (a := stores.boot.list)
    (s := reported 4 [.interrogate, .stop]) (x := [markedInstance]) (by decide +kernel)
  have hreports := Act.runOn_of_toOption (a := reportAll sink (reportsBetween [.interrogate, .stop]))
    (s := started 4) (x := ()) (by decide +kernel)
  refine ⟨hstart, hlist, by decide +kernel, ?_⟩
  exact (stopsAll_iff hstart hlist).2 (.inl (Prod.ext_iff.1 hreports).1)

/-- When the second report is refused, the instance is started and never stopped. -/
theorem not_stopsAll_secondReport :
    ¬ StopsAll mountLauncher stores.boot sink [.stop] (oneMark 1) := by
  intro hall
  have hstart := Act.runOn_of_toOption (a := starting mountLauncher stores.boot sink)
    (s := oneMark 1) (x := ()) (by decide +kernel)
  have hlist := Act.runOn_of_toOption (a := stores.boot.list)
    (s := reported 1 [.stop]) (x := [markedInstance]) (by decide +kernel)
  have hasked := hall _ _ _ hstart hlist markedInstance List.mem_cons_self
  have hsent : requests mountLauncher stores.boot sink [.stop] (oneMark 1)
      = [.start Launcher.ownClass "X:" "X:" "c"] := by decide +kernel
  rw [hsent] at hasked
  exact absurd hasked (by decide)

end Rehearsal.Host

end MountKeeper
