import MountKeeper.Proofs.BootService.Requests
import MountKeeper.Proofs.Instances.Boot
import MountKeeper.Proofs.Rehearsal.Stores
import MountKeeper.Proofs.Sessions.Delegation
import MountKeeper.Rehearsal.Service

/-! # What the boot service brings up

Whatever was recorded and marked before, the start phase of the service brings up the marked
sessions and drops the records of the others.

* `BootService.BootContract` is what the service promises about a host with some marks.
* `BootService.bootContract_history`: it holds behind any history of calls on stores that do not
  fail. -/

namespace MountKeeper

open Act (Ensures Keeps)
open InstanceStores (Answer Call Holding Listed marked)
open Arrangement (sessionAt)

namespace BootService

/-- The request that starts the session of a mark. -/
def startOf (mark : SessionKey × String) : Launcher.Request :=
  .start Launcher.ownClass mark.1.text mark.1.text mark.2

variable {σ : Type} {launcher : MountLauncher σ} {stores : InstanceStores σ} {sink : StatusSink σ}
  {At : (String → Option Values) → (String → Option Values) → σ → Prop}
  {F M : SessionKey → Option String} {is : List BootInstance}

/-! ## The start phase -/

/-- Bringing one instance up leaves the marks, and leaves the records unless it is not marked: then
its record is taken away. -/
theorem ensures_startOne (hstores : stores.Answer At)
    (hlauncher : ∀ I R name dir config, Keeps (At I R) (launcher.start name dir config))
    (I R : String → Option Values) (i : BootInstance) :
    Ensures (At I R) (startOne launcher stores.boot i)
      (fun _ => At (if i.remount then I else Function.update I i.session.key.text none) R)
      fun _ _ => False := by
  unfold startOne
  cases hmark : i.remount with
  | true =>
    refine Ensures.bind (Q := fun _ => At I R) ?_ fun _ => Ensures.pure fun s hs => hs
    exact Ensures.attempt (Q := fun _ => At I R) (hlauncher I R _ _ _)
  | false =>
    refine Ensures.bind (Q := fun _ => At (Function.update I i.session.key.text none) R) ?_
      fun _ => Ensures.pure fun s hs => hs
    refine Ensures.attempt (Ensures.never ?_)
    exact ((hstores.instances R).delete I _).bind fun _ => Ensures.pure fun s hs => hs

/-- **Bringing instances up** leaves the marks, and leaves no record of an instance that is not
marked. -/
theorem ensures_forM_startOne (hstores : stores.Answer At)
    (hlauncher : ∀ I R name dir config, Keeps (At I R) (launcher.start name dir config))
    (is : List BootInstance) (I R : String → Option Values) :
    Ensures (At I R) (is.forM (startOne launcher stores.boot))
      (fun _ s => ∃ I', (∀ key, (I' key).isSome → (I key).isSome
        ∧ ∀ i ∈ is, i.remount = false → i.session.key.text ≠ key) ∧ At I' R s)
      fun _ _ => False := by
  -- the other instances find what the first one has left, so that what is recorded is general
  induction is generalizing I with
  | nil =>
    refine Ensures.pure fun s hs => ⟨I, fun key hkey => ⟨hkey, ?_⟩, hs⟩
    exact fun i hi => absurd hi List.not_mem_nil
  | cons i rest ih =>
    refine (ensures_startOne hstores hlauncher I R i).bind fun _ => ?_
    refine (ih _).weaken ?_ fun _ _ hf => hf
    rintro - s ⟨I', hleft, hs⟩
    refine ⟨I', fun key hkey => ?_, hs⟩
    obtain ⟨hsome, hrest⟩ := hleft key hkey
    -- the first instance left the key alone
    have hfirst : (I key).isSome ∧ (i.remount = false → i.session.key.text ≠ key) := by
      cases hmark : i.remount with
      | true => exact ⟨by simpa [hmark] using hsome, nofun⟩
      | false =>
        rw [if_neg (by simp [hmark])] at hsome
        by_cases hk : key = i.session.key.text
        · rw [hk, Function.update_self] at hsome
          exact absurd hsome Bool.false_ne_true
        · rw [Function.update_of_ne hk] at hsome
          exact ⟨hsome, fun _ he => hk he.symm⟩
    refine ⟨hfirst.1, fun j hj => ?_⟩
    rcases List.mem_cons.1 hj with rfl | hj
    · exact hfirst.2
    · exact hrest j hj

/-- The order of the start requests for a list of the boot service. -/
def marksIn (is : List BootInstance) : List (SessionKey × String) :=
  (is.filter (·.remount)).map fun i => (i.session.key, i.session.configText)

/-- The start requests are those of the marks, in their order. -/
theorem startRequests_eq (is : List BootInstance) :
    startRequests is = (marksIn is).map startOf := by
  unfold startRequests marksIn
  rw [List.map_map]
  rfl

/-- The marks in a boot list are the entries of the map `M`. -/
theorem mem_marksIn (h : Listed F M is) {k : SessionKey} {config : String} :
    (k, config) ∈ marksIn is ↔ M k = some config := by
  unfold marksIn
  rw [List.mem_map]
  constructor
  · rintro ⟨⟨x, remount⟩, hi, he⟩
    obtain ⟨hi, rfl⟩ := List.mem_filter.1 hi
    obtain ⟨k', config', hk', rfl⟩ := (h.mem_marked x).1 hi
    obtain ⟨rfl, rfl⟩ := Prod.mk.inj he
    exact hk'
  · intro hk
    refine ⟨⟨sessionAt k config, true⟩, List.mem_filter.2 ⟨?_, rfl⟩, rfl⟩
    exact (h.mem_marked _).2 ⟨k, config, hk, rfl⟩

/-! ## The contract -/

/-- **The boot contract** for a host on which the keys of `M` are marked with their configuration
files. -/
structure BootContract (launcher : MountLauncher σ) (stores : InstanceStores σ) (sink : StatusSink σ)
    (At : (String → Option Values) → (String → Option Values) → σ → Prop)
    (M : SessionKey → Option String) (controls : List ServiceControl) (s : σ) : Prop where
  /-- The start phase is completed, whatever the launcher refuses. -/
  completed : ((starting launcher stores.boot sink).runOn s).1 = .ok ()
  /-- There is one start request for each marked key, with the configuration file of its mark, by
  key, and no other start request in the life of the service. -/
  requested : ∃ order : List (SessionKey × String),
    (order.Pairwise fun a b => a.1.text < b.1.text) ∧
    (∀ k config, (k, config) ∈ order ↔ M k = some config) ∧
    asking .start (requests launcher stores.boot sink controls s) = order.map startOf
  /-- Behind the start phase the marks are as they were, and no record is left of a key without a
  mark. -/
  left : ∃ I I' R, At I R s ∧ At I' R ((starting launcher stores.boot sink).runOn s).2 ∧
    ∀ key, (I' key).isSome → ∃ k : SessionKey, k.text = key ∧ (M k).isSome

/-- The contract holds when the stores have nothing but records and marks in them. -/
theorem bootContract_of_has (hstores : stores.Answer At)
    (hlauncher : ∀ I R name dir config, Keeps (At I R) (launcher.start name dir config))
    (hsink : ∀ I R state acceptStop, Ensures (At I R) (sink.report state acceptStop)
      (fun _ => At I R) fun _ _ => False)
    {s : σ} (hs : Answer.Has At F M s) (controls : List ServiceControl) :
    BootContract launcher stores sink At M controls s := by
  obtain ⟨I, R, hI, hR, hs⟩ := hs
  -- the start phase, step by step: the report, the list, the instances
  obtain ⟨_, s', hreport, hs'⟩ := (hsink I R .startPending false).exists_ok hs
  obtain ⟨is, s'', hlist, hlisted, hs''⟩ := (hstores.list hI hR).exists_ok hs'
  obtain ⟨_, s₁, hup, I', hleft, hs₁⟩ :=
    (ensures_forM_startOne hstores hlauncher is I R).exists_ok hs''
  have hstart : (starting launcher stores.boot sink).runOn s = (.ok (), s₁) := by
    unfold starting
    rw [startAll_eq, Act.runOn_bind, hreport]
    dsimp only
    rw [Act.runOn_bind, hlist]
    exact hup
  refine ⟨by rw [hstart], ⟨marksIn is, ?_, fun k config => mem_marksIn hlisted, ?_⟩, ?_⟩
  · exact (hlisted.ascending.filter _).map _ fun _ _ hlt => hlt
  · rw [asking_start_requests hstart, ← startRequests_eq]
    unfold requestsToStart
    rw [Act.afterwards_of_ok hreport, Act.afterwards_of_ok hlist]
  · rw [hstart]
    refine ⟨I, I', R, hs, hs₁, fun key hkey => ?_⟩
    obtain ⟨hsome, hplain⟩ := hleft key hkey
    obtain ⟨k, rfl, hk⟩ := hI.only key hsome
    refine ⟨k, rfl, ?_⟩
    -- a record without a mark was listed, and would have been taken away
    by_contra hunmarked
    obtain ⟨config, hconfig⟩ := Option.isSome_iff_exists.1 hk
    have hmem : ⟨sessionAt k config, false⟩ ∈ is :=
      (hlisted.mem_plain _).2 ⟨⟨k, config, hconfig, rfl⟩, Option.not_isSome_iff_eq_none.1 hunmarked⟩
    exact hplain _ hmem rfl rfl

/-- **The boot contract** holds behind any history of calls on stores that do not fail and were
empty before, for the keys that were marked and not cleared since. -/
theorem bootContract_history (hstores : stores.Answer At)
    (hlauncher : ∀ I R name dir config, Keeps (At I R) (launcher.start name dir config))
    (hsink : ∀ I R state acceptStop, Ensures (At I R) (sink.report state acceptStop)
      (fun _ => At I R) fun _ _ => False)
    {s : σ} (hempty : At (fun _ => none) (fun _ => none) s) (calls : List Call)
    (controls : List ServiceControl) :
    BootContract launcher stores sink At (marked calls) controls
      (Act.runAll (calls.map (·.act stores)) s) :=
  bootContract_of_has hstores hlauncher hsink (hstores.history calls hempty) controls

end BootService

/-! ## A host -/

namespace Rehearsal.Host

open BootService

/-- The shelves of the host are sound and have `I` and `R` in them, and no report is refused. -/
def Shelved (I R : String → Option Values) (h : Host) : Prop :=
  Shelf.Has I h.instances ∧ Shelf.Has R h.remounts ∧ h.refusedReport = none

/-- The shelves of a rehearsal answer. -/
theorem answer_stores : stores.Answer Shelved where
  instances R := answers_storeOn Shelf.answers instancesPart
    (fun h => Shelf.Has R h.remounts ∧ h.refusedReport = none) (fun _ _ => rfl) fun _ _ hs => hs
  remounts I := by
    have hswap : (fun R h => Shelf.Has R h.remounts ∧ Shelf.Has I h.instances ∧ h.refusedReport = none)
        = Shelved I := by
      funext R h
      exact propext and_left_comm
    rw [← hswap]
    exact answers_storeOn Shelf.answers remountsPart
      (fun h => Shelf.Has I h.instances ∧ h.refusedReport = none) (fun _ _ => rfl) fun _ _ hs => hs

/-- A request changes the `launcher` of the host and its journal, and keeps every `P` that does not
depend on these. -/
theorem keeps_request {P : Host → Prop}
    (hP : ∀ h launcher events, P h → P { h with launcher := launcher, events := events })
    (r : Launcher.Request) : Keeps P (MountLauncher.request exchange r) := by
  have hexchange (message : List UInt8) : Keeps P (exchange message) := by
    intro h hs
    rw [runOn_exchange]
    by_cases hdown : h.launcher.down = true
    · rw [if_pos hdown]
      exact hs
    · rw [if_neg hdown]
      cases Launcher.Request.decode message with
      | error e => exact hs
      | ok r => exact hP h _ _ hs
  refine Ensures.bind (hexchange _) fun answer => ?_
  split
  · exact Ensures.pure fun _ hs => hs
  · exact Ensures.refuse fun _ hs => hs

/-- The launcher does not touch the shelves: a start keeps `Shelved I R`. -/
theorem keeps_start (I R : String → Option Values) (name dir config : String) :
    Keeps (Shelved I R) (mountLauncher.start name dir config) :=
  keeps_request (fun _ _ _ hs => hs) _

/-- A report is received when none is to be refused. -/
theorem ensures_report (I R : String → Option Values) (state : ServiceState) (acceptStop : Bool) :
    Ensures (Shelved I R) (sink.report state acceptStop) (fun _ => Shelved I R)
      fun _ _ => False := by
  refine Ensures.bind (Q := fun _ => Shelved I R) (Ensures.change fun _ hs => hs) fun _ => ?_
  refine Ensures.bind (Q := fun h => fun h' => h.refusedReport = none ∧ Shelved I R h')
    (Ensures.look fun h hs => ⟨hs.2.2, hs⟩) fun h => Ensures.of_fact fun hnone => ?_
  refine Ensures.bind (Q := fun _ => Shelved I R) (Ensures.change fun _ hs => hs) fun _ => ?_
  rw [if_neg (by simp [hnone])]
  exact Ensures.pure fun _ hs => hs

/-- A host whose launcher starts nothing at `X:`. -/
def bareHost : Host where
  surroundings := ⟨"/home/u", "/"⟩
  launcher := { failStart := ["X:"] }

/-- A history: `Y:` is marked, `X:` is marked twice and loses its record, `Z:` is recorded only, and
the mark of `W:` is cleared. -/
def callsOnDrives : List Call :=
  [.mark (.make "Y:" "y" none), .register (sessionAt (.ofPath "X:") "x"),
    .mark (.make "X:" "old" none), .mark (.make "X:" "new" none), .unregister (.ofPath "X:"),
    .register (sessionAt (.ofPath "Z:") "z"), .mark (.make "W:" "w" none), .clear (.ofPath "W:")]

/-- The host behind the history. -/
def afterDrives : Host :=
  Act.runAll (callsOnDrives.map (·.act stores)) bareHost

/-- The service brings `X:` and `Y:` up on that host, or tries to. -/
theorem bootContract_drives :
    stores.Answer Shelved ∧
    (∀ I R name dir config, Keeps (Shelved I R) (mountLauncher.start name dir config)) ∧
    (∀ I R state acceptStop, Ensures (Shelved I R) (sink.report state acceptStop)
      (fun _ => Shelved I R) fun _ _ => False) ∧
    Shelved (fun _ => none) (fun _ => none) bareHost ∧
    marked callsOnDrives (.ofPath "X:") = some "new" ∧
    marked callsOnDrives (.ofPath "W:") = none ∧
    BootContract mountLauncher stores sink Shelved (marked callsOnDrives) [.interrogate, .stop]
      afterDrives := by
  have hempty : Shelved (fun _ => none) (fun _ => none) bareHost :=
    ⟨⟨⟨rfl, rfl, rfl, .nil⟩, rfl⟩, ⟨⟨rfl, rfl, rfl, .nil⟩, rfl⟩, rfl⟩
  refine ⟨answer_stores, keeps_start, ensures_report, hempty, by decide +kernel, by decide +kernel, ?_⟩
  exact bootContract_history answer_stores keeps_start ensures_report hempty callsOnDrives _

end Rehearsal.Host

end MountKeeper
