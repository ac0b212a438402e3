import MountKeeper.LauncherSupervisor
import MountKeeper.Proofs.BootService.Starting
import MountKeeper.Proofs.Instances.Representation
import MountKeeper.Proofs.Sessions.Delegation
import MountKeeper.Rehearsal.DataPath

/-! # Handing a session over to the launcher

A session is handed over in three steps, each of which may fail: this program is described to the
launcher, the session is recorded, and the launcher is asked to start it. When the last step fails,
the second is taken back.

* `SessionRegistry.Maps`: a registry is a map from keys to records.
* `LauncherSupervisor.Handover` are the ways in which a session is handed over, and
  `LauncherSupervisor.handover` says that there is no other.
* `LauncherSupervisor.Separate.allOrNothing`: what becomes of the records. -/

namespace MountKeeper

open Act (Ensures Keeps Shadows afterwards)
open Arrangement (sessionAt)
open Launcher (ownClass)

variable {σ ε α : Type}

/-! ## Registries as maps -/

/-- The registry is a map from keys to records, and what fails leaves it as it was. `At M` says of a
host that the registry has `M` in it, and `kept` is what it keeps of a session. -/
structure SessionRegistry.Maps (r : SessionRegistry σ) (kept : Session → Session)
    (At : (SessionKey → Option Session) → σ → Prop) : Prop where
  lookup : ∀ M k, Ensures (At M) (r.lookup k) (fun found h => found = M k ∧ At M h) fun _ => At M
  register : ∀ M session, Ensures (At M) (r.register session)
    (fun _ => At (Function.update M session.key (some (kept session)))) fun _ => At M
  unregister : ∀ M k, Ensures (At M) (r.unregister k)
    (fun _ => At (Function.update M k none)) fun _ => At M
  /-- Of a session that is served under its key, the owner and the configuration file are kept. -/
  service : ∀ session, session.owner = .service session.key.text →
    (kept session).owner = session.owner
      ∧ (kept session).configPath.getD "" = session.configPath.getD ""

/-! ## Requests -/

/-- A data path on a traced host. -/
def DataPath.unseen (path : DataPath σ) : DataPath (Traced σ ε) where
  start := path.start.unseen
  isRunning := path.isRunning.unseen
  stop := path.stop.unseen

namespace LauncherSupervisor

/-- What it takes to have sessions served by the launcher, with a trace of the requests. -/
def traced (s : LauncherSupervisor σ) : LauncherSupervisor (Traced σ Launcher.Request) where
  registry := s.registry.on Traced.hostPart
  launcher := s.launcher.traced
  describe := s.describe.unseen
  factory := ⟨fun options => do return (← (s.factory.build options).unseen).unseen⟩
  pollLimit t := s.pollLimit t.host

variable (s : LauncherSupervisor σ) (session : Session)

/-- **The requests** that the launcher is sent when a session is started. -/
def requests (options : MountOptions) (h : σ) : List Launcher.Request :=
  ((s.traced.start session options).runOn ⟨h, []⟩).2.trace

/-- A session as the launcher serves it. -/
def handed : Session :=
  { session with owner := .service session.key.text }

/-- The request to start a session. -/
def startRequest : Launcher.Request :=
  .start ownClass session.key.text session.key.text session.configText

/-- What `delegate session` has the launcher asked for: `startRequest session` behind a description
and a record that worked, and nothing before. -/
theorem shadows_delegate : Shadows (s.traced.delegate session) (s.delegate session)
    (afterwards (Act.inContext "failed to register the launcher service" s.describe) fun _ =>
      afterwards (s.registry.register (handed session)) fun _ _ => [startRequest session]) := by
  unfold delegate
  refine (Shadows.inContext _ (.unseen s.describe)).quiet_bind fun _ => ?_
  refine (Shadows.unseen (s.registry.register (handed session))).quiet_bind fun _ => ?_
  refine (Shadows.seen (startRequest session)
    (s.launcher.start session.key.text session.key.text session.configText)).attempt.bind_quiet
    fun r => ?_
  cases r with
  | ok _ => exact .pure _
  | error f =>
    exact (Shadows.unseen (s.registry.unregister session.key)).attempt.bind_quiet fun _ => .fail f

/-! ## The ways of a handover -/

/-- **The ways in which a session is handed over** from a host: how that ends, the host behind it, and
the requests to the launcher. -/
inductive Handover (h : σ) : Except Failure Started → σ → List Launcher.Request → Prop
  /-- This program cannot be described to the launcher. -/
  | undescribed {f : Failure} {h₁ : σ} (hdescribe : s.describe.runOn h = (.error f, h₁)) :
      Handover h (.error (f.within "failed to register the launcher service")) h₁ []
  /-- The session cannot be recorded. -/
  | unrecorded {f : Failure} {h₁ h₂ : σ} (hdescribe : s.describe.runOn h = (.ok (), h₁))
      (hregister : (s.registry.register (handed session)).runOn h₁ = (.error f, h₂)) :
      Handover h (.error f) h₂ []
  /-- The launcher does not start it, and the record is to be taken back. -/
  | refused {f : Failure} {h₁ h₂ h₃ : σ} (hdescribe : s.describe.runOn h = (.ok (), h₁))
      (hregister : (s.registry.register (handed session)).runOn h₁ = (.ok (), h₂))
      (hstart : (s.launcher.start session.key.text session.key.text session.configText).runOn h₂
        = (.error f, h₃)) :
      Handover h (.error f) ((s.registry.unregister session.key).runOn h₃).2 [startRequest session]
  /-- The launcher serves it. -/
  | delegated {h₁ h₂ h₃ : σ} (hdescribe : s.describe.runOn h = (.ok (), h₁))
      (hregister : (s.registry.register (handed session)).runOn h₁ = (.ok (), h₂))
      (hstart : (s.launcher.start session.key.text session.key.text session.configText).runOn h₂
        = (.ok (), h₃)) :
      Handover h (.ok .delegated) h₃ [startRequest session]

/-- A start with `foreground := false` is `s.delegate session`. -/
theorem start_of_background {options : MountOptions} (hforeground : options.foreground = false) :
    s.start session options = s.delegate session := by
  unfold start
  rw [hforeground]
  rfl

/-- The last step of a handover, which takes the record back when it fails. -/
def launch : Act σ Started := do
  match ← Act.attempt (s.launcher.start session.key.text session.key.text session.configText) with
  | .ok () => return .delegated
  | .error f =>
    let _ ← Act.attempt (s.registry.unregister session.key)
    Act.fail f

/-- `delegate` in its three steps: the launcher is described, the session is registered, and the
start is asked for. -/
theorem delegate_eq : s.delegate session
    = Act.inContext "failed to register the launcher service" s.describe >>= fun _ =>
      s.registry.register (handed session) >>= fun _ => s.launch session := rfl

variable {s session}

/-- A start that the launcher takes is a delegated session. -/
theorem runOn_launch_of_ok {h h' : σ}
    (hstart : (s.launcher.start session.key.text session.key.text session.configText).runOn h
      = (.ok (), h')) : (s.launch session).runOn h = (.ok .delegated, h') := by
  unfold launch
  rw [Act.runOn_bind, Act.runOn_attempt, hstart]
  rfl

/-- A start that the launcher refuses is the result, and the record is unregistered on the host that
is left. -/
theorem runOn_launch_of_error {h h' : σ} {f : Failure}
    (hstart : (s.launcher.start session.key.text session.key.text session.configText).runOn h
      = (.error f, h')) :
    (s.launch session).runOn h = (.error f, ((s.registry.unregister session.key).runOn h').2) := by
  unfold launch
  rw [Act.runOn_bind, Act.runOn_attempt, hstart]
  dsimp only
  rw [Act.runOn_bind, Act.runOn_attempt]
  rfl

/-- There is no other way to hand a session over: each run of `start` is one of the cases of
`Handover`, with its requests. -/
theorem handover {options : MountOptions} (hforeground : options.foreground = false) (h : σ) :
    Handover s session h ((s.start session options).runOn h).1
      ((s.start session options).runOn h).2 (s.requests session options h) := by
  unfold requests
  rw [start_of_background s session hforeground, start_of_background s.traced session hforeground,
    shadows_delegate s session ⟨h, []⟩, delegate_eq, Act.runOn_bind]
  dsimp only
  rw [List.nil_append]
  -- each step either ends the handover or leads to the next one
  have hcontext := Act.runOn_inContext "failed to register the launcher service" s.describe h
  rcases hdescribe : s.describe.runOn h with ⟨r, h₁⟩
  rw [hdescribe] at hcontext
  cases r with
  | error f =>
    rw [hcontext, Act.afterwards_of_error hcontext]
    exact .undescribed hdescribe
  | ok _ =>
    rw [hcontext, Act.afterwards_of_ok hcontext]
    dsimp only
    rw [Act.runOn_bind]
    rcases hregister : (s.registry.register (handed session)).runOn h₁ with ⟨r, h₂⟩
    cases r with
    | error f =>
      rw [Act.afterwards_of_error hregister]
      exact .unrecorded hdescribe hregister
    | ok _ =>
      rw [Act.afterwards_of_ok hregister]
      dsimp only
      rcases hstart : (s.launcher.start session.key.text session.key.text session.configText).runOn h₂
        with ⟨r, h₃⟩
      cases r with
      | error f =>
        rw [runOn_launch_of_error hstart]
        exact .refused hdescribe hregister hstart
      | ok _ =>
        rw [runOn_launch_of_ok hstart]
        exact .delegated hdescribe hregister hstart

/-- A handover goes one way only: `Handover` determines the result, the host behind it and the
requests. -/
theorem Handover.unique {h h' h'' : σ} {r r' : Except Failure Started} {q q' : List Launcher.Request}
    (hway : s.Handover session h r h' q) (hway' : s.Handover session h r' h'' q') :
    r = r' ∧ h' = h'' ∧ q = q' := by
  -- the first step that ends differently would tell two ways apart
  cases hway <;> cases hway' <;> simp_all

/-! ## What becomes of the records -/

/-- The registry is a map, and nothing else of the supervisor touches it: neither the description of
this program nor the launcher, whatever they do and however they end. -/
structure Separate (s : LauncherSupervisor σ) (kept : Session → Session)
    (At : (SessionKey → Option Session) → σ → Prop) : Prop where
  registry : s.registry.Maps kept At
  describe : ∀ M, Keeps (At M) s.describe
  start : ∀ M name dir config, Keeps (At M) (s.launcher.start name dir config)
  stop : ∀ M name dir, Keeps (At M) (s.launcher.stop name dir)

section Records

variable {kept : Session → Session} {At : (SessionKey → Option Session) → σ → Prop}
  {M : SessionKey → Option Session} {h h' : σ} {r : Except Failure Started}
  {q : List Launcher.Request}

/-- Behind `describe` and `register` that worked, the records are `M` with `kept (handed session)`
at the key. -/
theorem Separate.recorded (hs : s.Separate kept At) (hM : At M h) {h₁ h₂ : σ}
    (hdescribe : s.describe.runOn h = (.ok (), h₁))
    (hregister : (s.registry.register (handed session)).runOn h₁ = (.ok (), h₂)) :
    At (Function.update M session.key (some (kept (handed session)))) h₂ :=
  (hs.registry.register M (handed session)).of_ok ((hs.describe M).behind hM hdescribe) hregister

/-- **Success**: a handover that succeeds had all of its steps succeed, asked once, and leaves the
record of the session. -/
theorem Handover.bound (hs : s.Separate kept At) (hM : At M h) {x : Started}
    (hway : s.Handover session h (.ok x) h' q) :
    x = .delegated ∧ q = [startRequest session]
      ∧ At (Function.update M session.key (some (kept (handed session)))) h'
      ∧ ∃ h₁ h₂, s.describe.runOn h = (.ok (), h₁)
        ∧ (s.registry.register (handed session)).runOn h₁ = (.ok (), h₂)
        ∧ (s.launcher.start session.key.text session.key.text session.configText).runOn h₂
          = (.ok (), h') := by
  cases hway with
  | delegated hdescribe hregister hstart =>
    have hrecorded := hs.recorded hM hdescribe hregister
    exact ⟨rfl, rfl, (hs.start _ _ _ _).behind hrecorded hstart, _, _, hdescribe, hregister, hstart⟩

/-- **Without the description** nothing is recorded and nothing is asked for. -/
theorem Handover.of_undescribed (hs : s.Separate kept At) (hM : At M h)
    (hway : s.Handover session h r h' q) {f : Failure} {h₁ : σ}
    (hdescribe : s.describe.runOn h = (.error f, h₁)) :
    r = .error (f.within "failed to register the launcher service") ∧ h' = h₁ ∧ At M h'
      ∧ q = [] := by
  obtain ⟨rfl, rfl, rfl⟩ := hway.unique (.undescribed hdescribe)
  exact ⟨rfl, rfl, (hs.describe M).behind hM hdescribe, rfl⟩

/-- **When the record cannot be kept**, `At M` still holds and nothing is asked for. -/
theorem Handover.of_unrecorded (hs : s.Separate kept At) (hM : At M h)
    (hway : s.Handover session h r h' q) {f : Failure} {h₁ h₂ : σ}
    (hdescribe : s.describe.runOn h = (.ok (), h₁))
    (hregister : (s.registry.register (handed session)).runOn h₁ = (.error f, h₂)) :
    r = .error f ∧ h' = h₂ ∧ At M h' ∧ q = [] := by
  obtain ⟨rfl, rfl, rfl⟩ := hway.unique (.unrecorded hdescribe hregister)
  have hdescribed := (hs.describe M).behind hM hdescribe
  exact ⟨rfl, rfl, (hs.registry.register M (handed session)).of_error hdescribed hregister, rfl⟩

/-- **When the launcher does not start the session**, its record is taken back, if that works:
`Function.update M session.key none`. -/
theorem Handover.of_refused (hs : s.Separate kept At) (hM : At M h)
    (hway : s.Handover session h r h' q) {f : Failure} {h₁ h₂ h₃ : σ}
    (hdescribe : s.describe.runOn h = (.ok (), h₁))
    (hregister : (s.registry.register (handed session)).runOn h₁ = (.ok (), h₂))
    (hstart : (s.launcher.start session.key.text session.key.text session.configText).runOn h₂
      = (.error f, h₃)) :
    r = .error f ∧ q = [startRequest session] ∧
      (((s.registry.unregister session.key).runOn h₃).1 = .ok () →
        At (Function.update M session.key none) h') := by
  obtain ⟨rfl, rfl, rfl⟩ := hway.unique (.refused hdescribe hregister hstart)
  refine ⟨rfl, rfl, fun hunregister => ?_⟩
  have hrecorded := hs.recorded hM hdescribe hregister
  have hrefused := (hs.start _ _ _ _).behind hrecorded hstart
  have hback := (hs.registry.unregister _ session.key).of_ok hrefused (Prod.ext hunregister rfl)
  rwa [Function.update_idem] at hback

/-- However a handover ends, the records are `M` but for the key of the session. -/
theorem Handover.others (hs : s.Separate kept At) (hM : At M h)
    (hway : s.Handover session h r h' q) :
    ∃ record, At (Function.update M session.key record) h' := by
  cases hway with
  | undescribed hdescribe =>
    refine ⟨M session.key, ?_⟩
    rw [Function.update_eq_self]
    exact (hs.describe M).behind hM hdescribe
  | unrecorded hdescribe hregister =>
    refine ⟨M session.key, ?_⟩
    rw [Function.update_eq_self]
    have hdescribed := (hs.describe M).behind hM hdescribe
    exact (hs.registry.register M (handed session)).of_error hdescribed hregister
  | @refused f h₁ h₂ h₃ hdescribe hregister hstart =>
    -- the record was made, and then taken back or not
    have hrecorded := hs.recorded hM hdescribe hregister
    have hrefused := (hs.start _ _ _ _).behind hrecorded hstart
    have hback := hs.registry.unregister _ session.key h₃ hrefused
    rcases hunregister : (s.registry.unregister session.key).runOn h₃ with ⟨r, h₄⟩
    rw [hunregister] at hback
    cases r with
    | ok _ =>
      -- an update and then another one at the key is the second
      refine ⟨none, ?_⟩
      rwa [← Function.update_idem]
    | error f => exact ⟨_, hback⟩
  | delegated hdescribe hregister hstart =>
    have hrecorded := hs.recorded hM hdescribe hregister
    exact ⟨_, (hs.start _ _ _ _).behind hrecorded hstart⟩

/-! ## Stops -/

/-- `stop session` is answered if and only if the launcher accepted it and then the record was
removed. -/
theorem runOn_stop_iff : (s.stop session).runOn h = (.ok (), h')
    ↔ ∃ h₁, (s.launcher.stop session.key.text session.key.text).runOn h = (.ok (), h₁)
      ∧ (s.registry.unregister session.key).runOn h₁ = (.ok (), h') := by
  unfold stop
  rw [Act.runOn_bind]
  rcases (s.launcher.stop session.key.text session.key.text).runOn h with ⟨r, h₁⟩
  cases r with
  | ok _ => simp
  | error f => simp

/-- `stop session` removes the record, or leaves all records at `M`. -/
theorem Separate.ensures_stop (hs : s.Separate kept At) (M : SessionKey → Option Session)
    (session : Session) : Ensures (At M) (s.stop session)
      (fun _ => At (Function.update M session.key none)) fun _ => At M :=
  Ensures.bind (hs.stop M session.key.text session.key.text)
    fun _ => hs.registry.unregister M session.key

/-! ## All or nothing -/

/-- **All or nothing**: what becomes of the records when a session is started in the background on a
host with the records `M`, and when a session is stopped there. -/
structure AllOrNothing (s : LauncherSupervisor σ) (At : (SessionKey → Option Session) → σ → Prop)
    (options : MountOptions) (session : Session) (M : SessionKey → Option Session) (h : σ) :
    Prop where
  /-- The start is answered exactly when this program is described, the session is recorded and the
  launcher starts it. The launcher serves it then. -/
  started_iff : ∀ x, ((s.start session options).runOn h).1 = .ok x ↔ x = .delegated ∧
    ∃ h₁ h₂ h₃, s.describe.runOn h = (.ok (), h₁)
      ∧ (s.registry.register (handed session)).runOn h₁ = (.ok (), h₂)
      ∧ (s.launcher.start session.key.text session.key.text
        (session.configPath.getD "")).runOn h₂ = (.ok (), h₃)
  /-- A start that is answered adds the record of the session, and has asked the launcher once. -/
  started : ((s.start session options).runOn h).1 = .ok .delegated →
    (∃ record, record.owner = .service session.key.text
      ∧ record.configPath.getD "" = session.configPath.getD ""
      ∧ At (Function.update M session.key (some record)) ((s.start session options).runOn h).2) ∧
    s.requests session options h
      = [.start ownClass session.key.text session.key.text (session.configPath.getD "")]
  /-- When this program cannot be described, that is the failure and nothing more is done: nothing is
  recorded, and the launcher is not asked. -/
  undescribed : ∀ f h₁, s.describe.runOn h = (.error f, h₁) →
    ((s.start session options).runOn h).1
      = .error (f.within "failed to register the launcher service") ∧
    ((s.start session options).runOn h).2 = h₁ ∧
    At M ((s.start session options).runOn h).2 ∧ s.requests session options h = []
  /-- So it is when the session cannot be recorded. -/
  unrecorded : ∀ h₁ f h₂, s.describe.runOn h = (.ok (), h₁) →
    (s.registry.register (handed session)).runOn h₁ = (.error f, h₂) →
    ((s.start session options).runOn h).1 = .error f ∧
    ((s.start session options).runOn h).2 = h₂ ∧
    At M ((s.start session options).runOn h).2 ∧ s.requests session options h = []
  /-- When the launcher, asked once, does not start it, that is the failure. No record is left if it
  can be removed. -/
  refused : ∀ h₁ h₂ f h₃, s.describe.runOn h = (.ok (), h₁) →
    (s.registry.register (handed session)).runOn h₁ = (.ok (), h₂) →
    (s.launcher.start session.key.text session.key.text (session.configPath.getD "")).runOn h₂
      = (.error f, h₃) →
    ((s.start session options).runOn h).1 = .error f ∧
    s.requests session options h
      = [.start ownClass session.key.text session.key.text (session.configPath.getD "")] ∧
    (((s.registry.unregister session.key).runOn h₃).1 = .ok () →
      At (Function.update M session.key none) ((s.start session options).runOn h).2)
  /-- However the start ends, the records of the other keys are as they were. -/
  others : ∃ record, At (Function.update M session.key record)
    ((s.start session options).runOn h).2
  /-- A stop is answered exactly when the launcher accepted it and the record was removed then. -/
  stopped_iff : ∀ h', (s.stop session).runOn h = (.ok (), h') ↔
    ∃ h₁, (s.launcher.stop session.key.text session.key.text).runOn h = (.ok (), h₁)
      ∧ (s.registry.unregister session.key).runOn h₁ = (.ok (), h')
  /-- A stop that is answered has removed the record and no other. -/
  stopped : ((s.stop session).runOn h).1 = .ok () →
    At (Function.update M session.key none) ((s.stop session).runOn h).2
  /-- A stop that the launcher refuses leaves the records as they were. -/
  unstopped : ∀ f h₁,
    (s.launcher.stop session.key.text session.key.text).runOn h = (.error f, h₁) →
    ((s.stop session).runOn h).1 = .error f ∧ At M ((s.stop session).runOn h).2
  /-- A stop of what was started where there was no record restores the records. -/
  restored : M session.key = none → ∀ stopped, stopped.key = session.key →
    ((s.stop stopped).runOn ((s.start session options).runOn h).2).1 = .ok () →
    At M ((s.stop stopped).runOn ((s.start session options).runOn h).2).2

/-- A start is answered exactly when `describe`, `register` and the launcher's `start` all succeed,
and then by `.delegated`. -/
theorem Separate.start_eq_ok_iff (hs : s.Separate kept At) (hM : At M h) {options : MountOptions}
    (hforeground : options.foreground = false) (x : Started) :
    ((s.start session options).runOn h).1 = .ok x ↔ x = .delegated ∧
      ∃ h₁ h₂ h₃, s.describe.runOn h = (.ok (), h₁)
        ∧ (s.registry.register (handed session)).runOn h₁ = (.ok (), h₂)
        ∧ (s.launcher.start session.key.text session.key.text session.configText).runOn h₂
          = (.ok (), h₃) := by
  have hway : s.Handover session h _ _ _ := handover hforeground h
  constructor
  · intro hok
    rw [hok] at hway
    obtain ⟨hx, -, -, h₁, h₂, hdescribe, hregister, hstart⟩ := hway.bound hs hM
    exact ⟨hx, h₁, h₂, _, hdescribe, hregister, hstart⟩
  · rintro ⟨rfl, h₁, h₂, h₃, hdescribe, hregister, hstart⟩
    exact (hway.unique (.delegated hdescribe hregister hstart)).1

/-- A stop that the launcher refuses fails as the launcher did, on the host that the launcher left:
the record is not touched. -/
theorem runOn_stop_of_refused {f : Failure} {h₁ : σ}
    (hstop : (s.launcher.stop session.key.text session.key.text).runOn h = (.error f, h₁)) :
    (s.stop session).runOn h = (.error f, h₁) := by
  unfold stop
  rw [Act.runOn_bind, hstop]

/-- **A start in the background is all or nothing**, and a stop takes it back. -/
theorem Separate.allOrNothing (hs : s.Separate kept At) {options : MountOptions}
    (hforeground : options.foreground = false) (session : Session)
    {M : SessionKey → Option Session} {h : σ} (hM : At M h) :
    s.AllOrNothing At options session M h := by
  -- every field is read off the way that the handover goes
  have hway : s.Handover session h _ _ _ := handover hforeground h
  exact {
    started_iff := hs.start_eq_ok_iff hM hforeground
    started := by
      intro hok
      rw [hok] at hway
      obtain ⟨-, hrequests, hbound, -⟩ := hway.bound hs hM
      obtain ⟨howner, hconfig⟩ := hs.registry.service (handed session) rfl
      exact ⟨⟨_, howner, hconfig, hbound⟩, hrequests⟩
    undescribed := fun _ _ => hway.of_undescribed hs hM
    unrecorded := fun _ _ _ => hway.of_unrecorded hs hM
    refused := fun _ _ _ _ => hway.of_refused hs hM
    others := hway.others hs hM
    stopped_iff := fun _ => runOn_stop_iff
    stopped := fun hok => (hs.ensures_stop M session).of_ok hM (Prod.ext hok rfl)
    unstopped := by
      intro f h₁ hstop
      rw [runOn_stop_of_refused hstop]
      exact ⟨rfl, (hs.stop M _ _).behind hM hstop⟩
    restored := by
      intro hnone stopped hkey hok
      -- only the record of the key has changed, and a stop removes that
      obtain ⟨record, hothers⟩ := hway.others hs hM
      have hstopped := (hs.ensures_stop _ stopped).of_ok hothers (Prod.ext hok rfl)
      rw [hkey, Function.update_idem, ← hnone, Function.update_eq_self] at hstopped
      exact hstopped }

end Records

end LauncherSupervisor

/-! ## The instance stores as a map -/

namespace InstanceStores

variable {stores : InstanceStores σ}
  {At : (String → Option Values) → (String → Option Values) → σ → Prop}
  {M : SessionKey → Option Session}

/-- The first store has the records of `M` in it. -/
def Recorded (At : (String → Option Values) → (String → Option Values) → σ → Prop)
    (M : SessionKey → Option Session) (s : σ) : Prop :=
  ∃ F N, M = (fun k => (F k).map (sessionAt k)) ∧ Answer.Has At F N s

/-- To update the texts by key is to update the sessions by key: `sessionAt` is applied key by key.
-/
theorem map_sessionAt_update (F : SessionKey → Option String) (key : SessionKey)
    (config? : Option String) :
    (fun k => (Function.update F key config? k).map (sessionAt k))
      = Function.update (fun k => (F k).map (sessionAt k)) key (config?.map (sessionAt key)) := by
  funext k
  by_cases hk : k = key
  · rw [hk, Function.update_self, Function.update_self]
  · rw [Function.update_of_ne hk, Function.update_of_ne hk]

/-- **The registry over a store that refuses requests as a whole** is a map: `Maps` asks that a
`register` that fails has changed nothing, and `KeyStore.Atomic` has it of a `write` that fails. A
store that sets the values of a record one after the other is not of this kind when it fails between
two of them. -/
theorem maps_of_atomic (h : ∀ R, stores.instances.Atomic fun I => At I R) :
    stores.registry.Maps (fun session => sessionAt session.key (session.configPath.getD ""))
      (Recorded At) where
  lookup M k := by
    rintro s ⟨F, N, rfl, I, R, hI, hR, hs⟩
    have hread := ensures_readFrom_text hI ((h R).read I k.text)
    refine (hread.weaken (fun found s hs => ?_) fun f s hs => ?_) s hs
    · exact ⟨hs.1, F, N, rfl, I, R, hI, hR, hs.2⟩
    · exact ⟨F, N, rfl, I, R, hI, hR, hs⟩
  register M session := by
    rintro s ⟨F, N, rfl, I, R, hI, hR, hs⟩
    have hmap := map_sessionAt_update F session.key (some (session.configPath.getD ""))
    -- a write that is refused is no failure half way, as the store is atomic
    have hwrite := (h R).write I session.key.text
      (recordValues session.key.text (session.configPath.getD ""))
    refine (hwrite.weaken (fun _ s hs => ?_) fun f s hs => ?_) s hs
    · exact ⟨_, N, hmap.symm, _, R, hI.write session.key _, hR, hs⟩
    · exact ⟨F, N, rfl, I, R, hI, hR, hs⟩
  unregister M k := by
    rintro s ⟨F, N, rfl, I, R, hI, hR, hs⟩
    have hmap := map_sessionAt_update F k none
    have hdelete := (h R).delete I k.text
    refine ((hdelete.bind fun _ => Ensures.pure fun s hs => ?_).failing fun f s hs => ?_) s hs
    · exact ⟨_, N, hmap.symm, _, R, hI.delete k, hR, hs⟩
    · exact ⟨F, N, rfl, I, R, hI, hR, hs⟩
  service session howner := ⟨howner.symm, rfl⟩

/-- What keeps `At I R` for all stores keeps `Recorded At M`. -/
theorem keeps_recorded {act : Act σ α} (h : ∀ I R, Keeps (At I R) act)
    (M : SessionKey → Option Session) : Keeps (Recorded At M) act := by
  rintro s ⟨F, N, hM, I, R, hI, hR, hs⟩
  exact ((h I R).weaken (fun _ _ hs => ⟨F, N, hM, I, R, hI, hR, hs⟩)
    fun _ _ hs => ⟨F, N, hM, I, R, hI, hR, hs⟩) s hs

end InstanceStores

/-! ## A host -/

namespace Rehearsal.Host

open InstanceStores (Recorded keeps_recorded maps_of_atomic)

/-- The shelves of the host have `I` and `R` in them. They may be locked, and some of their keys
unreadable. -/
def Stocked (I R : String → Option Values) (h : Host) : Prop :=
  Shelf.Stocks I h.instances ∧ Shelf.Stocks R h.remounts

/-- The first store of the host is `Atomic`: it refuses requests as a whole. -/
theorem atomic_instances (R : String → Option Values) :
    stores.instances.Atomic fun I => Stocked I R :=
  atomic_storeOn Shelf.atomic instancesPart (fun h => Shelf.Stocks R h.remounts) (fun _ _ => rfl)
    fun _ _ hs => hs

/-- The launcher of the host serves the sessions of its first store, and touches neither store. -/
theorem separate_stores : (launcherSupervisor stores.registry).Separate
    (fun session => sessionAt session.key (session.configPath.getD "")) (Recorded Stocked) where
  registry := maps_of_atomic atomic_instances
  describe := keeps_recorded fun _ _ => keeps_describe fun _ => Ensures.change fun _ hs => hs
  start M _ _ _ := keeps_recorded (fun _ _ => keeps_request (fun _ _ _ hs => hs) _) M
  stop M _ _ := keeps_recorded (fun _ _ => keeps_request (fun _ _ _ hs => hs) _) M

/-- A session without a server yet, with the configuration file `/c.yaml`. -/
def unserved (path : String) : Session where
  key := .ofPath path
  configPath := some "/c.yaml"
  owner := .process 0

/-- A host whose first store is locked, with a record of `Y:` in it. -/
def lockedHost : Host where
  surroundings := ⟨"/home/u", "/"⟩
  instances := {
    entries := [("Y:", InstanceStores.recordValues "Y:" "/old.yaml")]
    locked := true }

/-- The record of the locked store. -/
def lockedRecords (key : SessionKey) : Option Session :=
  if key = .ofPath "Y:" then some (sessionAt key "/old.yaml") else none

/-- The bare host has no record. -/
theorem recorded_bareHost : Recorded Stocked (fun _ => none) bareHost :=
  ⟨fun _ => none, fun _ => none, rfl, _, _, .empty, .empty, rfl, rfl⟩

/-- The locked host has the records of `lockedRecords`. -/
theorem recorded_lockedHost : Recorded Stocked lockedRecords lockedHost := by
  have hholding := (InstanceStores.Holding.empty.write (.ofPath "Y:") "/old.yaml")
  refine ⟨_, fun _ => none, ?_, _, _, hholding, .empty, ?_, rfl⟩
  · funext key
    by_cases hkey : key = .ofPath "Y:"
    · subst hkey
      rw [Function.update_self]
      exact if_pos rfl
    · rw [Function.update_of_ne hkey]
      exact if_neg hkey
  · exact Shelf.lookup_write {} "Y:" (InstanceStores.recordValues "Y:" "/old.yaml")

/-- On a host whose launcher starts nothing at `X:`, a session is handed over at `Y:` with its
configuration file and none at `X:`. Where the first store is locked, the start at `Y:` is refused and
the record that was there stays. -/
theorem allOrNothing_drives :
    (launcherSupervisor stores.registry).Separate
      (fun session => sessionAt session.key (session.configPath.getD "")) (Recorded Stocked) ∧
    Recorded Stocked (fun _ => none) bareHost ∧
    (((launcherSupervisor stores.registry).start (unserved "Y:") (remounted "Y:")).runOn
      bareHost).1.toOption = some .delegated ∧
    (launcherSupervisor stores.registry).requests (unserved "Y:") (remounted "Y:") bareHost
      = [.start ownClass "Y:" "Y:" "/c.yaml"] ∧
    ((stores.registry.lookup (.ofPath "Y:")).runOn
      (((launcherSupervisor stores.registry).start (unserved "Y:") (remounted "Y:")).runOn
        bareHost).2).1.toOption = some (some (sessionAt (.ofPath "Y:") "/c.yaml")) ∧
    (((launcherSupervisor stores.registry).start (unserved "X:") (remounted "X:")).runOn
      bareHost).1.toOption = none ∧
    (launcherSupervisor stores.registry).AllOrNothing (Recorded Stocked) (remounted "Y:")
      (unserved "Y:") (fun _ => none) bareHost ∧
    (launcherSupervisor stores.registry).AllOrNothing (Recorded Stocked) (remounted "X:")
      (unserved "X:") (fun _ => none) bareHost ∧
    Recorded Stocked lockedRecords lockedHost ∧
    Act.failure? (((launcherSupervisor stores.registry).start (unserved "Y:")
      (remounted "Y:")).runOn lockedHost).1 = some (Shelf.denied "Y:") ∧
    (launcherSupervisor stores.registry).AllOrNothing (Recorded Stocked) (remounted "Y:")
      (unserved "Y:") lockedRecords lockedHost := by
  refine ⟨separate_stores, recorded_bareHost, by decide +kernel, by decide +kernel,
    by decide +kernel, by decide +kernel, ?_, ?_, recorded_lockedHost, by decide +kernel, ?_⟩
  · exact LauncherSupervisor.Separate.allOrNothing separate_stores rfl (unserved "Y:")
      recorded_bareHost
  · exact LauncherSupervisor.Separate.allOrNothing separate_stores rfl (unserved "X:")
      recorded_bareHost
  · exact LauncherSupervisor.Separate.allOrNothing separate_stores rfl (unserved "Y:")
      recorded_lockedHost

end Rehearsal.Host

end MountKeeper
