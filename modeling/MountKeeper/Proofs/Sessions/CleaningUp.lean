import MountKeeper.Proofs.Disk.Change
import MountKeeper.Proofs.PidFiles.Record
import MountKeeper.Proofs.Sessions.Deeds
import MountKeeper.Proofs.Sessions.Handover

/-! # Cleaning up behind a session

A serving process starts its data path, records the session, serves in rounds until a signal asks it
to end or the data path has ended, and then cleans up.

* `LocalSupervisor.Round` and `LocalSupervisor.Rounds` are what is done while serving. A signal to
  read the configuration again never ends it; `LocalSupervisor.Rounds.endsFirst`: the first reason
  to end does.
* `LocalSupervisor.Served.runOn_noted`: so it goes for every course of polls that comes to an end.
* `LocalSupervisor.CleansUp` are the ways in which a session ends, and `LocalSupervisor.cleansUp`
  says that they are kept to, whatever the data path, the registry and the monitor do.
* `PidFiles.removes`: the registry of PID files removes what it is told to remove. -/

namespace MountKeeper

variable {σ : Type}

/-! ## Registries that remove -/

/-- Once the record of a key was removed, there is none. -/
def SessionRegistry.Removes (r : SessionRegistry σ) (key : SessionKey) : Prop :=
  ∀ h h', (r.unregister key).runOn h = (.ok (), h') → ((r.lookup key).runOn h').1 = .ok none

/-- **The registry of PID files** `Removes` what it is told to remove, in every directory and on
every disk. -/
theorem PidFiles.removes (dir : String) (key : SessionKey) : (registry dir).Removes key := by
  intro d d' hrun
  have hgone : d'.find (pathOf dir key) = .error .notFound := by
    dsimp only [registry, unregister, Act.runOn, ExceptT.run, StateT.run] at hrun
    -- the file was removed, or was not there, or is the failure
    split at hrun
    · next hremove =>
      cases hrun
      exact (Disk.changedIn_removeFile (plain_fileName key) hremove).2
    · next hremove =>
      cases hrun
      exact Disk.find_of_removeFile_notFound hremove
    · cases hrun
  have hnone : d'.pathExists (pathOf dir key) = false := by
    unfold Disk.pathExists
    rw [hgone]
    rfl
  have hlookup : ((registry dir).lookup key).runOn d' = (lookup dir d' key, d') := rfl
  rw [hlookup, lookup]
  dsimp only
  rw [hnone]
  rfl

namespace LocalSupervisor

variable {s : LocalSupervisor σ} {path : DataPath σ} {session : Session} {options : MountOptions}
  {ready : Act σ Unit}

/-! ## Rounds -/

/-- How signals are answered, one after the other: what is done about them, and whether they end the
session. A signal to read the configuration again never does, however that goes; the first one that
asks to end does, and the ones behind it are not answered. -/
inductive Answering (options : MountOptions) : List Signal → List Deed → Bool → Prop
  /-- There is no signal left. -/
  | done : Answering options [] [] false
  /-- The configuration is read again, if it can be. -/
  | reread {file : String} {signals : List Signal} {deeds : List Deed} {ended : Bool}
      (hfile : options.configPath = some file) (r : Except Failure LogLevel)
      (rest : Answering options signals deeds ended) :
      Answering options (.reload :: signals) (.reload file r :: deeds) ended
  /-- There is no configuration to read again. -/
  | unread {signals : List Signal} {deeds : List Deed} {ended : Bool}
      (hfile : options.configPath = none) (rest : Answering options signals deeds ended) :
      Answering options (.reload :: signals) deeds ended
  /-- A signal asks to end. -/
  | asked {signal : Signal} {signals : List Signal} (hasks : signal.asksToEnd = true) :
      Answering options (signal :: signals) [] true

/-- What is done in a round of serving, and whether there is to be another one: not if a signal asks
to end, for which the data path is not looked at, and not if the data path does not serve. -/
inductive Round (options : MountOptions) : List Deed → Bool → Prop
  /-- A signal asks to end. -/
  | asked {signals : List Signal} {deeds : List Deed} (h : Answering options signals deeds true) :
      Round options (.hear (.ok signals) :: deeds) false
  /-- No signal does, and the data path is looked at. -/
  | looked {signals : List Signal} {deeds : List Deed} (h : Answering options signals deeds false)
      (running : Bool) :
      Round options (.hear (.ok signals) :: (deeds ++ [.look (.ok running)])) running

/-- What is done in a number of rounds, of which the last is the first that is not to be followed by
another one. -/
inductive Rounds (options : MountOptions) : Nat → List Deed → Prop
  | last {deeds : List Deed} (h : Round options deeds false) : Rounds options 1 deeds
  | next {n : Nat} {deeds more : List Deed} (h : Round options deeds true)
      (rest : Rounds options n more) : Rounds options (n + 1) (deeds ++ more)

/-- `ended` is whether one of the signals `asksToEnd`. -/
theorem Answering.ended_eq {signals : List Signal} {deeds : List Deed} {ended : Bool}
    (h : Answering options signals deeds ended) : ended = signals.any Signal.asksToEnd := by
  induction h with
  | done => rfl
  | reread _ _ _ ih => simpa [Signal.asksToEnd] using ih
  | unread _ _ ih => simpa [Signal.asksToEnd] using ih
  | asked hasks => simp [hasks]

/-- Nothing but the configuration is read for signals: every deed `isReload`. -/
theorem Answering.isReload {signals : List Signal} {deeds : List Deed} {ended : Bool}
    (h : Answering options signals deeds ended) : ∀ d ∈ deeds, d.isReload = true := by
  induction h with
  | done => simp
  | reread _ _ _ ih =>
    intro d hd
    rcases List.mem_cons.1 hd with rfl | hd
    · rfl
    · exact ih d hd
  | unread _ _ ih => exact ih
  | asked _ => simp

/-- Nothing is started, recorded, stopped or removed in a round: every deed `isServing`. -/
theorem Round.isServing {deeds : List Deed} {goesOn : Bool} (h : Round options deeds goesOn) :
    ∀ d ∈ deeds, d.isServing = true := by
  intro d hd
  cases h with
  | asked h =>
    rcases List.mem_cons.1 hd with rfl | hd
    · rfl
    · exact (Deed.of_isReload (h.isReload d hd)).1
  | looked h running =>
    simp only [List.mem_cons, List.mem_append, List.not_mem_nil, or_false] at hd
    rcases hd with rfl | hd | rfl
    · rfl
    · exact (Deed.of_isReload (h.isReload d hd)).1
    · rfl

/-- In a round that is followed by another one, no deed is a reason to end. -/
theorem Round.endsServing_eq_false {deeds : List Deed} (h : Round options deeds true) :
    ∀ d ∈ deeds, d.endsServing = false := by
  intro d hd
  cases h with
  | looked h running =>
    simp only [List.mem_cons, List.mem_append, List.not_mem_nil, or_false] at hd
    rcases hd with rfl | hd | rfl
    · exact h.ended_eq.symm
    · exact (Deed.of_isReload (h.isReload d hd)).2
    · rfl

/-- That the first reason to end is the last thing that is done, but for reading the configuration
again for the signals in front of one that asks to end. -/
def EndsFirst (deeds : List Deed) : Prop :=
  ∃ before d after, deeds = before ++ d :: after ∧ (∀ e ∈ before, e.endsServing = false) ∧
    d.endsServing = true ∧ ∀ e ∈ after, e.isReload = true

/-- A last round `EndsFirst`: it ends with the signal that asks to, or with the look at a data path
that does not serve. -/
theorem Round.endsFirst {deeds : List Deed} (h : Round options deeds false) : EndsFirst deeds := by
  cases h with
  | @asked signals reloads h =>
    exact ⟨[], .hear (.ok signals), reloads, rfl, by simp, h.ended_eq.symm, h.isReload⟩
  | @looked signals reloads h running =>
    refine ⟨.hear (.ok signals) :: reloads, .look (.ok false), [], rfl, fun e he => ?_, rfl,
      by simp⟩
    rcases List.mem_cons.1 he with rfl | he
    · exact h.ended_eq.symm
    · exact (Deed.of_isReload (h.isReload e he)).2

/-- Every deed of the rounds `isServing`. -/
theorem Rounds.isServing {n : Nat} {deeds : List Deed} (h : Rounds options n deeds) :
    ∀ d ∈ deeds, d.isServing = true := by
  induction h with
  | last h => exact h.isServing
  | next h _ ih =>
    intro d hd
    rcases List.mem_append.1 hd with hd | hd
    · exact h.isServing d hd
    · exact ih d hd

/-- **Serving ends at the first reason to end**: the rounds `EndsFirst`. Induction on the rounds,
where all but the last have no such reason. -/
theorem Rounds.endsFirst {n : Nat} {deeds : List Deed} (h : Rounds options n deeds) :
    EndsFirst deeds := by
  induction h with
  | last h => exact h.endsFirst
  | @next n deeds more h _ ih =>
    obtain ⟨before, d, after, rfl, hbefore, hd, hafter⟩ := ih
    refine ⟨deeds ++ before, d, after, by simp, fun e he => ?_, hd, hafter⟩
    rcases List.mem_append.1 he with he | he
    · exact h.endsServing_eq_false e he
    · exact hbefore e he

/-- The session is served from one host to another in a number of rounds: the last is the first that
does not go on. -/
inductive Served (s : LocalSupervisor σ) (path : DataPath σ) (options : MountOptions) :
    σ → Nat → σ → Prop
  | last {h h' : σ} (hpoll : (s.poll path options).runOn h = (.ok false, h')) :
      Served s path options h 1 h'
  | next {h h₁ h' : σ} {n : Nat} (hpoll : (s.poll path options).runOn h = (.ok true, h₁))
      (rest : Served s path options h₁ n h') : Served s path options h (n + 1) h'

variable (s options) in
/-- `answerSignals` does not fail, and what is noted of it is `Answering`. -/
theorem runOn_noted_answerSignals (signals : List Signal) (h : σ) (T : List Deed) :
    ∃ deeds ended h', Answering options signals deeds ended ∧
      (s.noted.answerSignals options signals).runOn ⟨h, T⟩ = (.ok ended, ⟨h', T ++ deeds⟩) := by
  induction signals generalizing h T with
  | nil =>
    refine ⟨[], false, h, .done, ?_⟩
    rw [List.append_nil]
    rfl
  | cons signal rest ih =>
    have hasked : ∀ signal : Signal, signal.asksToEnd = true →
        Answering options (signal :: rest) [] true := fun _ hasks => .asked hasks
    cases signal with
    | reload =>
      -- the signals behind it are answered whether or not a file can be read again
      cases hfile : options.configPath with
      | none =>
        obtain ⟨deeds, ended, h', hanswering, hrun⟩ := ih h T
        refine ⟨deeds, ended, h', .unread hfile hanswering, ?_⟩
        simp only [answerSignals, hfile]
        exact hrun
      | some file =>
        rcases hreload : (s.reloadLog file).runOn h with ⟨r, h₁⟩
        obtain ⟨deeds, ended, h', hanswering, hrun⟩ := ih h₁ (T ++ [.reload file r])
        refine ⟨.reload file r :: deeds, ended, h', .reread hfile r hanswering, ?_⟩
        have hnoted := Act.runOn_noted_of hreload (Deed.reload file) T
        simp only [answerSignals, hfile]
        rw [Act.runOn_bind, Act.runOn_attempt]
        show Act.runOn _ (((s.reloadLog file).noted (Deed.reload file)).runOn ⟨h, T⟩).2 = _
        rw [hnoted]
        dsimp only
        rw [hrun, List.append_assoc]
        rfl
    | interrupt =>
      -- nothing is heard of the signals behind it
      refine ⟨[], true, h, hasked _ rfl, ?_⟩
      rw [List.append_nil]
      rfl
    | terminate =>
      refine ⟨[], true, h, hasked _ rfl, ?_⟩
      rw [List.append_nil]
      rfl

/-- What is noted of `s.poll` is a `Round`. -/
theorem runOn_noted_poll {h h' : σ} {goesOn : Bool}
    (hpoll : (s.poll path options).runOn h = (.ok goesOn, h')) (T : List Deed) :
    ∃ deeds, Round options deeds goesOn ∧
      (s.noted.poll path.noted options).runOn ⟨h, T⟩ = (.ok goesOn, ⟨h', T ++ deeds⟩) := by
  -- that it ends the same is known; what it has noted is found along its steps
  obtain ⟨T', hnoted⟩ := (s.follows_poll path options).runOn_eq hpoll T
  rw [hnoted]
  unfold poll at hnoted
  rw [Act.runOn_bind] at hnoted
  rcases harrived : s.signals.arrived.runOn h with ⟨r, h₁⟩
  have hheard := Act.runOn_noted_of harrived Deed.hear T
  change s.noted.signals.arrived.runOn ⟨h, T⟩ = _ at hheard
  rw [hheard] at hnoted
  cases r with
  | error f => cases hnoted
  | ok signals =>
    dsimp only at hnoted
    obtain ⟨deeds, ended, h₂, hanswering, hanswered⟩ :=
      runOn_noted_answerSignals s options signals h₁ (T ++ [.hear (.ok signals)])
    rw [Act.runOn_bind, hanswered] at hnoted
    cases ended with
    | true =>
      -- the data path is not looked at
      refine ⟨.hear (.ok signals) :: deeds, ?_⟩
      cases hnoted
      exact ⟨.asked hanswering, by simp⟩
    | false =>
      rcases hrunning : path.isRunning.runOn h₂ with ⟨r, h₃⟩
      have hlooked := Act.runOn_noted_of hrunning Deed.look (T ++ [.hear (.ok signals)] ++ deeds)
      change path.noted.isRunning.runOn _ = _ at hlooked
      change path.noted.isRunning.runOn _ = _ at hnoted
      rw [hlooked] at hnoted
      cases hnoted
      exact ⟨_, .looked hanswering goesOn, by simp⟩

/-- What is noted of `s.serve` are `Rounds`, if it is not cut short by `limit`. -/
theorem Served.runOn_noted {h h' : σ} {n limit : Nat} (hserved : Served s path options h n h')
    (hlimit : n ≤ limit) (T : List Deed) :
    ∃ rounds, Rounds options n rounds ∧
      (s.noted.serve path.noted options limit).runOn ⟨h, T⟩ = (.ok (), ⟨h', T ++ rounds⟩) := by
  induction hserved generalizing limit T with
  | last hpoll =>
    -- the limit is not reached before the last poll
    obtain ⟨limit, rfl⟩ : ∃ m, limit = m + 1 := ⟨limit - 1, by omega⟩
    obtain ⟨deeds, hround, hrun⟩ := runOn_noted_poll hpoll T
    refine ⟨deeds, .last hround, ?_⟩
    rw [serve_succ, Act.runOn_bind, hrun]
    rfl
  | next hpoll _ ih =>
    obtain ⟨limit, rfl⟩ : ∃ m, limit = m + 1 := ⟨limit - 1, by omega⟩
    obtain ⟨deeds, hround, hrun⟩ := runOn_noted_poll hpoll T
    obtain ⟨more, hrounds, hrest⟩ := ih (by omega : _ ≤ limit) (T ++ deeds)
    refine ⟨deeds ++ more, .next hround hrounds, ?_⟩
    rw [serve_succ, Act.runOn_bind, hrun]
    dsimp only
    rw [if_pos rfl, hrest, List.append_assoc]

/-! ## The start and the end of a session -/

/-- `attach` of a data path that does not start: the failed start is all that was done. -/
theorem runOn_noted_attach_of_unstarted {h h₁ : σ} {f : Failure}
    (hstart : path.start.runOn h = (.error f, h₁)) (T : List Deed) :
    (s.noted.attach path.noted session).runOn ⟨h, T⟩
      = (.error (f.within "unable to start pipeline"), ⟨h₁, T ++ [.start (.error f)]⟩) := by
  have hnoted : path.noted.start.runOn ⟨h, T⟩ = _ := Act.runOn_noted_of hstart Deed.start T
  unfold attach
  rw [Act.runOn_bind, Act.runOn_inContext, hnoted]

/-- `attach` of a session that cannot be recorded: the data path has started and is stopped again.
-/
theorem runOn_noted_attach_of_unrecorded {h h₁ h₂ : σ} {f : Failure}
    (hstart : path.start.runOn h = (.ok (), h₁))
    (hregister : (s.registry.register session).runOn h₁ = (.error f, h₂)) (T : List Deed) :
    (s.noted.attach path.noted session).runOn ⟨h, T⟩ = (.error f, ⟨(path.stop.runOn h₂).2,
      T ++ [.start (.ok ()), .register session (.error f), .stop (path.stop.runOn h₂).1]⟩) := by
  have hstarted : path.noted.start.runOn ⟨h, T⟩ = _ := Act.runOn_noted_of hstart Deed.start T
  have hrefused : (s.noted.registry.register session).runOn _ = _ :=
    Act.runOn_noted_of hregister (Deed.register session) (T ++ [.start (.ok ())])
  have hstopped : path.noted.stop.runOn _ = _ :=
    Act.runOn_noted_of (rfl : path.stop.runOn h₂ = _) Deed.stop
      (T ++ [.start (.ok ())] ++ [.register session (.error f)])
  unfold attach
  rw [Act.runOn_bind, Act.runOn_inContext, hstarted]
  dsimp only
  rw [Act.runOn_bind, Act.runOn_attempt, hrefused]
  dsimp only
  rw [Act.runOn_bind, Act.runOn_attempt, hstopped, List.append_assoc, List.append_assoc]
  rfl

/-- `attach` where the data path has started and the session is recorded. -/
theorem runOn_noted_attach_of_recorded {h h₁ h₂ : σ} (hstart : path.start.runOn h = (.ok (), h₁))
    (hregister : (s.registry.register session).runOn h₁ = (.ok (), h₂)) (T : List Deed) :
    (s.noted.attach path.noted session).runOn ⟨h, T⟩
      = (.ok (), ⟨h₂, T ++ [.start (.ok ()), .register session (.ok ())]⟩) := by
  have hstarted : path.noted.start.runOn ⟨h, T⟩ = _ := Act.runOn_noted_of hstart Deed.start T
  have hrecorded : (s.noted.registry.register session).runOn _ = _ :=
    Act.runOn_noted_of hregister (Deed.register session) (T ++ [.start (.ok ())])
  unfold attach
  rw [Act.runOn_bind, Act.runOn_inContext, hstarted]
  dsimp only
  rw [Act.runOn_bind, Act.runOn_attempt, hrecorded, List.append_assoc]
  rfl

/-- `shutdown` removes the record however the data path was stopped; a failure to remove it is the
result before that of the stop. -/
theorem runOn_noted_shutdown {pid : UInt32} {h h₁ h₂ h₃ : σ} {stopped removed : Except Failure Unit}
    (hhealth : (s.endHealth options pid).runOn h = (.ok (), h₁))
    (hstop : path.stop.runOn h₁ = (stopped, h₂))
    (hunregister : (s.registry.unregister session.key).runOn h₂ = (removed, h₃)) (T : List Deed) :
    (s.noted.shutdown path.noted session options pid).runOn ⟨h, T⟩
      = (removed.bind fun _ => stopped,
        ⟨h₃, T ++ [.stop stopped, .unregister session.key removed]⟩) := by
  have hquiet := (s.shadows_endHealth options pid).runOn_quiet hhealth T
  have hstopped : path.noted.stop.runOn ⟨h₁, T⟩ = _ := Act.runOn_noted_of hstop Deed.stop T
  have hremoved : (s.noted.registry.unregister session.key).runOn _ = _ :=
    Act.runOn_noted_of hunregister (Deed.unregister session.key) (T ++ [.stop stopped])
  rw [shutdown_eq, Act.runOn_bind, hquiet]
  dsimp only
  rw [Act.runOn_bind, Act.runOn_attempt, hstopped]
  dsimp only
  rw [Act.runOn_bind, hremoved, List.append_assoc]
  cases removed with
  | error f => rfl
  -- the failure of the stop is told only where the record is gone
  | ok _ => cases stopped <;> rfl

/-! ## Cleaning up -/

/-- `runSession` where `attach` fails: the session has failed. -/
theorem runOn_noted_runSession_of_unattached {h h₁ h₂ : σ} {f : Failure} {written : List Deed}
    (hbegin : s.signals.begin.runOn h = (.ok (), h₁))
    (hattach : (s.noted.attach path.noted (running session)).runOn ⟨h₁, []⟩
      = (.error f, ⟨h₂, written⟩)) :
    (s.noted.runSession path.noted session options ready.unseen).runOn ⟨h, []⟩
      = (.error f, ⟨h₂, written⟩) := by
  have hbegun : s.noted.signals.begin.runOn ⟨h, []⟩ = _ := Act.runOn_unseen_of hbegin []
  rw [runSession_eq, Act.runOn_bind, hbegun]
  dsimp only
  rw [Act.runOn_bind, hattach]

/-- `runSession` where `attach` works goes on with `serveOut`. -/
theorem runOn_noted_runSession_of_attached {h h₁ h₂ h₃ : σ} {T : List Deed}
    (hbegin : s.signals.begin.runOn h = (.ok (), h₁))
    (hattach : (s.noted.attach path.noted (running session)).runOn ⟨h₁, []⟩ = (.ok (), ⟨h₂, T⟩))
    (hready : ready.runOn h₂ = (.ok (), h₃)) :
    (s.noted.runSession path.noted session options ready.unseen).runOn ⟨h, []⟩
      = (s.noted.serveOut path.noted session options).runOn ⟨h₃, T⟩ := by
  have hbegun : s.noted.signals.begin.runOn ⟨h, []⟩ = _ := Act.runOn_unseen_of hbegin []
  rw [runSession_eq, Act.runOn_bind, hbegun]
  dsimp only
  rw [Act.runOn_bind, hattach]
  dsimp only
  rw [Act.runOn_bind, Act.runOn_unseen_of hready]

/-- **A session that is recorded** is served in `Rounds`, and cleaned up behind them: `.stop`, then
`.unregister`. -/
theorem runOn_noted_serveOut {h h₁ h₂ h₃ h₄ : σ} {n : Nat} {stopped removed : Except Failure Unit}
    (hserved : Served s path options ((s.watchHealth options (s.self h)).runOn h).2 n h₁)
    (hlimit : n ≤ s.pollLimit h)
    (hhealth : (s.endHealth options (s.self h)).runOn h₁ = (.ok (), h₂))
    (hstop : path.stop.runOn h₂ = (stopped, h₃))
    (hunregister : (s.registry.unregister session.key).runOn h₃ = (removed, h₄)) (T : List Deed) :
    ∃ rounds, Rounds options n rounds ∧
      (s.noted.serveOut path.noted session options).runOn ⟨h, T⟩
        = (removed.bind fun _ => stopped,
          ⟨h₄, T ++ rounds ++ [.stop stopped, .unregister session.key removed]⟩) := by
  obtain ⟨h', hwatch⟩ := s.runOn_watchHealth options (s.self h) h
  have hwatched := (s.shadows_watchHealth options (s.self h)).runOn_quiet hwatch T
  rw [hwatch] at hserved
  obtain ⟨rounds, hrounds, hserve⟩ := hserved.runOn_noted hlimit T
  refine ⟨rounds, hrounds, ?_⟩
  show (s.noted.watchHealth options (s.self h) >>= fun _ =>
    s.noted.serve path.noted options (s.pollLimit h) >>= fun _ =>
      s.noted.shutdown path.noted { session with state := .stopping } options (s.self h)).runOn
        ⟨h, T⟩ = _
  rw [Act.runOn_bind, hwatched]
  dsimp only
  rw [Act.runOn_bind, hserve]
  exact runOn_noted_shutdown hhealth hstop hunregister (T ++ rounds)

/-- **How a session ends**: with a failure before it is served, or cleaned up behind it. What is
answered, the host that is left, and what was done. -/
structure CleansUp (s : LocalSupervisor σ) (path : DataPath σ) (session : Session)
    (options : MountOptions) (ready : Act σ Unit) (h : σ) : Prop where
  /-- If signals cannot be watched, nothing is done. -/
  unwatched : ∀ f h₁, s.signals.begin.runOn h = (.error f, h₁) →
    (s.runSession path session options ready).runOn h = (.error f, h₁) ∧
    s.deeds path session options ready h = []
  /-- If the data path does not start, nothing is recorded and it is not stopped. -/
  unstarted : ∀ h₁ f h₂, s.signals.begin.runOn h = (.ok (), h₁) →
    path.start.runOn h₁ = (.error f, h₂) →
    (s.runSession path session options ready).runOn h
      = (.error (f.within "unable to start pipeline"), h₂) ∧
    s.deeds path session options ready h = [.start (.error f)]
  /-- If the session cannot be recorded, the data path is stopped once, and that is the failure. -/
  unrecorded : ∀ h₁ h₂ f h₃, s.signals.begin.runOn h = (.ok (), h₁) →
    path.start.runOn h₁ = (.ok (), h₂) →
    (s.registry.register (running session)).runOn h₂ = (.error f, h₃) →
    ∃ stopped h₄, path.stop.runOn h₃ = (stopped, h₄) ∧
      (s.runSession path session options ready).runOn h = (.error f, h₄) ∧
      s.deeds path session options ready h
        = [.start (.ok ()), .register (running session) (.error f), .stop stopped]
  /-- Otherwise the session is served in rounds up to the first reason to end. Then the data path is
  stopped, once, and the record of the session is removed, once, however that and everything before
  it went. The answer is that the record was not removed, or else how the data path was stopped. -/
  served : ∀ h₁ h₂ h₃ h₄ n h₅, s.signals.begin.runOn h = (.ok (), h₁) →
    path.start.runOn h₁ = (.ok (), h₂) →
    (s.registry.register (running session)).runOn h₂ = (.ok (), h₃) →
    ready.runOn h₃ = (.ok (), h₄) →
    Served s path options ((s.watchHealth options (s.self h₄)).runOn h₄).2 n h₅ →
    n ≤ s.pollLimit h₄ →
    ∃ rounds h₆ stopped h₇ removed h₈, Rounds options n rounds ∧
      (∀ d ∈ rounds, d.isServing = true) ∧ EndsFirst rounds ∧
      (s.endHealth options (s.self h₄)).runOn h₅ = (.ok (), h₆) ∧
      path.stop.runOn h₆ = (stopped, h₇) ∧
      (s.registry.unregister session.key).runOn h₇ = (removed, h₈) ∧
      (s.runSession path session options ready).runOn h = (removed.bind fun _ => stopped, h₈) ∧
      s.deeds path session options ready h
        = [.start (.ok ()), .register (running session) (.ok ())] ++ rounds
          ++ [.stop stopped, .unregister session.key removed] ∧
      (s.registry.Removes session.key → removed = .ok () →
        ((s.registry.lookup session.key).runOn h₈).1 = .ok none)

/-- **A session always cleans up**: whichever way `runSession` ends, `s.CleansUp` holds of its
deeds. -/
theorem cleansUp (s : LocalSupervisor σ) (path : DataPath σ) (session : Session)
    (options : MountOptions) (ready : Act σ Unit) (h : σ) :
    s.CleansUp path session options ready h := by
  constructor
  case unwatched =>
    intro f h₁ hbegin
    apply runOn_runSession_of_noted
    have hbegun : s.noted.signals.begin.runOn ⟨h, []⟩ = _ := Act.runOn_unseen_of hbegin []
    rw [runSession_eq, Act.runOn_bind, hbegun]
  case unstarted =>
    intro h₁ f h₂ hbegin hstart
    apply runOn_runSession_of_noted
    apply runOn_noted_runSession_of_unattached hbegin
    exact runOn_noted_attach_of_unstarted hstart []
  case unrecorded =>
    intro h₁ h₂ f h₃ hbegin hstart hregister
    refine ⟨_, _, rfl, ?_⟩
    apply runOn_runSession_of_noted
    apply runOn_noted_runSession_of_unattached hbegin
    exact runOn_noted_attach_of_unrecorded hstart hregister []
  case served =>
    intro h₁ h₂ h₃ h₄ n h₅ hbegin hstart hregister hready hserved hlimit
    -- ending the monitor, stopping the data path and removing the record each have some answer
    obtain ⟨h₆, hhealth⟩ := s.runOn_endHealth options (s.self h₄) h₅
    rcases hstop : path.stop.runOn h₆ with ⟨stopped, h₇⟩
    rcases hunregister : (s.registry.unregister session.key).runOn h₇ with ⟨removed, h₈⟩
    have hattach := runOn_noted_attach_of_recorded hstart hregister []
    obtain ⟨rounds, hrounds, hserveOut⟩ := runOn_noted_serveOut hserved hlimit hhealth hstop
      hunregister [.start (.ok ()), .register (running session) (.ok ())]
    obtain ⟨hrun, hdeeds⟩ := runOn_runSession_of_noted
      ((runOn_noted_runSession_of_attached hbegin hattach hready).trans hserveOut)
    refine ⟨rounds, h₆, stopped, h₇, removed, h₈, hrounds, hrounds.isServing, hrounds.endsFirst,
      hhealth, hstop, hunregister, hrun, hdeeds, fun hremoves hremoved => ?_⟩
    rw [hremoved] at hunregister
    exact hremoves _ _ hunregister

end LocalSupervisor

namespace Rehearsal.Host

/-- A host whose data path serves on, and cannot be stopped. It is told to read a configuration that
it has no log for, and then that and to end. -/
def signalledHost : Host where
  surroundings := ⟨"/home/u", "/"⟩
  path := {
    running := [true, true], stopError := some "busy"
    signals := [.reload], runningSignals := [.reload, .terminate] }
  polls := ([true, true], true)

/-- Serving goes on behind the first signal, and the record is removed though the data path is not
stopped. -/
example : (localSupervisor ⟨"/home/u", "/"⟩ registry).deeds
    ⟨startPath (remounted "/a"), pollPath, stopPath⟩ (unserved "/a") (remounted "/a") (pure ())
    signalledHost
    = [.start (.ok ()), .register (LocalSupervisor.running (unserved "/a")) (.ok ()),
      .hear (.ok [.reload]), .reload "/c.yaml" (.error (.ofText "nothing is logged")),
      .look (.ok true), .hear (.ok [.reload, .terminate]),
      .reload "/c.yaml" (.error (.ofText "nothing is logged")),
      .stop (.error (.ofText "busy")), .unregister (unserved "/a").key (.ok ())] := by
  rfl

end Rehearsal.Host

end MountKeeper
