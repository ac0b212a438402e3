import MountKeeper.Proofs.Launcher.Arrangement
import Mathlib.Data.List.Induction

/-! # The instance stores behind any calls

Records and marks are written by four calls, in any order. What the stores have in them behind such
a history follows from two things only: the configuration file that each key was registered with
and not unregistered since, and the one that it was marked with and not cleared since.

* `KeyStore.Answers` and `InstanceStores.Answer`: stores that do not fail. `KeyStore.AnswersBut` and
  `InstanceStores.AnswerBut`: they need not answer for keys under which there is no record.
* `InstanceStores.Call` are the calls; `recorded` and `marked` are what a history of them amounts
  to. `recorded_eq_some_iff` and `marked_eq_some_iff` say it in terms of the history.
* `InstanceStores.Holding`: a store has the records of some keys in it, and nothing else.
* `InstanceStores.AnswerBut.history`: so it is with both stores behind any history of calls. -/

namespace MountKeeper

open Act (Ensures)
open Arrangement (sessionAt text_ne)

variable {σ : Type}

/-! ## Stores that do not fail -/

/-- The store answers every request. `At C` says of a host that the store has `C` in it. -/
structure KeyStore.Answers (store : KeyStore σ) (At : (String → Option Values) → σ → Prop) :
    Prop where
  read : ∀ C key, Ensures (At C) (store.read key) (fun v s => v = C key ∧ At C s) fun _ _ => False
  write : ∀ C key values, Ensures (At C) (store.write key values)
    (fun _ => At (Function.update C key (some (((C key).getD []).merge values)))) fun _ _ => False
  delete : ∀ C key, Ensures (At C) (store.delete key)
    (fun _ => At (Function.update C key none)) fun _ _ => False
  keys : ∀ C, Ensures (At C) store.keys
    (fun keys s => (keys.Nodup ∧ ∀ key, key ∈ keys ↔ (C key).isSome) ∧ At C s) fun _ _ => False

/-- The store answers a request or refuses it, and a request that is refused has changed nothing. `At C`
says of a host that the store has `C` in it. -/
structure KeyStore.Atomic (store : KeyStore σ) (At : (String → Option Values) → σ → Prop) : Prop where
  read : ∀ C key, Ensures (At C) (store.read key) (fun v s => v = C key ∧ At C s) fun _ => At C
  write : ∀ C key values, Ensures (At C) (store.write key values)
    (fun _ => At (Function.update C key (some (((C key).getD []).merge values)))) fun _ => At C
  delete : ∀ C key, Ensures (At C) (store.delete key)
    (fun _ => At (Function.update C key none)) fun _ => At C

/-- The store answers every request but for the keys of `Off`. What is under those is no record: it
cannot be read or has no configuration file. -/
structure KeyStore.AnswersBut (store : KeyStore σ) (Off : String → Prop)
    (At : (String → Option Values) → σ → Prop) : Prop where
  /-- What is under the keys of `Off` is not among the records. -/
  apart : ∀ C s key, At C s → Off key → C key = none
  read : ∀ C key, ¬ Off key →
    Ensures (At C) (store.read key) (fun v s => v = C key ∧ At C s) fun _ _ => False
  off : ∀ C key, Off key → Ensures (At C) (Act.attempt (store.read key))
    (fun found s => (∀ values, found = .ok (some values) →
      values.get? InstanceStores.configFileName = none) ∧ At C s) fun _ _ => False
  write : ∀ C key values, ¬ Off key → Ensures (At C) (store.write key values)
    (fun _ => At (Function.update C key (some (((C key).getD []).merge values)))) fun _ _ => False
  delete : ∀ C key, ¬ Off key → Ensures (At C) (store.delete key)
    (fun _ => At (Function.update C key none)) fun _ _ => False
  keys : ∀ C, Ensures (At C) store.keys
    (fun keys s => (keys.Nodup ∧ ∀ key, (C key).isSome → key ∈ keys) ∧ At C s) fun _ _ => False

/-- A store that `Answers` every request answers but for no keys. -/
theorem KeyStore.Answers.but {store : KeyStore σ} {At : (String → Option Values) → σ → Prop}
    (h : store.Answers At) : store.AnswersBut (fun _ => False) At where
  apart _ _ _ _ hno := hno.elim
  read C key _ := h.read C key
  off _ _ hno := hno.elim
  write C key values _ := h.write C key values
  delete C key _ := h.delete C key
  keys C := (h.keys C).weaken (fun _ _ hkeys => ⟨⟨hkeys.1.1, fun key => (hkeys.1.2 key).2⟩, hkeys.2⟩)
    fun _ _ hf => hf

namespace InstanceStores

/-- Both stores answer every request, and neither touches what is in the other. `At I R` says of a
host that the first has `I` in it and the second `R`. -/
structure Answer (stores : InstanceStores σ)
    (At : (String → Option Values) → (String → Option Values) → σ → Prop) : Prop where
  instances : ∀ R, stores.instances.Answers fun I => At I R
  remounts : ∀ I, stores.remounts.Answers (At I)

/-- Both stores answer every request, the first but for the keys of `OffI` and the second but for
those of `OffR`, and neither touches what is in the other. -/
structure AnswerBut (stores : InstanceStores σ) (OffI OffR : String → Prop)
    (At : (String → Option Values) → (String → Option Values) → σ → Prop) : Prop where
  instances : ∀ R, stores.instances.AnswersBut OffI fun I => At I R
  remounts : ∀ I, stores.remounts.AnswersBut OffR (At I)

/-- Stores that `Answer` under all keys answer but for none. -/
theorem Answer.but {stores : InstanceStores σ}
    {At : (String → Option Values) → (String → Option Values) → σ → Prop} (h : stores.Answer At) :
    stores.AnswerBut (fun _ => False) (fun _ => False) At where
  instances R := (h.instances R).but
  remounts I := (h.remounts I).but

/-! ## Calls -/

/-- What changes the stores. -/
inductive Call where
  | register (session : Session)
  | unregister (key : SessionKey)
  | mark (record : RemountRecord)
  | clear (key : SessionKey)

namespace Call

/-- What a call does. -/
def act (stores : InstanceStores σ) : Call → Act σ Unit
  | register session => stores.registry.register session
  | unregister key => stores.registry.unregister key
  | mark record => stores.flags.mark record
  | clear key => do
    let _ ← stores.flags.clear key

/-- The configuration files of the recorded sessions behind a call. -/
def recordedBy (F : SessionKey → Option String) : Call → SessionKey → Option String
  | register session => Function.update F session.key (some (session.configPath.getD ""))
  | unregister key => Function.update F key none
  | mark _ => F
  | clear _ => F

/-- The configuration files of the marks behind a call. -/
def markedBy (M : SessionKey → Option String) : Call → SessionKey → Option String
  | register _ => M
  | unregister _ => M
  | mark record => Function.update M record.key (some record.configPath)
  | clear key => Function.update M key none

/-- Whether a call registers or unregisters a key. -/
def Records (k : SessionKey) : Call → Prop
  | register session => session.key = k
  | unregister key => key = k
  | _ => False

/-- Whether a call marks or clears a key. -/
def Flags (k : SessionKey) : Call → Prop
  | mark record => record.key = k
  | clear key => key = k
  | _ => False

/-- Whether a call is about none of the keys of `OffI` in the first store and none of those of `OffR`
in the second. -/
def Avoids (OffI OffR : String → Prop) : Call → Prop
  | register session => ¬ OffI session.key.text
  | unregister key => ¬ OffI key.text
  | mark record => ¬ OffR record.key.text
  | clear key => ¬ OffR key.text

end Call

/-- The configuration file of each key that was registered and not unregistered since. -/
def recorded (calls : List Call) : SessionKey → Option String :=
  calls.foldl Call.recordedBy fun _ => none

/-- The configuration file of each key that was marked and not cleared since. -/
def marked (calls : List Call) : SessionKey → Option String :=
  calls.foldl Call.markedBy fun _ => none

/-! ### The last call that counts -/

section Last

variable {Sets : Call → String → Prop} {Touches : Call → Prop}

/-- The last call that counts of `calls ++ [c]` is `c`, or it is that of `calls`, which `c` does not
touch. -/
theorem exists_last_append_singleton (calls : List Call) (c : Call) (config : String) :
    (∃ before c' after, calls ++ [c] = before ++ c' :: after ∧ Sets c' config
        ∧ ∀ c'' ∈ after, ¬ Touches c'')
      ↔ Sets c config ∨ (¬ Touches c ∧ ∃ before c' after, calls = before ++ c' :: after
        ∧ Sets c' config ∧ ∀ c'' ∈ after, ¬ Touches c'') := by
  constructor
  · rintro ⟨before, c', after, hcalls, hsets, hafter⟩
    -- either the call that counts is the new one, or the new one is among those that do not touch
    -- the key
    rcases List.eq_nil_or_concat after with rfl | ⟨after, c'', rfl⟩
    · obtain ⟨-, hc⟩ := List.append_inj' hcalls rfl
      rw [List.singleton_injective hc]
      exact .inl hsets
    · rw [List.concat_eq_append, ← List.cons_append, ← List.append_assoc] at hcalls
      obtain ⟨hbefore, hc⟩ := List.append_inj' hcalls rfl
      obtain rfl := List.singleton_injective hc
      refine .inr ⟨hafter c (by simp), before, c', after, hbefore, hsets, ?_⟩
      exact fun c' hc' => hafter c' (by simp [hc'])
  · rintro (hsets | ⟨hc, before, c', after, rfl, hsets, hafter⟩)
    · exact ⟨calls, c, [], rfl, hsets, fun c hc => absurd hc List.not_mem_nil⟩
    · refine ⟨before, c', after ++ [c], by simp, hsets, fun c'' hc'' => ?_⟩
      rcases List.mem_append.1 hc'' with hc'' | hc''
      · exact hafter c'' hc''
      · rw [List.mem_singleton.1 hc'']
        exact hc

/-- **A fold over a history** leaves under `k` what the last call that `Touches` it sets there.
Induction on the calls from the end, by `exists_last_append_singleton`. -/
theorem foldl_eq_some_iff {step : (SessionKey → Option String) → Call → SessionKey → Option String}
    {k : SessionKey} (htouches : ∀ c config, Sets c config → Touches c)
    (hleaves : ∀ M c, ¬ Touches c → step M c k = M k)
    (hsets : ∀ M c config, Touches c → (step M c k = some config ↔ Sets c config))
    (calls : List Call) (config : String) :
    calls.foldl step (fun _ => none) k = some config
      ↔ ∃ before c after, calls = before ++ c :: after ∧ Sets c config
        ∧ ∀ c' ∈ after, ¬ Touches c' := by
  -- the last call decides, so that the induction takes it off first
  induction calls using List.reverseRecOn with
  | nil =>
    refine iff_of_false (by simp) ?_
    rintro ⟨before, c, after, hcalls, -⟩
    simp at hcalls
  | append_singleton calls c ih =>
    rw [List.foldl_append, List.foldl_cons, List.foldl_nil, exists_last_append_singleton, ← ih]
    by_cases hc : Touches c
    · rw [hsets _ _ _ hc]
      simp [hc]
    · rw [hleaves _ _ hc]
      have hno : ¬ Sets c config := fun h => hc (htouches c config h)
      simp [hc, hno]

end Last

/-- The history registers a key with a configuration file, the empty text for none, and no later
call registers or unregisters it. -/
def LastRegister (calls : List Call) (k : SessionKey) (config : String) : Prop :=
  ∃ before session after, calls = before ++ .register session :: after ∧ session.key = k
    ∧ session.configPath.getD "" = config ∧ ∀ c ∈ after, ¬ c.Records k

/-- The history marks a key with a configuration file, and no later call marks or clears it. -/
def LastMark (calls : List Call) (k : SessionKey) (config : String) : Prop :=
  ∃ before record after, calls = before ++ .mark record :: after ∧ record.key = k
    ∧ record.configPath = config ∧ ∀ c ∈ after, ¬ c.Flags k

/-- `c.recordedBy F k = F k` for a call that neither registers nor unregisters `k`. -/
theorem Call.recordedBy_of_not_records {k : SessionKey} (F : SessionKey → Option String) (c : Call)
    (hc : ¬ c.Records k) : c.recordedBy F k = F k := by
  cases c with
  | register session => exact Function.update_of_ne (fun hk => hc hk.symm) _ _
  | unregister key => exact Function.update_of_ne (fun hk => hc hk.symm) _ _
  | mark record => rfl
  | clear key => rfl

/-- `c.recordedBy F k` for a call that registers or unregisters `k` is what it registers. -/
theorem Call.recordedBy_of_records {k : SessionKey} (F : SessionKey → Option String) (c : Call)
    (config : String) (hc : c.Records k) : c.recordedBy F k = some config
      ↔ ∃ session, c = .register session ∧ session.key = k
        ∧ session.configPath.getD "" = config := by
  cases c with
  | register session =>
    have hk : session.key = k := hc
    simp [Call.recordedBy, ← hk]
  | unregister key =>
    have hk : key = k := hc
    simp [Call.recordedBy, hk]
  | mark record => exact hc.elim
  | clear key => exact hc.elim

/-- `c.markedBy M k = M k` for a call that neither marks nor clears `k`. -/
theorem Call.markedBy_of_not_flags {k : SessionKey} (M : SessionKey → Option String) (c : Call)
    (hc : ¬ c.Flags k) : c.markedBy M k = M k := by
  cases c with
  | register session => rfl
  | unregister key => rfl
  | mark record => exact Function.update_of_ne (fun hk => hc hk.symm) _ _
  | clear key => exact Function.update_of_ne (fun hk => hc hk.symm) _ _

/-- `c.markedBy M k` for a call that marks or clears `k` is what it marks. -/
theorem Call.markedBy_of_flags {k : SessionKey} (M : SessionKey → Option String) (c : Call)
    (config : String) (hc : c.Flags k) : c.markedBy M k = some config
      ↔ ∃ record, c = .mark record ∧ record.key = k ∧ record.configPath = config := by
  cases c with
  | register session => exact hc.elim
  | unregister key => exact hc.elim
  | mark record =>
    have hk : record.key = k := hc
    simp [Call.markedBy, ← hk]
  | clear key =>
    have hk : key = k := hc
    simp [Call.markedBy, hk]

/-- **A key is recorded** with the configuration file of the last call that registered it, if no
later one unregistered it: `LastRegister`. -/
theorem recorded_eq_some_iff {calls : List Call} {k : SessionKey} {config : String} :
    recorded calls k = some config ↔ LastRegister calls k config := by
  have htouches : ∀ c config, (∃ session, c = .register session ∧ session.key = k
      ∧ session.configPath.getD "" = config) → Call.Records k c := by
    rintro _ _ ⟨session, rfl, hk, -⟩
    exact hk
  unfold recorded LastRegister
  rw [foldl_eq_some_iff htouches Call.recordedBy_of_not_records Call.recordedBy_of_records]
  constructor
  · rintro ⟨before, _, after, hcalls, ⟨session, rfl, hk, hconfig⟩, hafter⟩
    exact ⟨before, session, after, hcalls, hk, hconfig, hafter⟩
  · rintro ⟨before, session, after, hcalls, hk, hconfig, hafter⟩
    exact ⟨before, _, after, hcalls, ⟨session, rfl, hk, hconfig⟩, hafter⟩

/-- **A key is marked** with the configuration file of the last call that marked it, if no later one
cleared it: `LastMark`. -/
theorem marked_eq_some_iff {calls : List Call} {k : SessionKey} {config : String} :
    marked calls k = some config ↔ LastMark calls k config := by
  have htouches : ∀ c config, (∃ record, c = .mark record ∧ record.key = k
      ∧ record.configPath = config) → Call.Flags k c := by
    rintro _ _ ⟨record, rfl, hk, -⟩
    exact hk
  unfold marked LastMark
  rw [foldl_eq_some_iff htouches Call.markedBy_of_not_flags Call.markedBy_of_flags]
  constructor
  · rintro ⟨before, _, after, hcalls, ⟨record, rfl, hk, hconfig⟩, hafter⟩
    exact ⟨before, record, after, hcalls, hk, hconfig, hafter⟩
  · rintro ⟨before, record, after, hcalls, hk, hconfig, hafter⟩
    exact ⟨before, _, after, hcalls, ⟨record, rfl, hk, hconfig⟩, hafter⟩

/-! ## What is in the stores -/

/-- `sessionOf` reads what was written for a session, whatever values were under its key before. -/
theorem sessionOf_merge (k : SessionKey) (old : Values) (config : String) :
    sessionOf k.text (old.merge (recordValues k.text config)) = .ok (sessionAt k config) := by
  have hnames : mountDirName ≠ configFileName := by decide
  have hdir : Values.get? mountDirName (old.merge (recordValues k.text config)) = some k.text := by
    show Values.get? mountDirName (Values.set _ _ (Values.set _ _ old)) = _
    rw [Values.get?_set_of_ne hnames, Values.get?_set_self]
  have hfile : Values.get? configFileName (old.merge (recordValues k.text config)) = some config :=
    Values.get?_set_self _ _ _
  unfold sessionOf
  rw [hdir, hfile, Option.getD_some, k.ofPath_text]
  rfl

/-- The store has, for the keys of `F`, the records of these configuration files in it, and nothing
else. -/
structure Holding (C : String → Option Values) (F : SessionKey → Option String) : Prop where
  readable : ∀ k config, F k = some config →
    ∃ values, C k.text = some values ∧ sessionOf k.text values = .ok (sessionAt k config)
  only : ∀ key, (C key).isSome → ∃ k : SessionKey, k.text = key ∧ (F k).isSome

namespace Holding

variable {C : String → Option Values} {F : SessionKey → Option String}

/-- The empty store is `Holding` nothing. -/
theorem empty : Holding (fun _ => none) fun _ => none where
  readable k config h := absurd h (by simp)
  only key h := absurd h (by simp)

/-- `Holding` is kept by an update with the values of a record. -/
theorem write (h : Holding C F) (k : SessionKey) (config : String) :
    Holding
      (Function.update C k.text (some (((C k.text).getD []).merge (recordValues k.text config))))
      (Function.update F k (some config)) where
  readable k' config' hk' := by
    by_cases hk : k' = k
    · subst hk
      rw [Function.update_self] at hk' ⊢
      rw [← Option.some.inj hk']
      exact ⟨_, rfl, sessionOf_merge _ _ _⟩
    · rw [Function.update_of_ne hk] at hk'
      rw [Function.update_of_ne (text_ne hk)]
      exact h.readable k' config' hk'
  only key hkey := by
    by_cases hk : key = k.text
    · exact ⟨k, hk.symm, by rw [Function.update_self]; rfl⟩
    · rw [Function.update_of_ne hk] at hkey
      obtain ⟨k', rfl, hk'⟩ := h.only key hkey
      have hne : k' ≠ k := fun he => hk (congrArg SessionKey.text he)
      exact ⟨k', rfl, by rwa [Function.update_of_ne hne]⟩

/-- `Holding` is kept by the removal of a record. -/
theorem delete (h : Holding C F) (k : SessionKey) :
    Holding (Function.update C k.text none) (Function.update F k none) where
  readable k' config' hk' := by
    by_cases hk : k' = k
    · rw [hk, Function.update_self] at hk'
      exact absurd hk' (by simp)
    · rw [Function.update_of_ne hk] at hk'
      rw [Function.update_of_ne (text_ne hk)]
      exact h.readable k' config' hk'
  only key hkey := by
    by_cases hk : key = k.text
    · rw [hk, Function.update_self] at hkey
      exact absurd hkey (by simp)
    · rw [Function.update_of_ne hk] at hkey
      obtain ⟨k', rfl, hk'⟩ := h.only key hkey
      have hne : k' ≠ k := fun he => hk (congrArg SessionKey.text he)
      exact ⟨k', rfl, by rwa [Function.update_of_ne hne]⟩

end Holding

/-! ## Histories -/

section Histories

variable {stores : InstanceStores σ} {OffI OffR : String → Prop}
  {At : (String → Option Values) → (String → Option Values) → σ → Prop}
  {F M : SessionKey → Option String}

/-- The stores have the records of `F` and the marks of `M` in them. -/
def Answer.Has (At : (String → Option Values) → (String → Option Values) → σ → Prop)
    (F M : SessionKey → Option String) (s : σ) : Prop :=
  ∃ I R, Holding I F ∧ Holding R M ∧ At I R s

/-- **One call** succeeds and takes `F` and `M` to `c.recordedBy F` and `c.markedBy M`. -/
theorem AnswerBut.call (h : stores.AnswerBut OffI OffR At) {c : Call} (hc : c.Avoids OffI OffR) :
    Ensures (Answer.Has At F M) (c.act stores)
      (fun _ => Answer.Has At (c.recordedBy F) (c.markedBy M)) fun _ _ => False := by
  rintro s ⟨I, R, hI, hR, hs⟩
  revert s
  show Ensures (At I R) _ _ _
  cases c with
  | register session =>
    -- the other store is not touched, so its contents are carried along as they are
    exact ((h.instances R).write I _ _ hc).weaken
      (fun _ s hs => ⟨_, R, hI.write session.key _, hR, hs⟩) fun _ _ hf => hf
  | unregister key =>
    refine ((h.instances R).delete I key.text hc).bind fun _ => ?_
    exact Ensures.pure fun s hs => ⟨_, R, hI.delete key, hR, hs⟩
  | mark record =>
    exact ((h.remounts I).write R _ _ hc).weaken
      (fun _ s hs => ⟨I, _, hI, hR.write record.key _, hs⟩) fun _ _ hf => hf
  | clear key =>
    refine ((h.remounts I).delete R key.text hc).bind fun _ => ?_
    exact Ensures.pure fun s hs => ⟨I, _, hI, hR.delete key, hs⟩

/-- **Any history** of calls changes what is in the stores as its calls should. Induction on the
calls, with `AnswerBut.call` at each. -/
theorem AnswerBut.history (h : stores.AnswerBut OffI OffR At) {calls : List Call}
    (hcalls : ∀ c ∈ calls, c.Avoids OffI OffR) {s : σ} (hs : Answer.Has At F M s) :
    Answer.Has At (calls.foldl Call.recordedBy F) (calls.foldl Call.markedBy M)
      (Act.runAll (calls.map (·.act stores)) s) := by
  -- each call finds what the calls before it have left, so that this is general in the induction
  induction calls generalizing F M s with
  | nil => exact hs
  | cons c calls ih =>
    have hc := hcalls c List.mem_cons_self
    exact ih (fun c' hc' => hcalls c' (List.mem_cons_of_mem c hc'))
      (Ensures.final (h.call hc).never hs)

/-- Every call avoids no keys at all. -/
theorem Call.avoids_false (c : Call) : c.Avoids (fun _ => False) fun _ => False := by
  cases c <;> exact id

/-- Empty stores have `recorded []` and `marked []` in them. -/
theorem Answer.has_empty {s : σ} (hs : At (fun _ => none) (fun _ => none) s) :
    Answer.Has At (recorded []) (marked []) s :=
  ⟨_, _, .empty, .empty, hs⟩

/-- From empty stores, a history leaves `recorded calls` and `marked calls`. -/
theorem Answer.history (h : stores.Answer At) (calls : List Call) {s : σ}
    (hs : At (fun _ => none) (fun _ => none) s) :
    Answer.Has At (recorded calls) (marked calls) (Act.runAll (calls.map (·.act stores)) s) :=
  h.but.history (fun c _ => c.avoids_false) (Answer.has_empty hs)

end Histories

end InstanceStores

end MountKeeper
