import MountKeeper.Proofs.Act
import MountKeeper.Proofs.PidFiles.Record
import Mathlib.Data.Set.Function
import Mathlib.Data.String.Basic

/-! # PID files as a map

The registry over PID files should be a map from keys to records. It is one from the names of files:
a key is told from another one by the name of its file only.

* `PidFiles.run_holds`: behind any calls, the directory holds what the calls have written, by file
  name.
* `PidFiles.IsMap`: on some keys, the registry does what a map does, whatever the calls.
* `PidFiles.isMap_iff`: that is so exactly when no two of the keys have the same file name;
  `PidFiles.not_isMap_slashAndMark` has two keys of one name.
* `PidFiles.isMap_of_no_underscore`: it is so for keys without underscores. -/

namespace MountKeeper.PidFiles

/-! ## Calls -/

/-- What is registered under a key. -/
structure Registration where
  pid : UInt32
  configPath : Option String
  deriving DecidableEq, Repr

/-- A call of the registry that changes something. -/
inductive Call where
  /-- A session that a process serves is registered. -/
  | register (key : SessionKey) (r : Registration) (state : SessionState)
  /-- A key is unregistered. -/
  | unregister (key : SessionKey)

namespace Call

/-- The key that a call is about. -/
def key : Call → SessionKey
  | register key _ _ => key
  | unregister key => key

/-- What is registered under the key behind a call. -/
def outcome : Call → Option Registration
  | register _ r _ => some r
  | unregister _ => none

/-- What a call does. -/
def act (dir : String) : Call → Act Disk Unit
  | register key r state => (registry dir).register {
      key := key, configPath := r.configPath, owner := .process r.pid, state := state }
  | unregister key => (registry dir).unregister key

end Call

/-- The text of the file of a registration. -/
def textOf (key : SessionKey) (r : Registration) : String :=
  PidRecord.write ⟨r.pid, some key.text, r.configPath⟩

/-- The session that a registration stands for. -/
def sessionFor (key : SessionKey) (r : Registration) : Session :=
  sessionOf key ⟨r.pid, some key.text, PidRecord.heard r.configPath⟩

/-- The registrations behind calls, when there were some before: the last call for a key counts. -/
def registeredFrom : (SessionKey → Option Registration) → List Call →
    SessionKey → Option Registration
  | M, [] => M
  | M, c :: cs => registeredFrom (Function.update M c.key c.outcome) cs

/-- **What was registered and not unregistered since**, by key. -/
def registered (calls : List Call) : SessionKey → Option Registration :=
  registeredFrom (fun _ => none) calls

/-- The files behind calls, when there were some before. -/
def writtenFrom : (String → Option String) → List Call → String → Option String
  | files, [] => files
  | files, c :: cs =>
    writtenFrom (Function.update files (fileName c.key) (c.outcome.map (textOf c.key))) cs

/-- The disk behind calls. -/
def run (dir : String) (calls : List Call) (d : Disk) : Disk :=
  Act.runAll (calls.map (Call.act dir)) d

/-! ## What the directory holds -/

/-- A key whose file can be read and written: the key stands on one line, without blanks around it,
and the file system takes the name of its file and the path to it. -/
structure Storable (dir : String) (key : SessionKey) : Prop where
  one_line : '\n' ∉ key.text.toList
  trimmed : Text.Trimmed key.text.toList
  no_nul : '\x00' ∉ key.text.toList
  name_short : (fileName key).utf8ByteSize ≤ Disk.nameLimit
  path_short : (pathOf dir key).utf8ByteSize ≤ Disk.pathLimit

variable {dir : String} {d : Disk} {base : Place} {files : String → Option String}
  {key : SessionKey} {r : Registration}

namespace Storable

/-- A `Storable` key has a file name that `Disk.Fits` the directory. -/
theorem fits (h : Storable dir key) : Disk.Fits dir (fileName key) where
  toPlain := plain_fileName key
  no_nul := by
    intro hmem
    simp only [fileName, extension, String.toList_append, List.mem_append] at hmem
    rcases hmem with (hmem | hmem) | hmem
    · rcases key.mem_of_mem_fileStem hmem with hmem | hmem
      · exact absurd hmem (by decide)
      · exact h.no_nul hmem
    · exact absurd hmem (by decide)
    · exact absurd hmem (by decide)
  name_short := h.name_short
  path_short := h.path_short

/-- `PidRecord.read (textOf key r)`: the registration that was written for a key is read back, with
the key and the configuration file as they are heard. -/
theorem read_textOf (h : Storable dir key) (r : Registration) :
    PidRecord.read (textOf key r)
      = .ok ⟨r.pid, some key.text, PidRecord.heard r.configPath⟩ :=
  PidRecord.read_write r.pid r.configPath key.text_ne_empty h.one_line h.trimmed

end Storable

/-- `register key r` is `d.writeText (pathOf dir key) (textOf key r)`. -/
theorem runOn_register {d' : Disk} (h : d.writeText (pathOf dir key) (textOf key r) = .ok d')
    (state : SessionState) : ((Call.register key r state).act dir).runOn d = (.ok (), d') := by
  dsimp only [Call.act, registry, register]
  rw [Act.runOn_inContext, Disk.runOn_update (by rw [textOf] at h; exact h)]

/-- `unregister key` is `d.removeFile (pathOf dir key)`. -/
theorem runOn_unregister {d' : Disk} (h : d.removeFile (pathOf dir key) = .ok d') :
    ((Call.unregister key).act dir).runOn d = (.ok (), d') := by
  dsimp only [Call.act, registry, unregister, Act.runOn, ExceptT.run, StateT.run]
  rw [h]

/-- `unregister key` where there is no file is no failure, and changes nothing. -/
theorem runOn_unregister_of_notFound (h : d.removeFile (pathOf dir key) = .error .notFound) :
    ((Call.unregister key).act dir).runOn d = (.ok (), d) := by
  dsimp only [Call.act, registry, unregister, Act.runOn, ExceptT.run, StateT.run]
  rw [h]

/-- **One call** succeeds, and updates `files` at `fileName c.key`: with the text of the
registration, or with nothing. -/
theorem runOn_act (h : d.Holds dir base files) (c : Call) (hc : Storable dir c.key) :
    ∃ d', (c.act dir).runOn d = (.ok (), d') ∧
      d'.Holds dir base (Function.update files (fileName c.key) (c.outcome.map (textOf c.key))) := by
  cases c with
  | register key r state =>
    obtain ⟨d', hwrite, hholds⟩ := h.writeText hc.fits (textOf key r)
    exact ⟨d', runOn_register hwrite state, hholds⟩
  | unregister key =>
    rcases h.removeFile hc.fits with ⟨d', hremove, hholds⟩ | ⟨hremove, hnone⟩
    · exact ⟨d', runOn_unregister hremove, hholds⟩
    · -- where there was no file, there is none now
      refine ⟨d, runOn_unregister_of_notFound hremove, ?_⟩
      rw [Call.outcome, Option.map_none, Function.update_eq_self_iff.2 hnone.symm]
      exact h

/-- **Any calls**: behind them the directory holds `writtenFrom files calls`, by file name.
Induction on `calls`, with `runOn_act` at each step. -/
theorem run_holds (h : d.Holds dir base files) {calls : List Call}
    (hcalls : ∀ c ∈ calls, Storable dir c.key) :
    (run dir calls d).Holds dir base (writtenFrom files calls) := by
  induction calls generalizing d files with
  | nil => exact h
  | cons c calls ih =>
    obtain ⟨d', hact, hholds⟩ := runOn_act h c (hcalls c List.mem_cons_self)
    have hrun : run dir (c :: calls) d = run dir calls d' := by
      show Act.runAll _ ((c.act dir).runOn d).2 = _
      rw [hact]
      rfl
    rw [hrun]
    exact ih hholds fun c' hc' => hcalls c' (List.mem_cons_of_mem c hc')

/-! ## What is looked up and listed -/

/-- A key without a file has no record: `lookup key = .ok none`. -/
theorem runOn_lookup_of_none (h : d.Holds dir base files) (hkey : Storable dir key)
    (hfile : files (fileName key) = none) : ((registry dir).lookup key).runOn d = (.ok none, d) := by
  show (lookup dir d key, d) = _
  unfold lookup
  dsimp only
  rw [pathOf, h.pathExists hkey.fits, hfile]
  rfl

/-- The record in a file is the one that was written there, for whichever key: `writer` has the same
file name as `key`. -/
theorem readRecord_of_file (h : d.Holds dir base files) (hkey : Storable dir key)
    {writer : SessionKey} (hwriter : Storable dir writer)
    (hfile : files (fileName key) = some (textOf writer r)) :
    readRecord d (pathOf dir key)
      = .ok ⟨r.pid, some writer.text, PidRecord.heard r.configPath⟩ := by
  refine readRecord_of_find ?_ (hwriter.read_textOf r)
  rw [pathOf, h.find hkey.fits, hfile]

/-- A key whose file was written for `writer` has the session `sessionFor key r`, since the key of
the file is not compared. -/
theorem runOn_lookup_of_some (h : d.Holds dir base files) (hkey : Storable dir key)
    {writer : SessionKey} (hwriter : Storable dir writer)
    (hfile : files (fileName key) = some (textOf writer r)) :
    ((registry dir).lookup key).runOn d = (.ok (some (sessionFor key r)), d) := by
  -- whatever key the file says, the session is one of the key that was looked up
  rw [runOn_lookup_of_readRecord (readRecord_of_file h hkey hwriter hfile)]
  rfl

/-- The session in the file of a key is `sessionFor key r`. -/
theorem sessionIn?_fileName (h : d.Holds dir base files) (hkey : Storable dir key)
    (hfile : files (fileName key) = some (textOf key r)) :
    sessionIn? dir d (fileName key) = some (sessionFor key r) :=
  sessionIn?_of_readRecord (readRecord_of_file h hkey hkey hfile) rfl

/-! ## Files and registrations -/

/-- The files are those of the registrations, whose keys are among `S`. -/
structure Mirrors (S : Set SessionKey) (files : String → Option String)
    (M : SessionKey → Option Registration) : Prop where
  /-- The file of a key says what is registered under it. -/
  file : ∀ k ∈ S, files (fileName k) = (M k).map (textOf k)
  /-- Every file is that of a key with a registration. -/
  owner : ∀ name text, files name = some text → ∃ k ∈ S, name = fileName k ∧ (M k).isSome
  /-- Only keys of `S` have a registration. -/
  among : ∀ k, (M k).isSome → k ∈ S

namespace Mirrors

variable {S : Set SessionKey} {M : SessionKey → Option Registration}

/-- The empty directory mirrors the empty map. -/
theorem empty (S : Set SessionKey) : Mirrors S (fun _ => none) fun _ => none :=
  ⟨fun _ _ => rfl, fun _ _ h => absurd h (by simp), fun _ h => absurd h (by simp)⟩

/-- **One call**: where `fileName` is injective on `S`, an update of `files` at the file of a key
mirrors one of `M` at the key. -/
theorem update (hinj : Set.InjOn fileName S) (h : Mirrors S files M) (hkey : key ∈ S)
    (outcome : Option Registration) :
    Mirrors S (Function.update files (fileName key) (outcome.map (textOf key)))
      (Function.update M key outcome) := by
  -- a file name other than that of `key` is that of another key, and the other way round
  refine ⟨fun k hk => ?_, fun name text htext => ?_, fun k hsome => ?_⟩
  · by_cases heq : k = key
    · subst heq
      rw [Function.update_self, Function.update_self]
    · have hname : fileName k ≠ fileName key := fun he => heq (hinj hk hkey he)
      rw [Function.update_of_ne hname, Function.update_of_ne heq, h.file k hk]
  · by_cases heq : name = fileName key
    · subst heq
      rw [Function.update_self] at htext
      refine ⟨key, hkey, rfl, ?_⟩
      rw [Function.update_self, ← Option.isSome_map (f := textOf key), htext]
      rfl
    · rw [Function.update_of_ne heq] at htext
      obtain ⟨k, hk, rfl, hsome⟩ := h.owner name text htext
      refine ⟨k, hk, rfl, ?_⟩
      rwa [Function.update_of_ne (fun he => heq (congrArg fileName he))]
  · by_cases heq : k = key
    · rwa [heq]
    · rw [Function.update_of_ne heq] at hsome
      exact h.among k hsome

/-- **Any calls**: `writtenFrom files cs` mirrors `registeredFrom M cs`. Induction on `cs`, with
`update` at each step. -/
theorem calls (hinj : Set.InjOn fileName S) {cs : List Call} (hcs : ∀ c ∈ cs, c.key ∈ S)
    (h : Mirrors S files M) : Mirrors S (writtenFrom files cs) (registeredFrom M cs) := by
  induction cs generalizing files M with
  | nil => exact h
  | cons c cs ih =>
    exact ih (fun c' hc' => hcs c' (List.mem_cons_of_mem c hc'))
      (h.update hinj (hcs c List.mem_cons_self) c.outcome)

end Mirrors

/-! ## Lists -/

/-- The order of a list of sessions, by the text of the key, is transitive. -/
theorem keyLe_trans (a b c : Session) (h : keyLe a b = true) (h' : keyLe b c = true) :
    keyLe a c = true := by
  simp only [keyLe, decide_eq_true_eq] at h h' ⊢
  exact le_trans h h'

/-- The order of a list of sessions, by the text of the key, is total. -/
theorem keyLe_total (a b : Session) : (keyLe a b || keyLe b a) = true := by
  simp only [keyLe, Bool.or_eq_true, decide_eq_true_eq]
  exact le_total _ _

/-- A list of sessions with different keys is sorted strictly by the text of the key. -/
theorem pairwise_lt_mergeSort {L : List Session} (h : L.Pairwise fun a b => a.key ≠ b.key) :
    (L.mergeSort keyLe).Pairwise fun a b => a.key.text < b.key.text := by
  have hsorted := List.pairwise_mergeSort keyLe_trans keyLe_total L
  have hdifferent : (L.mergeSort keyLe).Pairwise fun a b => a.key ≠ b.key :=
    ((List.mergeSort_perm L keyLe).pairwise_iff Ne.symm).2 h
  refine (hsorted.and hdifferent).imp ?_
  rintro a b ⟨hle, hne⟩
  exact lt_of_le_of_ne (of_decide_eq_true hle) fun he => hne (SessionKey.ext he)

section Listing

variable {S : Set SessionKey} {M : SessionKey → Option Registration}

/-- Each name in a directory that mirrors `M` is the file of a key with a registration, and its
session is that of the key. -/
theorem exists_sessionIn? (h : d.Holds dir base files) (hS : ∀ k ∈ S, Storable dir k)
    (hM : Mirrors S files M) {name : String} (hname : name ∈ d.namesAt base) :
    ∃ k ∈ S, ∃ r, M k = some r ∧ name = fileName k ∧
      sessionIn? dir d name = some (sessionFor k r) := by
  obtain ⟨text, htext⟩ := Option.isSome_iff_exists.1 (h.mem_namesAt_iff.1 hname)
  obtain ⟨k, hk, rfl, hsome⟩ := hM.owner name text htext
  obtain ⟨r, hr⟩ := Option.isSome_iff_exists.1 hsome
  have hfile : files (fileName k) = some (textOf k r) := by
    rw [hM.file k hk, hr]
    rfl
  exact ⟨k, hk, r, hr, rfl, sessionIn?_fileName h (hS k hk) hfile⟩

/-- **The list** has the sessions `sessionFor k r` with `M k = some r` and no others, strictly in
the order of their keys. -/
theorem runOn_listAll (h : d.Holds dir base files) (hS : ∀ k ∈ S, Storable dir k)
    (hM : Mirrors S files M) :
    ∃ L, ((registry dir).listAll).runOn d = (.ok L, d) ∧
      (L.Pairwise fun a b => a.key.text < b.key.text) ∧
      ∀ s, s ∈ L ↔ ∃ k r, M k = some r ∧ s = sessionFor k r := by
  refine ⟨((d.namesAt base).filterMap (sessionIn? dir d)).mergeSort keyLe, ?_, ?_, fun s => ?_⟩
  · show (sessions dir d, d) = _
    unfold sessions
    rw [h.list]
  · refine pairwise_lt_mergeSort (List.pairwise_filterMap.2 ?_)
    -- different files are those of different keys
    refine h.nodup.imp_of_mem fun {name name'} hname hname' hne s hs s' hs' => ?_
    obtain ⟨k, -, r, -, rfl, hsession⟩ := exists_sessionIn? h hS hM hname
    obtain ⟨k', -, r', -, rfl, hsession'⟩ := exists_sessionIn? h hS hM hname'
    rw [hsession] at hs
    rw [hsession'] at hs'
    rw [← Option.some.inj hs, ← Option.some.inj hs']
    exact fun he => hne (congrArg fileName he)
  · rw [List.mem_mergeSort, List.mem_filterMap]
    constructor
    · rintro ⟨name, hname, hs⟩
      obtain ⟨k, -, r, hr, rfl, hsession⟩ := exists_sessionIn? h hS hM hname
      rw [hsession] at hs
      exact ⟨k, r, hr, (Option.some.inj hs).symm⟩
    · rintro ⟨k, r, hr, rfl⟩
      have hk : k ∈ S := hM.among k (by rw [hr]; rfl)
      have hfile : files (fileName k) = some (textOf k r) := by
        rw [hM.file k hk, hr]
        rfl
      refine ⟨fileName k, h.mem_namesAt_iff.2 ?_, sessionIn?_fileName h (hS k hk) hfile⟩
      rw [hfile]
      rfl

end Listing

/-! ## The law of a map -/

/-- **The law of a map**, behind some calls: every further call succeeds and changes nothing about
other keys; a lookup answers with the last registration of the key, if it was not unregistered
since; the list has one session for each registration, by key. -/
structure Lawful (dir : String) (d : Disk) (S : Set SessionKey) (calls : List Call) : Prop where
  succeeds : ∀ c : Call, c.key ∈ S → ((c.act dir).runOn (run dir calls d)).1 = .ok ()
  lookup : ∀ k ∈ S, ((registry dir).lookup k).runOn (run dir calls d)
    = (.ok ((registered calls k).map (sessionFor k)), run dir calls d)
  listAll : ∃ L, ((registry dir).listAll).runOn (run dir calls d) = (.ok L, run dir calls d) ∧
    (L.Pairwise fun a b => a.key.text < b.key.text) ∧
    ∀ s, s ∈ L ↔ ∃ k r, registered calls k = some r ∧ s = sessionFor k r
  lookup_frame : ∀ c : Call, c.key ∈ S → ∀ k ∈ S, k ≠ c.key →
    (((registry dir).lookup k).runOn (run dir (calls ++ [c]) d)).1
      = (((registry dir).lookup k).runOn (run dir calls d)).1
  listAll_frame : ∀ c : Call, c.key ∈ S → ∃ L L',
    (((registry dir).listAll).runOn (run dir calls d)).1 = .ok L ∧
    (((registry dir).listAll).runOn (run dir (calls ++ [c]) d)).1 = .ok L' ∧
    ∀ s : Session, s.key ≠ c.key → (s ∈ L' ↔ s ∈ L)

/-- On the keys of `S`, the registry is a map, whatever is called. -/
def IsMap (dir : String) (d : Disk) (S : Set SessionKey) : Prop :=
  ∀ calls : List Call, (∀ c ∈ calls, c.key ∈ S) → Lawful dir d S calls

/-- `registeredFrom M (calls ++ [c])`: one more call updates the map at its key. -/
theorem registeredFrom_append (M : SessionKey → Option Registration) (calls : List Call)
    (c : Call) : registeredFrom M (calls ++ [c])
      = Function.update (registeredFrom M calls) c.key c.outcome := by
  induction calls generalizing M with
  | nil => rfl
  | cons c' calls ih => exact ih _

/-- `registered (calls ++ [c]) k` for `k ≠ c.key`: one call more changes the registration of its key
only. -/
theorem registered_append_of_ne {c : Call} {k : SessionKey} (h : k ≠ c.key) (calls : List Call) :
    registered (calls ++ [c]) k = registered calls k := by
  rw [registered, registeredFrom_append, Function.update_of_ne h]
  rfl

/-- The calls and one more are about keys of `S`. -/
theorem key_mem_append {S : Set SessionKey} {calls : List Call} (h : ∀ c ∈ calls, c.key ∈ S)
    {c : Call} (hc : c.key ∈ S) : ∀ c' ∈ calls ++ [c], c'.key ∈ S := by
  intro c' hc'
  rcases List.mem_append.1 hc' with hc' | hc'
  · exact h c' hc'
  · rw [List.mem_singleton.1 hc']
    exact hc

section Law

variable {S : Set SessionKey} {calls : List Call}

/-- `lookup k` behind any calls is `registered calls k`, where keys have different file names. -/
theorem runOn_lookup_run (hd : d.Holds dir base fun _ => none) (hS : ∀ k ∈ S, Storable dir k)
    (hinj : Set.InjOn fileName S) (hcalls : ∀ c ∈ calls, c.key ∈ S) {k : SessionKey}
    (hk : k ∈ S) :
    ((registry dir).lookup k).runOn (run dir calls d)
      = (.ok ((registered calls k).map (sessionFor k)), run dir calls d) := by
  have hholds := run_holds hd fun c hc => hS c.key (hcalls c hc)
  have hfile := (Mirrors.calls hinj hcalls (Mirrors.empty S)).file k hk
  unfold registered
  cases hr : registeredFrom (fun _ => none) calls k with
  | none =>
    rw [hr] at hfile
    rw [runOn_lookup_of_none hholds (hS k hk) hfile]
    rfl
  | some r =>
    rw [hr] at hfile
    rw [runOn_lookup_of_some hholds (hS k hk) (hS k hk) hfile]
    rfl

/-- Where keys have different file names, the list has one session for each registration. -/
theorem runOn_listAll_run (hd : d.Holds dir base fun _ => none) (hS : ∀ k ∈ S, Storable dir k)
    (hinj : Set.InjOn fileName S) (hcalls : ∀ c ∈ calls, c.key ∈ S) :
    ∃ L, ((registry dir).listAll).runOn (run dir calls d) = (.ok L, run dir calls d) ∧
      (L.Pairwise fun a b => a.key.text < b.key.text) ∧
      ∀ s, s ∈ L ↔ ∃ k r, registered calls k = some r ∧ s = sessionFor k r :=
  runOn_listAll (run_holds hd fun c hc => hS c.key (hcalls c hc)) hS
    (Mirrors.calls hinj hcalls (Mirrors.empty S))

/-- Where keys have different file names, the registry is a map. -/
theorem isMap_of_injOn (hd : d.Holds dir base fun _ => none) (hS : ∀ k ∈ S, Storable dir k)
    (hinj : Set.InjOn fileName S) : IsMap dir d S := by
  intro calls hcalls
  constructor
  case succeeds =>
    intro c hc
    have hholds := run_holds hd fun c hc => hS c.key (hcalls c hc)
    obtain ⟨d', hact, -⟩ := runOn_act hholds c (hS c.key hc)
    rw [hact]
  case lookup => exact fun k hk => runOn_lookup_run hd hS hinj hcalls hk
  case listAll => exact runOn_listAll_run hd hS hinj hcalls
  case lookup_frame =>
    intro c hc k hk hne
    rw [runOn_lookup_run hd hS hinj hcalls hk,
      runOn_lookup_run hd hS hinj (key_mem_append hcalls hc) hk, registered_append_of_ne hne]
  case listAll_frame =>
    intro c hc
    obtain ⟨L, hL, -, hmem⟩ := runOn_listAll_run hd hS hinj hcalls
    obtain ⟨L', hL', -, hmem'⟩ := runOn_listAll_run hd hS hinj (key_mem_append hcalls hc)
    refine ⟨L, L', congrArg Prod.fst hL, congrArg Prod.fst hL', fun s hs => ?_⟩
    rw [hmem, hmem']
    -- both lists are about the same registration of the key of `s`
    have hsame : ∀ k r, s = sessionFor k r →
        registered (calls ++ [c]) k = registered calls k := by
      rintro k r rfl
      exact registered_append_of_ne hs calls
    constructor
    · rintro ⟨k, r, hr, rfl⟩
      exact ⟨k, r, hsame k r rfl ▸ hr, rfl⟩
    · rintro ⟨k, r, hr, rfl⟩
      exact ⟨k, r, (hsame k r rfl).trans hr, rfl⟩

/-- Where the registry is a map, keys have different file names: what is registered under one of two
keys with one file would be found under the other. -/
theorem injOn_of_isMap (hd : d.Holds dir base fun _ => none) (hS : ∀ k ∈ S, Storable dir k)
    (hmap : IsMap dir d S) : Set.InjOn fileName S := by
  intro k hk k' hk' hname
  by_contra hne
  let r : Registration := ⟨1, none⟩
  have hcalls : ∀ c ∈ [Call.register k r .starting], c.key ∈ S := by
    intro c hc
    rw [List.mem_singleton.1 hc]
    exact hk
  have hholds := run_holds hd fun c hc => hS c.key (hcalls c hc)
  -- the file that is read for `k'` is the one that was written for `k`
  have hfile : writtenFrom (fun _ => none) [Call.register k r .starting] (fileName k')
      = some (textOf k r) := by
    rw [← hname]
    show Function.update (fun _ => none) (fileName k) (some (textOf k r)) (fileName k) = _
    rw [Function.update_self]
  have hfound := runOn_lookup_of_some hholds (hS k' hk') (hS k hk) hfile
  have hnone : registered [Call.register k r .starting] k' = none := by
    show Function.update (fun _ => none) k (some r) k' = none
    rw [Function.update_of_ne (Ne.symm hne)]
  rw [(hmap _ hcalls).lookup k' hk', hnone] at hfound
  exact absurd (congrArg Prod.fst hfound) (by simp)

/-- On keys without underscores, the registry is a map. -/
theorem isMap_of_no_underscore (hd : d.Holds dir base fun _ => none)
    (hS : ∀ k ∈ S, Storable dir k) (hmark : ∀ k ∈ S, '_' ∉ k.text.toList) : IsMap dir d S :=
  isMap_of_injOn hd hS fun _ hk _ hk' hname =>
    SessionKey.fileStem_injOn '_' (hmark _ hk) (hmark _ hk') (fileName_eq_iff.1 hname)

/-- **The exact condition.** On a directory that is empty, the registry is a map on some keys exactly
when no two of them have the same file name. -/
theorem isMap_iff (hd : d.list dir = .ok []) (hS : ∀ k ∈ S, Storable dir k) :
    IsMap dir d S ↔ Set.InjOn fileName S := by
  obtain ⟨base, hempty⟩ := Disk.holds_of_list_eq_nil hd
  exact ⟨injOn_of_isMap hempty hS, isMap_of_injOn hempty hS⟩

end Law

/-! ### Two keys with one file -/

/-- A disk with an empty directory for records. -/
def emptyWork : Disk := { nodes := [(["work"], .directory)] }

/-- Two keys that differ where one has a slash and the other the mark. -/
def slashAndMark : Set SessionKey := {.ofPath "/mnt/a/b", .ofPath "/mnt/a_b"}

/-- `Storable` in terms of characters and bytes: the key line is read back as it is, and the name
and the path are within the limits of the disk. -/
theorem storable_iff : Storable dir key ↔
    '\n' ∉ key.text.toList ∧ Text.Trimmed key.text.toList ∧ '\x00' ∉ key.text.toList ∧
      (fileName key).utf8ByteSize ≤ Disk.nameLimit ∧
      (pathOf dir key).utf8ByteSize ≤ Disk.pathLimit :=
  ⟨fun h => ⟨h.one_line, h.trimmed, h.no_nul, h.name_short, h.path_short⟩,
    fun ⟨h1, h2, h3, h4, h5⟩ => ⟨h1, h2, h3, h4, h5⟩⟩

instance (dir : String) (key : SessionKey) : Decidable (Storable dir key) :=
  decidable_of_iff _ storable_iff.symm

/-- The keys of `slashAndMark` are `Storable` in `/work`, so that it is the shared file name alone
that sets them apart from a map. -/
theorem storable_slashAndMark : ∀ k ∈ slashAndMark, Storable "/work" k := by
  rintro k (rfl | rfl) <;> decide +kernel

/-- The condition, for these two keys. -/
theorem isMap_iff_slashAndMark :
    emptyWork.list "/work" = .ok [] ∧ (∀ k ∈ slashAndMark, Storable "/work" k) ∧
    (IsMap "/work" emptyWork slashAndMark ↔ Set.InjOn fileName slashAndMark) :=
  ⟨rfl, storable_slashAndMark, isMap_iff rfl storable_slashAndMark⟩

/-- **The registry is no map** on these keys: behind one registration, a lookup of the other key
finds it. -/
theorem not_isMap_slashAndMark :
    (∀ k ∈ slashAndMark, Storable "/work" k) ∧
    (((registry "/work").lookup (.ofPath "/mnt/a/b")).runOn (run "/work"
      [.register (.ofPath "/mnt/a_b") ⟨7, none⟩ .starting] emptyWork)).1
        = .ok (some ⟨.ofPath "/mnt/a/b", none, .process 7, .running⟩) ∧
    registered [.register (.ofPath "/mnt/a_b") ⟨7, none⟩ .starting] (.ofPath "/mnt/a/b") = none ∧
    ¬ IsMap "/work" emptyWork slashAndMark := by
  refine ⟨storable_slashAndMark, by decide +kernel, by decide +kernel, fun hmap => ?_⟩
  have hlist : emptyWork.list "/work" = .ok [] := rfl
  obtain ⟨base, hempty⟩ := Disk.holds_of_list_eq_nil hlist
  have hinj := injOn_of_isMap hempty storable_slashAndMark hmap
  have hname : fileName (.ofPath "/mnt/a/b") = fileName (.ofPath "/mnt/a_b") := by decide +kernel
  exact absurd (hinj (.inl rfl) (.inr rfl) hname) (by decide +kernel)

end MountKeeper.PidFiles
