import MountKeeper.Proofs.Instances.Boot
import MountKeeper.Proofs.Rehearsal.Stores

/-! # What the instance stores answer

Two stores stand for two maps from keys to configuration files, the recorded sessions and the marks.
Whatever is answered from the stores, about one key or in a list, is what those maps say. Entries that
are no records do not show in it.

* `InstanceStores.Represents stores OffI OffR F M s`: on the host `s`, everything is answered as the two
  maps `F` and `M` tell it.
* `ensures_readFrom_text`, `InstanceStores.Serve.cleared` and `InstanceStores.Serve.spared`: the single
  answers; those in lists are in `InstanceStores.Listed` and `ensures_sessionsIn`.
* `InstanceStores.Serve.represents_history`: behind any history of calls, the stores represent what
  was `recorded` and `marked` by it. -/

namespace MountKeeper

open Act (Ensures)
open Arrangement (sessionAt)

variable {σ : Type}

namespace InstanceStores

/-- The store that a call is not about. -/
def Call.other (stores : InstanceStores σ) : Call → KeyStore σ
  | register _ => stores.remounts
  | unregister _ => stores.remounts
  | mark _ => stores.instances
  | clear _ => stores.instances

/-- The store that a call is not about has the entries in it that it had before. -/
def Call.Leaves (At : (String → Option Entry) → (String → Option Entry) → σ → Prop)
    (I R : String → Option Entry) : Call → σ → Prop
  | register _, s => ∃ I', At I' R s
  | unregister _, s => ∃ I', At I' R s
  | mark _, s => ∃ R', At I R' s
  | clear _, s => ∃ R', At I R' s

/-- **What is answered** when the stores have the records of `F` and the marks of `M` in them, and
beside those nothing but entries under the keys of `OffI` and of `OffR` that are no records. -/
structure Represents (stores : InstanceStores σ) (OffI OffR : String → Prop)
    (F M : SessionKey → Option String) (s : σ) : Prop where
  /-- A path has a session exactly if its key is recorded. -/
  lookup : ∀ path, ¬ OffI (SessionKey.ofPath path).text →
    ((stores.registry.lookup (.ofPath path)).runOn s).1
      = .ok ((F (.ofPath path)).map (sessionAt (.ofPath path)))
  /-- The sessions are listed, those of the recorded keys and each of them once. -/
  listAll : ∃ sessions, (stores.registry.listAll.runOn s).1 = .ok sessions ∧
    (sessions.Pairwise fun x y => x.key ≠ y.key) ∧
    ∀ x, x ∈ sessions ↔ ∃ k config, F k = some config ∧ x = sessionAt k config
  /-- The list for the boot service goes by key. It has an instance for every key that is recorded or
  marked and no other, which is to be brought back exactly if the key is marked. -/
  boot : ∃ is, (stores.boot.list.runOn s).1 = .ok is ∧ Listed F M is ∧
    (∀ k, (∃ i ∈ is, i.session.key = k) ↔ (F k).isSome ∨ (M k).isSome) ∧
    ∀ i ∈ is, i.remount = (M i.session.key).isSome
  /-- To clear a mark is answered with whether there is one. -/
  clear : ∀ k : SessionKey, ¬ OffR k.text → ((stores.flags.clear k).runOn s).1 = .ok (M k).isSome
  /-- A call succeeds, and what the store that it is not about answers is what it answered before. -/
  call : ∀ c : Call, c.Avoids OffI OffR → ∃ s', (c.act stores).runOn s = (.ok (), s') ∧
    ∀ key, (((c.other stores).read key).runOn s').1 = (((c.other stores).read key).runOn s).1

section Answers

variable {stores : InstanceStores σ}

/-! ## Single answers -/

/-- Where `read` answers with what the store has under the text of a key, `readFrom` answers with the
session of the record there, and fails in no other way than `read` does. -/
theorem ensures_readFrom_text {store : KeyStore σ} {P : σ → Prop} {E : Failure → σ → Prop}
    {C : String → Option Values} {F : SessionKey → Option String} (hC : Holding C F) {k : SessionKey}
    (hread : Ensures P (store.read k.text) (fun v s => v = C k.text ∧ P s) E) :
    Ensures P (readFrom store k.text) (fun found s => found = (F k).map (sessionAt k) ∧ P s) E := by
  refine hread.bind fun v => Ensures.of_fact ?_
  rintro rfl
  have hunder := hC.sessionUnder_text k
  cases hv : C k.text with
  | none =>
    rw [sessionUnder, hv, Option.bind_none] at hunder
    exact Ensures.pure fun s hs => ⟨hunder, hs⟩
  | some values =>
    -- values stand under a key only for a registration, and then they are a record that can be
    -- read
    obtain ⟨k', htext, hsome⟩ := hC.only k.text (by rw [hv]; rfl)
    rw [SessionKey.ext htext] at hsome
    obtain ⟨config, hconfig⟩ := Option.isSome_iff_exists.1 hsome
    obtain ⟨values', hvalues, hread⟩ := hC.readable k config hconfig
    obtain rfl : values = values' := Option.some.inj (hv.symm.trans hvalues)
    rw [hconfig]
    refine Ensures.map (Ensures.ofExcept (fun x hx s hs => ?_) fun f hf => ?_)
    · rw [← Except.ok.inj (hread.symm.trans hx)]
      exact ⟨rfl, hs⟩
    · rw [hread] at hf
      exact absurd hf (by simp)

variable {At : (String → Option Entry) → (String → Option Entry) → σ → Prop}
  {extraI extraR : String → Option Entry} {I R : String → Option Values}
  {F M : SessionKey → Option String} {s : σ}

/-- To clear a mark is answered with whether there is one. -/
theorem Serve.cleared (h : stores.Serve At) (hR : Holding R M) (hs : AtBeside At extraI extraR I R s)
    {k : SessionKey} (hk : ¬ (extraR k.text).isSome) :
    ((stores.flags.clear k).runOn s).1 = .ok (M k).isSome := by
  have hnone := Option.not_isSome_iff_eq_none.1 hk
  obtain ⟨existed, s', hrun, hexisted, -⟩ :=
    ((h.remounts (beside extraI I)).delete (beside extraR R) k.text (beside_ne_error hnone)).exists_ok
      hs.2
  have hsome : (R k.text).isSome = (M k).isSome := by
    rw [Bool.eq_iff_iff]
    constructor
    · intro hk'
      obtain ⟨k', htext, hk'⟩ := hR.only k.text hk'
      rwa [SessionKey.ext htext] at hk'
    · intro hk'
      obtain ⟨config, hconfig⟩ := Option.isSome_iff_exists.1 hk'
      obtain ⟨values, hvalues, -⟩ := hR.readable k config hconfig
      rw [hvalues]
      rfl
  rw [beside_of_none hnone, Option.isSome_map, hsome] at hexisted
  rw [← hexisted]
  exact congrArg Prod.fst hrun

/-- A call leaves the entries of the store that it is not about. -/
theorem Serve.leaves (h : stores.Serve At) (hs : AtBeside At extraI extraR I R s) {c : Call}
    (hc : c.Avoids (fun key => (extraI key).isSome) fun key => (extraR key).isSome) :
    c.Leaves At (beside extraI I) (beside extraR R) ((c.act stores).runOn s).2 := by
  have hentries := hs.2
  cases c with
  | register session => exact (ensures_write (h.instances _) hc _).final hentries
  | unregister key =>
    have hdelete := ensures_delete (C := I) (h.instances (beside extraR R)) hc
    exact (hdelete.bind fun _ => Ensures.pure fun _ hs => hs).final hentries
  | mark record => exact (ensures_write (h.remounts _) hc _).final hentries
  | clear key =>
    have hdelete := ensures_delete (C := R) (h.remounts (beside extraI I)) hc
    exact (hdelete.bind fun _ => Ensures.pure fun _ hs => hs).final hentries

/-- A call leaves what the store that it is not about answers. -/
theorem Serve.spared (h : stores.Serve At) (hs : AtBeside At extraI extraR I R s) {c : Call}
    (hc : c.Avoids (fun key => (extraI key).isSome) fun key => (extraR key).isSome) (key : String) :
    (((c.other stores).read key).runOn ((c.act stores).runOn s).2).1
      = (((c.other stores).read key).runOn s).1 := by
  have hleft := h.leaves hs hc
  have hentries := hs.2
  cases c with
  | register _ | unregister _ =>
    obtain ⟨I', hleft⟩ := hleft
    exact ((h.remounts I').runOn_read hleft key).trans ((h.remounts _).runOn_read hentries key).symm
  | mark _ | clear _ =>
    obtain ⟨R', hleft⟩ := hleft
    exact ((h.instances R').runOn_read hleft key).trans
      ((h.instances _).runOn_read hentries key).symm

/-! ## All answers -/

/-- Everything is answered from the records, whatever entries are beside them. -/
theorem Serve.represents_of_has (h : stores.Serve At)
    (hextraI : ∀ key e, extraI key = some e → e.NoRecord)
    (hextraR : ∀ key e, extraR key = some e → e.NoRecord)
    (hs : Answer.Has (AtBeside At extraI extraR) F M s) :
    Represents stores (fun key => (extraI key).isSome) (fun key => (extraR key).isSome) F M s := by
  have hbut := h.answerBut hextraI hextraR
  obtain ⟨I, R, hI, hR, hs⟩ := hs
  exact {
    lookup := by
      intro path hpath
      obtain ⟨found, s', hrun, rfl, -⟩ :=
        (ensures_readFrom_text hI ((hbut.instances R).read I _ hpath)).exists_ok hs
      exact congrArg Prod.fst hrun
    listAll := by
      obtain ⟨sessions, s', hrun, ⟨hkeys, hmem⟩, -⟩ :=
        (ensures_sessionsIn (hbut.instances R) hI).exists_ok hs
      exact ⟨sessions, congrArg Prod.fst hrun, hkeys, hmem⟩
    boot := by
      obtain ⟨is, s', hrun, hlisted, -⟩ := (hbut.list hI hR).exists_ok hs
      exact ⟨is, congrArg Prod.fst hrun, hlisted, hlisted.exists_key_iff,
        fun i => hlisted.remount_eq⟩
    clear := fun _ hk => h.cleared hR hs hk
    call := by
      intro c hc
      obtain ⟨_, s', hrun, -⟩ := (hbut.call (F := F) (M := M) hc).exists_ok ⟨I, R, hI, hR, hs⟩
      refine ⟨s', hrun, fun key => ?_⟩
      have hspared := h.spared hs hc key
      rw [hrun] at hspared
      exact hspared }

/-- Behind calls that leave the entries alone, everything is answered from the records, whatever
entries are beside them. -/
theorem Serve.represents_append (h : stores.Serve At)
    (hextraI : ∀ key e, extraI key = some e → e.NoRecord)
    (hextraR : ∀ key e, extraR key = some e → e.NoRecord) {before calls : List Call}
    (hs : Answer.Has (AtBeside At extraI extraR) (recorded before) (marked before) s)
    (hcalls : ∀ c ∈ calls, c.Avoids (fun key => (extraI key).isSome) fun key => (extraR key).isSome) :
    Represents stores (fun key => (extraI key).isSome) (fun key => (extraR key).isSome)
      (recorded (before ++ calls)) (marked (before ++ calls))
      (Act.runAll (calls.map (·.act stores)) s) := by
  have hhas := (h.answerBut hextraI hextraR).history hcalls hs
  unfold recorded marked
  rw [List.foldl_append, List.foldl_append]
  exact h.represents_of_has hextraI hextraR hhas

/-- **The answers of the stores** behind any history of calls are told by what was registered and not
unregistered since and by what was marked and not cleared since. Entries that are no records may come
up under keys of their own: they change nothing for the other keys, nor what becomes of those. -/
theorem Serve.represents_history (h : stores.Serve At) (hs : At (fun _ => none) (fun _ => none) s)
    (calls : List Call) :
    (∀ k config, recorded calls k = some config ↔ LastRegister calls k config) ∧
    (∀ k config, marked calls k = some config ↔ LastMark calls k config) ∧
    Represents stores (fun _ => False) (fun _ => False) (recorded calls) (marked calls)
      (Act.runAll (calls.map (·.act stores)) s) ∧
    ∀ extraI extraR : String → Option Entry,
      (∀ key e, extraI key = some e → e.NoRecord) → (∀ key e, extraR key = some e → e.NoRecord) →
      ∀ t, Answer.Has (AtBeside At extraI extraR) (recorded calls) (marked calls) t →
      ∀ more : List Call,
        (∀ c ∈ more, c.Avoids (fun key => (extraI key).isSome) fun key => (extraR key).isSome) →
        Represents stores (fun key => (extraI key).isSome) (fun key => (extraR key).isSome)
          (recorded (calls ++ more)) (marked (calls ++ more))
          (Act.runAll (more.map (·.act stores)) t) := by
  refine ⟨fun k config => recorded_eq_some_iff, fun k config => marked_eq_some_iff, ?_,
    fun extraI extraR hextraI hextraR t ht more hmore => h.represents_append hextraI hextraR ht hmore⟩
  -- without any entries beside the records, no key is to be avoided
  have hno : ∀ key e, (fun _ => none : String → Option Entry) key = some e → e.NoRecord :=
    fun _ _ he => absurd he nofun
  have hempty : AtBeside At (fun _ => none) (fun _ => none) (fun _ => none) (fun _ => none) s :=
    ⟨⟨fun _ _ => rfl, fun _ _ => rfl⟩, hs⟩
  have hcalls : ∀ c ∈ calls, c.Avoids (fun _ => (none : Option Entry).isSome)
      fun _ => (none : Option Entry).isSome := by
    intro c _
    simpa only [Option.isSome_none, Bool.false_eq_true] using c.avoids_false
  have hrepresents := h.represents_append hno hno (Answer.has_empty hempty) hcalls
  simpa only [Option.isSome_none, Bool.false_eq_true, List.nil_append] using hrepresents

end Answers

end InstanceStores

/-! ## A host -/

namespace Rehearsal.Host

open InstanceStores

/-- The shelves of the host are open and have `I` and `R` in them. -/
def Entered (I R : String → Option Entry) (h : Host) : Prop :=
  Shelf.HasEntries I h.instances ∧ Shelf.HasEntries R h.remounts

/-- The shelves of a rehearsal serve, with any entries. -/
theorem serve_stores : stores.Serve Entered where
  instances R := serves_storeOn Shelf.serves instancesPart (fun h => Shelf.HasEntries R h.remounts)
    (fun _ _ => rfl) fun _ _ hs => hs
  remounts I := by
    have hremounts := serves_storeOn Shelf.serves remountsPart
      (fun h => Shelf.HasEntries I h.instances) (fun _ _ => rfl) fun _ _ hs => hs
    simp only [and_comm (a := Shelf.HasEntries _ (remountsPart.get _))] at hremounts
    exact hremounts

/-- A host with empty shelves. -/
def tidyHost : Host where
  surroundings := ⟨"/home/u", "/"⟩

/-- A host with a key that cannot be read among the sessions, and among the marks one without a
configuration file. -/
def untidyHost : Host where
  surroundings := ⟨"/home/u", "/"⟩
  instances := { entries := [("Q:", [])], unreadable := ["Q:"] }
  remounts := { entries := [("V:", [(mountDirName, "V:")])] }

/-- What is among the sessions of that host. -/
def lockedAway (key : String) : Option Entry :=
  if key = "Q:" then some (.error (.ofText s!"cannot open key {key}")) else none

/-- What is among its marks. -/
def unfinished (key : String) : Option Entry :=
  if key = "V:" then some (.ok [(mountDirName, "V:")]) else none

/-- A history: `X:` is registered, marked and unregistered, `Y:` is registered twice, the second time
without a configuration file, and `V:` is registered and `Q:` is marked. -/
def callsOnShares : List Call :=
  [.register (sessionAt (.ofPath "X:") "x"), .mark (.make "X:" "x" none),
    .register (sessionAt (.ofPath "Y:") "y"), .unregister (.ofPath "X:"),
    .register { sessionAt (.ofPath "Y:") "y" with configPath := none },
    .register (sessionAt (.ofPath "V:") "v"), .mark (.make "Q:" "q" none)]

/-- The tidy host has nothing entered. -/
theorem entered_tidyHost : Entered (fun _ => none) (fun _ => none) tidyHost :=
  ⟨⟨⟨rfl, rfl, .nil, nofun⟩, rfl⟩, ⟨⟨rfl, rfl, .nil, nofun⟩, rfl⟩⟩

/-- The untidy host has the entries of `lockedAway` and `unfinished`, which are no records. -/
theorem entered_untidyHost : Entered lockedAway unfinished untidyHost := by
  refine ⟨⟨⟨rfl, rfl, List.pairwise_singleton _ _, by decide⟩, ?_⟩,
    ⟨⟨rfl, rfl, List.pairwise_singleton _ _, nofun⟩, ?_⟩⟩
  · funext key
    by_cases hkey : key = "Q:"
    · subst hkey
      rfl
    · simp [Shelf.contents, beside, Shelf.unopened, untidyHost, lockedAway, hkey,
        Shelf.lookup_cons_of_ne hkey]
  · funext key
    by_cases hkey : key = "V:"
    · subst hkey
      rfl
    · simp [Shelf.contents, beside, Shelf.unopened, untidyHost, unfinished, hkey,
        Shelf.lookup_cons_of_ne hkey]

/-- The calls are answered on the untidy host as if it were tidy. -/
theorem represents_untidyHost :
    stores.Serve Entered ∧ Entered (fun _ => none) (fun _ => none) tidyHost ∧
    Entered lockedAway unfinished untidyHost ∧
    recorded callsOnShares (.ofPath "X:") = none ∧ marked callsOnShares (.ofPath "X:") = some "x" ∧
    recorded callsOnShares (.ofPath "Y:") = some "" ∧
    recorded callsOnShares (.ofPath "V:") = some "v" ∧
    ((stores.registry.lookup (.ofPath "V:")).runOn
      (Act.runAll (callsOnShares.map (·.act stores)) untidyHost)).1.toOption
      = some (some (sessionAt (.ofPath "V:") "v")) ∧
    Represents stores (fun key => (lockedAway key).isSome) (fun key => (unfinished key).isSome)
      (recorded callsOnShares) (marked callsOnShares)
      (Act.runAll (callsOnShares.map (·.act stores)) untidyHost) := by
  have hlocked : ∀ key e, lockedAway key = some e → e.NoRecord := by
    intro key e he
    unfold lockedAway at he
    split at he
    · rw [← Option.some.inj he]
      trivial
    · exact absurd he nofun
  have hunfinished : ∀ key e, unfinished key = some e → e.NoRecord := by
    intro key e he
    unfold unfinished at he
    split at he
    · rw [← Option.some.inj he]
      rfl
    · exact absurd he nofun
  -- nothing else is stored at first: beside the extra entries the stores are empty
  have hbeside : ∀ extra : String → Option Entry, beside extra (fun _ => none) = extra := by
    intro extra
    funext key
    exact Option.or_none
  have hhas : Answer.Has (AtBeside Entered lockedAway unfinished) (recorded []) (marked [])
      untidyHost := by
    refine ⟨_, _, .empty, .empty, ⟨fun _ _ => rfl, fun _ _ => rfl⟩, ?_⟩
    rw [hbeside, hbeside]
    exact entered_untidyHost
  have havoids : ∀ c ∈ callsOnShares,
      c.Avoids (fun key => (lockedAway key).isSome) fun key => (unfinished key).isSome := by
    simp only [callsOnShares, List.forall_mem_cons, Call.Avoids]
    exact ⟨by decide +kernel, by decide +kernel, by decide +kernel, by decide +kernel,
      by decide +kernel, by decide +kernel, by decide +kernel,
      fun _ hc => absurd hc List.not_mem_nil⟩
  refine ⟨serve_stores, entered_tidyHost, entered_untidyHost, by decide +kernel, by decide +kernel,
    by decide +kernel, by decide +kernel, by decide +kernel, ?_⟩
  have hrepresents := (Serve.represents_history serve_stores entered_tidyHost []).2.2.2 lockedAway unfinished hlocked
    hunfinished untidyHost hhas callsOnShares havoids
  rw [List.nil_append] at hrepresents
  exact hrepresents

end Rehearsal.Host

end MountKeeper
