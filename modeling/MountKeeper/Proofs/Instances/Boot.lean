import MountKeeper.Proofs.Instances.History
import Mathlib.Data.String.Basic

/-! # What the boot service finds listed

The boot service lists both stores. It gets every session that is recorded and every one that is
marked, a marked one only once, by key. What is in a store and is no record is passed over.

* `InstanceStores.ensures_sessionsIn`: the sessions of one store.
* `InstanceStores.Listed` is what a list for the boot service should be, and
  `InstanceStores.AnswerBut.list` says that it is. -/

namespace MountKeeper

open Act (Ensures)
open Arrangement (sessionAt)

variable {σ : Type}

namespace InstanceStores

/-! ## The sessions of one store -/

/-- The session that is read under a key, if one is. -/
def sessionUnder (C : String → Option Values) (key : String) : Option Session :=
  (C key).bind fun values => (sessionOf key values).toOption

section Store

variable {store : KeyStore σ} {Off : String → Prop} {At : (String → Option Values) → σ → Prop}
  {C : String → Option Values} {F : SessionKey → Option String}

/-- Values without `configFileName` are no session. -/
theorem toOption_sessionOf_of_none {values : Values} (h : values.get? configFileName = none)
    (key : String) : (sessionOf key values).toOption = none := by
  unfold sessionOf
  rw [h]
  rfl

/-- `readFrom store key` finds no session under a key that is `Off`. -/
theorem ensures_readFrom_off (h : store.AnswersBut Off At) (C : String → Option Values)
    {key : String} (hkey : Off key) : Ensures (At C) (Act.attempt (readFrom store key))
      (fun found s => found.toOption.join = none ∧ At C s) fun _ _ => False := by
  refine Ensures.attempt (Ensures.bind ((h.off C key hkey).of_attempt.failing ?_) fun v => ?_)
  · exact fun f s hs => ⟨rfl, hs.2⟩
  · refine Ensures.of_fact fun hv => ?_
    cases v with
    | none => exact Ensures.pure fun s hs => ⟨rfl, hs⟩
    | some values =>
      have hno := toOption_sessionOf_of_none (hv values rfl) key
      refine Ensures.map (Ensures.ofExcept (fun x hx s hs => ?_) fun f hf s hs => ⟨rfl, hs⟩)
      rw [hx] at hno
      exact absurd hno (by simp [Except.toOption])

/-- `readFrom store key` finds `sessionUnder C key`, whether a record is there or not. -/
theorem ensures_readFrom (h : store.AnswersBut Off At) (C : String → Option Values) (key : String) :
    Ensures (At C) (Act.attempt (readFrom store key))
      (fun found s => found.toOption.join = sessionUnder C key ∧ At C s) fun _ _ => False := by
  -- a key that is off holds no record on either side; what is read there need not be known
  by_cases hkey : Off key
  · intro s hs
    have hnone : sessionUnder C key = none := by
      rw [sessionUnder, h.apart C s key hs hkey, Option.bind_none]
    rw [hnone]
    exact ensures_readFrom_off h C hkey s hs
  · refine Ensures.attempt ?_
    refine ((h.read C key hkey).failing fun _ _ hf => hf.elim).bind fun v => ?_
    refine Ensures.of_fact ?_
    rintro rfl
    cases hv : C key with
    | none => exact Ensures.pure fun s hs => ⟨by simp [sessionUnder, hv, Except.toOption], hs⟩
    | some values =>
      refine Ensures.map (Ensures.ofExcept (fun x hx s hs => ?_) fun f hf s hs => ?_)
      · exact ⟨by simp [sessionUnder, hv, hx, Except.toOption], hs⟩
      · exact ⟨by simp [sessionUnder, hv, hf, Except.toOption], hs⟩

/-- `sessionsAt store keys` finds the sessions that can be read, in the order of the keys. -/
theorem ensures_sessionsAt (h : store.AnswersBut Off At) (C : String → Option Values)
    (keys : List String) : Ensures (At C) (sessionsAt store keys)
      (fun found s => found = keys.filterMap (sessionUnder C) ∧ At C s) fun _ _ => False := by
  induction keys with
  | nil => exact Ensures.pure fun s hs => ⟨rfl, hs⟩
  | cons key keys ih =>
    unfold sessionsAt
    refine (ensures_readFrom h C key).bind fun found => Ensures.of_fact fun hfound => ?_
    refine ih.bind fun rest => Ensures.of_fact ?_
    rintro rfl
    rw [List.filterMap_cons, ← hfound]
    cases found with
    | error f => exact Ensures.pure fun s hs => ⟨rfl, hs⟩
    | ok session? =>
      cases session? with
      | none => exact Ensures.pure fun s hs => ⟨rfl, hs⟩
      | some session => exact Ensures.pure fun s hs => ⟨rfl, hs⟩

/-- `sessionUnder C k.text` is the session of `F k`. -/
theorem Holding.sessionUnder_text (h : Holding C F) (k : SessionKey) :
    sessionUnder C k.text = (F k).map (sessionAt k) := by
  cases hk : F k with
  | none =>
    have hC : C k.text = none := by
      by_contra hne
      obtain ⟨k', htext, hk'⟩ := h.only k.text (Option.isSome_iff_ne_none.2 hne)
      rw [SessionKey.ext htext, hk] at hk'
      exact absurd hk' Bool.false_ne_true
    rw [sessionUnder, hC]
    rfl
  | some config =>
    obtain ⟨values, hvalues, hread⟩ := h.readable k config hk
    simp [sessionUnder, hvalues, hread, Except.toOption]

/-- `sessionUnder C key = some x` only for a key of `F`: what is read is the session of a record. -/
theorem Holding.exists_of_sessionUnder (h : Holding C F) {key : String} {x : Session}
    (hx : sessionUnder C key = some x) :
    ∃ k config, k.text = key ∧ F k = some config ∧ x = sessionAt k config := by
  obtain ⟨values, hvalues, -⟩ := Option.bind_eq_some_iff.1 hx
  obtain ⟨k, rfl, hk⟩ := h.only key (by rw [hvalues]; rfl)
  obtain ⟨config, hconfig⟩ := Option.isSome_iff_exists.1 hk
  rw [h.sessionUnder_text k, hconfig] at hx
  exact ⟨k, config, rfl, hconfig, (Option.some.inj hx).symm⟩

/-- **The sessions of a store**, `sessionsIn`, are those of the keys that it holds, with different
keys. -/
theorem ensures_sessionsIn (h : store.AnswersBut Off At) (hC : Holding C F) :
    Ensures (At C) (sessionsIn store)
      (fun found s => ((found.Pairwise fun x y => x.key ≠ y.key) ∧
        ∀ x, x ∈ found ↔ ∃ k config, F k = some config ∧ x = sessionAt k config) ∧ At C s)
      fun _ _ => False := by
  refine (h.keys C).bind fun keys => Ensures.of_fact fun ⟨hnodup, hkeys⟩ => ?_
  refine (ensures_sessionsAt h C keys).weaken ?_ fun _ _ hf => hf
  rintro found s ⟨rfl, hs⟩
  refine ⟨⟨?_, fun x => ?_⟩, hs⟩
  · rw [List.pairwise_filterMap]
    -- the key of what is read is the key that it is read under
    refine hnodup.imp fun {key key'} hne x hx y hy => ?_
    obtain ⟨k, config, rfl, -, rfl⟩ := hC.exists_of_sessionUnder hx
    obtain ⟨k', config', rfl, -, rfl⟩ := hC.exists_of_sessionUnder hy
    exact fun he => hne (congrArg SessionKey.text he)
  · rw [List.mem_filterMap]
    constructor
    · rintro ⟨key, -, hx⟩
      obtain ⟨k, config, -, hconfig, rfl⟩ := hC.exists_of_sessionUnder hx
      exact ⟨k, config, hconfig, rfl⟩
    · rintro ⟨k, config, hconfig, rfl⟩
      obtain ⟨values, hvalues, -⟩ := hC.readable k config hconfig
      refine ⟨k.text, hkeys k.text (by rw [hvalues]; rfl), ?_⟩
      rw [hC.sessionUnder_text, hconfig]
      rfl

end Store

/-! ## The list of both stores -/

/-- The order of a boot list, by the text of the key, is transitive. -/
theorem keyLe_trans (a b c : BootInstance) (h : keyLe a b = true) (h' : keyLe b c = true) :
    keyLe a c = true := by
  simp only [keyLe, decide_eq_true_eq] at h h' ⊢
  exact le_trans h h'

/-- The order of a boot list, by the text of the key, is total. -/
theorem keyLe_total (a b : BootInstance) : (keyLe a b || keyLe b a) = true := by
  simp only [keyLe, Bool.or_eq_true, decide_eq_true_eq]
  exact le_total _ _

/-- `mergeSort keyLe` sorts instances with different keys strictly. -/
theorem pairwise_lt_mergeSort {is : List BootInstance}
    (h : is.Pairwise fun a b => a.session.key ≠ b.session.key) :
    (is.mergeSort keyLe).Pairwise fun a b => a.session.key.text < b.session.key.text := by
  have hsorted := List.pairwise_mergeSort keyLe_trans keyLe_total is
  have hdifferent : (is.mergeSort keyLe).Pairwise fun a b => a.session.key ≠ b.session.key :=
    ((List.mergeSort_perm is keyLe).pairwise_iff Ne.symm).2 h
  refine (hsorted.and hdifferent).imp ?_
  rintro a b ⟨hle, hne⟩
  exact lt_of_le_of_ne (of_decide_eq_true hle) fun he => hne (SessionKey.ext he)

/-- A list for the boot service, when sessions are recorded for the keys of `F` and marks are set
for those of `M`: it goes by key, and has each marked key once, with the configuration file of its
mark, and each key that is only recorded. -/
structure Listed (F M : SessionKey → Option String) (is : List BootInstance) : Prop where
  ascending : is.Pairwise fun a b => a.session.key.text < b.session.key.text
  mem_marked : ∀ x, ⟨x, true⟩ ∈ is ↔ ∃ k config, M k = some config ∧ x = sessionAt k config
  mem_plain : ∀ x, ⟨x, false⟩ ∈ is
    ↔ (∃ k config, F k = some config ∧ x = sessionAt k config) ∧ M x.key = none

/-- `mergeBoot sessions marked` has each marked session with `remount := true`, and without it the
sessions whose key is not marked. -/
theorem mem_mergeBoot {sessions marked : List Session} {i : BootInstance} :
    i ∈ mergeBoot sessions marked
      ↔ if i.remount then i.session ∈ marked
        else i.session ∈ sessions ∧ ∀ m ∈ marked, m.key ≠ i.session.key := by
  obtain ⟨session, remount⟩ := i
  unfold mergeBoot
  cases remount <;> simp

/-- `mergeBoot` of sessions with different keys and marks with different keys is sorted strictly by
key. -/
theorem pairwise_lt_mergeBoot {sessions marked : List Session}
    (hsessions : sessions.Pairwise fun x y => x.key ≠ y.key)
    (hmarked : marked.Pairwise fun x y => x.key ≠ y.key) :
    (mergeBoot sessions marked).Pairwise fun a b => a.session.key.text < b.session.key.text := by
  unfold mergeBoot
  refine pairwise_lt_mergeSort (List.pairwise_append.2 ⟨?_, ?_, ?_⟩)
  · exact (hsessions.filter _).map _ fun _ _ hne => hne
  · exact hmarked.map _ fun _ _ hne => hne
  · intro a ha b hb
    obtain ⟨x, hx, rfl⟩ := List.mem_map.1 ha
    obtain ⟨m, hm, rfl⟩ := List.mem_map.1 hb
    -- a session with the key of a mark was left out
    have hno := (List.mem_filter.1 hx).2
    simp only [Bool.not_eq_true', List.any_eq_false, beq_iff_eq] at hno
    exact fun he => hno m hm he.symm

namespace Listed

variable {F M : SessionKey → Option String} {is : List BootInstance}

/-- The keys of a `Listed` list are the recorded and the marked ones. -/
theorem exists_key_iff (h : Listed F M is) (k : SessionKey) :
    (∃ i ∈ is, i.session.key = k) ↔ (F k).isSome ∨ (M k).isSome := by
  constructor
  · rintro ⟨⟨x, remount⟩, hi, rfl⟩
    cases remount with
    | true =>
      obtain ⟨k, config, hk, rfl⟩ := (h.mem_marked x).1 hi
      exact .inr (Option.isSome_of_eq_some hk)
    | false =>
      obtain ⟨⟨k, config, hk, rfl⟩, -⟩ := (h.mem_plain x).1 hi
      exact .inl (Option.isSome_of_eq_some hk)
  · intro hk
    -- a marked key is listed by its mark, so a record counts only where there is none
    cases hmark : M k with
    | some config => exact ⟨_, (h.mem_marked _).2 ⟨k, config, hmark, rfl⟩, rfl⟩
    | none =>
      rw [hmark, Option.isSome_none] at hk
      obtain ⟨config, hconfig⟩ := Option.isSome_iff_exists.1 (hk.resolve_right Bool.false_ne_true)
      exact ⟨_, (h.mem_plain _).2 ⟨⟨k, config, hconfig, rfl⟩, hmark⟩, rfl⟩

/-- `i.remount` of a `Listed` instance says whether its key has a mark. -/
theorem remount_eq (h : Listed F M is) {i : BootInstance} (hi : i ∈ is) :
    i.remount = (M i.session.key).isSome := by
  obtain ⟨x, remount⟩ := i
  cases remount with
  | true =>
    obtain ⟨k, config, hk, rfl⟩ := (h.mem_marked x).1 hi
    exact (Option.isSome_of_eq_some hk).symm
  | false =>
    obtain ⟨-, hunmarked⟩ := (h.mem_plain x).1 hi
    rw [hunmarked, Option.isSome_none]

end Listed

/-- `mergeBoot` of the recorded sessions and the marked ones is `Listed F M`. -/
theorem listed_mergeBoot {F M : SessionKey → Option String} {sessions marked : List Session}
    (hsessionKeys : sessions.Pairwise fun x y => x.key ≠ y.key)
    (hmarkedKeys : marked.Pairwise fun x y => x.key ≠ y.key)
    (hsessions : ∀ x, x ∈ sessions ↔ ∃ k config, F k = some config ∧ x = sessionAt k config)
    (hmarked : ∀ x, x ∈ marked ↔ ∃ k config, M k = some config ∧ x = sessionAt k config) :
    Listed F M (mergeBoot sessions marked) where
  ascending := pairwise_lt_mergeBoot hsessionKeys hmarkedKeys
  mem_marked x := by rw [mem_mergeBoot, if_pos rfl, hmarked]
  mem_plain x := by
    have hunmarked : (∀ m ∈ marked, m.key ≠ x.key) ↔ M x.key = none := by
      rw [← not_iff_not]
      simp only [not_forall, not_not, ← ne_eq, Option.ne_none_iff_exists']
      constructor
      · rintro ⟨m, hm, hkey⟩
        obtain ⟨k, config, hk, rfl⟩ := (hmarked m).1 hm
        exact ⟨config, hkey ▸ hk⟩
      · rintro ⟨config, hconfig⟩
        exact ⟨_, (hmarked _).2 ⟨x.key, config, hconfig, rfl⟩, rfl⟩
    rw [mem_mergeBoot, if_neg Bool.false_ne_true, hsessions, hunmarked]

section Both

variable {stores : InstanceStores σ} {OffI OffR : String → Prop}
  {At : (String → Option Values) → (String → Option Values) → σ → Prop}
  {I R : String → Option Values} {F M : SessionKey → Option String}

/-- **The list for the boot service** is `Listed F M`, and listing changes nothing. -/
theorem AnswerBut.list (h : stores.AnswerBut OffI OffR At) (hI : Holding I F) (hR : Holding R M) :
    Ensures (At I R) stores.boot.list (fun is s => Listed F M is ∧ At I R s) fun _ _ => False := by
  refine (ensures_sessionsIn (h.remounts I) hR).bind fun marked => ?_
  refine Ensures.of_fact fun ⟨hmarkedKeys, hmarked⟩ => ?_
  refine (ensures_sessionsIn (h.instances R) hI).bind fun sessions => ?_
  refine Ensures.of_fact fun ⟨hsessionKeys, hsessions⟩ => ?_
  exact Ensures.pure fun s hs => ⟨listed_mergeBoot hsessionKeys hmarkedKeys hsessions hmarked, hs⟩

/-- With stores that answer, the boot list succeeds, and is the one of the two maps. -/
theorem Answer.list (h : stores.Answer At) (hI : Holding I F) (hR : Holding R M) :
    Ensures (At I R) stores.boot.list (fun is s => Listed F M is ∧ At I R s) fun _ _ => False :=
  h.but.list hI hR

end Both

end InstanceStores

end MountKeeper
