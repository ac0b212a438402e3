import MountKeeper.Proofs.Instances.History

/-! # Stores with entries that are no records

Other programs may leave entries in a store too. Such an entry is no record when it cannot be read or
has no configuration file.

* `KeyStore.Serves` and `InstanceStores.Serve`: stores that answer from their entries, of which some
  cannot be read.
* `InstanceStores.beside`: entries beside records.
* `InstanceStores.Serve.answerBut`: about the records, stores answer whatever entries are beside
  them. -/

namespace MountKeeper

open Act (Ensures)

variable {σ : Type}

/-! ## Entries -/

/-- What is under a key of a store: its values, or the failure to read them. -/
abbrev Entry := Except Failure Values

namespace Entry

/-- What the request to read a key is answered, by what is under it. -/
def answer : Option Entry → Except Failure (Option Values)
  | none => .ok none
  | some (.ok values) => .ok (some values)
  | some (.error f) => .error f

/-- The values of what is under a key. -/
def values : Option Entry → Values
  | some (.ok values) => values
  | _ => []

/-- An entry that is no record: it cannot be read or has no configuration file. -/
def NoRecord : Entry → Prop
  | .ok values => values.get? InstanceStores.configFileName = none
  | .error _ => True

end Entry

/-- The store answers from its entries. `At C` says of a host that the store has `C` in it. What
becomes of an entry that cannot be read when it is written or deleted is left open. -/
structure KeyStore.Serves (store : KeyStore σ) (At : (String → Option Entry) → σ → Prop) : Prop where
  read : ∀ C key, Ensures (At C) (Act.attempt (store.read key))
    (fun found s => found = Entry.answer (C key) ∧ At C s) fun _ _ => False
  write : ∀ C key values, (∀ f, C key ≠ some (.error f)) → Ensures (At C) (store.write key values)
    (fun _ => At (Function.update C key (some (.ok ((Entry.values (C key)).merge values)))))
    fun _ _ => False
  delete : ∀ C key, (∀ f, C key ≠ some (.error f)) → Ensures (At C) (store.delete key)
    (fun existed s => existed = (C key).isSome ∧ At (Function.update C key none) s) fun _ _ => False
  keys : ∀ C, Ensures (At C) store.keys
    (fun keys s => (keys.Nodup ∧ ∀ key, key ∈ keys ↔ (C key).isSome) ∧ At C s) fun _ _ => False

/-- What is answered to the request to read a key. -/
theorem KeyStore.Serves.runOn_read {store : KeyStore σ} {At : (String → Option Entry) → σ → Prop}
    (h : store.Serves At) {C : String → Option Entry} {s : σ} (hs : At C s) (key : String) :
    ((store.read key).runOn s).1 = Entry.answer (C key) := by
  obtain ⟨found, s', hrun, hfound, -⟩ := (h.read C key).exists_ok hs
  rw [Act.runOn_attempt] at hrun
  rw [← hfound]
  exact Except.ok.inj (congrArg Prod.fst hrun)

namespace InstanceStores

/-- Both stores answer from their entries, and neither touches those of the other. `At I R` says of
a host that the first has `I` in it and the second `R`. -/
structure Serve (stores : InstanceStores σ)
    (At : (String → Option Entry) → (String → Option Entry) → σ → Prop) : Prop where
  instances : ∀ R, stores.instances.Serves fun I => At I R
  remounts : ∀ I, stores.remounts.Serves (At I)

/-! ## Entries beside records -/

/-- The records `C` and beside them the entries `extra`. -/
def beside (extra : String → Option Entry) (C : String → Option Values) : String → Option Entry :=
  fun key => (extra key).or ((C key).map .ok)

/-- The entries are under keys of their own. -/
def Apart (extra : String → Option Entry) (C : String → Option Values) : Prop :=
  ∀ key, (extra key).isSome → C key = none

section Beside

variable {extra : String → Option Entry} {C : String → Option Values} {key : String}

/-- Where `extra` has no entry, `beside extra C` has the record of `C`. -/
theorem beside_of_none (h : extra key = none) : beside extra C key = (C key).map .ok := by
  rw [beside, h, Option.none_or]

/-- Where `extra` has an entry, `beside extra C` has this one. -/
theorem beside_of_some {e : Entry} (h : extra key = some e) : beside extra C key = some e := by
  rw [beside, h, Option.some_or]

/-- A record changes where there is none of the entries. -/
theorem beside_update (h : extra key = none) (v : Option Values) :
    beside extra (Function.update C key v) = Function.update (beside extra C) key (v.map .ok) := by
  funext k
  by_cases hk : k = key
  · rw [hk, beside_of_none h, Function.update_self, Function.update_self]
  · rw [Function.update_of_ne hk, beside, Function.update_of_ne hk, beside]

/-- Where `extra` has no entry, a store with `beside extra C` answers with the record of `C`. -/
theorem answer_beside (h : extra key = none) : Entry.answer (beside extra C key) = .ok (C key) := by
  rw [beside_of_none h]
  cases C key <;> rfl

/-- Where `extra` has no entry, the values are those of `C`, or none. -/
theorem values_beside (h : extra key = none) :
    Entry.values (beside extra C key) = (C key).getD [] := by
  rw [beside_of_none h]
  cases C key <;> rfl

/-- Records can be read. -/
theorem beside_ne_error (h : extra key = none) (f : Failure) :
    beside extra C key ≠ some (.error f) := by
  rw [beside_of_none h]
  cases C key <;> simp

/-- A key of `C` is a key of `beside extra C`. -/
theorem isSome_beside_of_isSome (h : (C key).isSome) : (beside extra C key).isSome := by
  rw [beside, Option.isSome_or, Option.isSome_map, h, Bool.or_true]

/-- Entries stay apart from a record that changes where there is none of them. -/
theorem Apart.update (h : Apart extra C) (hkey : extra key = none) (v : Option Values) :
    Apart extra (Function.update C key v) := by
  intro k hk
  have hne : k ≠ key := by
    rintro rfl
    rw [hkey] at hk
    exact Bool.false_ne_true hk
  rw [Function.update_of_ne hne]
  exact h k hk

/-! ### Changes of a record -/

variable {store : KeyStore σ} {At : (String → Option Entry) → σ → Prop} (h : store.Serves At)

include h

/-- A store has some entries in it when a record was written. -/
theorem ensures_write (hkey : ¬ (extra key).isSome) (values : Values) :
    Ensures (At (beside extra C)) (store.write key values)
      (fun _ s => ∃ E, At E s) fun _ s => ∃ E, At E s := by
  have hreadable := beside_ne_error (C := C) (Option.not_isSome_iff_eq_none.1 hkey)
  exact (h.write _ key values hreadable).weaken (fun _ _ hs => ⟨_, hs⟩) fun _ _ hf => hf.elim

/-- So it has when a record was deleted. -/
theorem ensures_delete (hkey : ¬ (extra key).isSome) :
    Ensures (At (beside extra C)) (store.delete key)
      (fun _ s => ∃ E, At E s) fun _ s => ∃ E, At E s := by
  have hreadable := beside_ne_error (C := C) (Option.not_isSome_iff_eq_none.1 hkey)
  exact (h.delete _ key hreadable).weaken (fun _ _ hs => ⟨_, hs.2⟩) fun _ _ hf => hf.elim

end Beside

/-- About the records, a store answers whatever entries are beside them. A fact `p` that has nothing to
do with the store may be kept with that. -/
theorem answersBut_of_serves {store : KeyStore σ} {At : (String → Option Entry) → σ → Prop}
    (h : store.Serves At) {extra : String → Option Entry}
    (hextra : ∀ key e, extra key = some e → e.NoRecord) (p : Prop) :
    store.AnswersBut (fun key => (extra key).isSome)
      fun C s => (Apart extra C ∧ p) ∧ At (beside extra C) s where
  apart _ _ key hs hkey := hs.1.1 key hkey
  read C key hkey := by
    have hnone := Option.not_isSome_iff_eq_none.1 hkey
    have hread := (h.read (beside extra C) key).of_attempt
    rw [answer_beside hnone] at hread
    refine Ensures.of_fact fun hC => hread.weaken (fun v s hv => ?_) fun f s hf => ?_
    · exact ⟨Except.ok.inj hv.1, hC, hv.2⟩
    · exact absurd hf.1 nofun
  off C key hkey := by
    obtain ⟨e, he⟩ := Option.isSome_iff_exists.1 hkey
    have hread := h.read (beside extra C) key
    rw [beside_of_some he] at hread
    refine Ensures.of_fact fun hC => hread.weaken ?_ fun _ _ hf => hf
    rintro found s ⟨rfl, hs⟩
    refine ⟨fun values hvalues => ?_, hC, hs⟩
    cases e with
    | error f => exact absurd hvalues nofun
    | ok values' =>
      obtain rfl : values' = values := Option.some.inj (Except.ok.inj hvalues)
      exact hextra key _ he
  -- the store acts on `beside extra C`; off the extra keys this is `C`, and changing it there
  -- changes `C` alone
  write C key values hkey := by
    have hnone := Option.not_isSome_iff_eq_none.1 hkey
    have hwrite := h.write (beside extra C) key values (beside_ne_error hnone)
    rw [values_beside hnone] at hwrite
    refine Ensures.of_fact fun hC => hwrite.weaken (fun _ s hs => ?_) fun _ _ hf => hf
    refine ⟨⟨hC.1.update hnone _, hC.2⟩, ?_⟩
    rw [beside_update hnone]
    exact hs
  delete C key hkey := by
    have hnone := Option.not_isSome_iff_eq_none.1 hkey
    have hdelete := h.delete (beside extra C) key (beside_ne_error hnone)
    refine Ensures.of_fact fun hC => hdelete.weaken (fun _ s hs => ?_) fun _ _ hf => hf
    refine ⟨⟨hC.1.update hnone _, hC.2⟩, ?_⟩
    rw [beside_update hnone]
    exact hs.2
  keys C := by
    refine Ensures.of_fact fun hC => (h.keys (beside extra C)).weaken ?_ fun _ _ hf => hf
    rintro keys s ⟨⟨hnodup, hkeys⟩, hs⟩
    exact ⟨⟨hnodup, fun key hkey => (hkeys key).2 (isSome_beside_of_isSome hkey)⟩, hC, hs⟩

/-- The stores have the records `I` and `R` in them, and beside those the entries `extraI` and
`extraR`. -/
def AtBeside (At : (String → Option Entry) → (String → Option Entry) → σ → Prop)
    (extraI extraR : String → Option Entry) (I R : String → Option Values) (s : σ) : Prop :=
  (Apart extraI I ∧ Apart extraR R) ∧ At (beside extraI I) (beside extraR R) s

/-- **Entries that are no records** leave what both stores answer about the records. -/
theorem Serve.answerBut {stores : InstanceStores σ}
    {At : (String → Option Entry) → (String → Option Entry) → σ → Prop} (h : stores.Serve At)
    {extraI extraR : String → Option Entry}
    (hextraI : ∀ key e, extraI key = some e → e.NoRecord)
    (hextraR : ∀ key e, extraR key = some e → e.NoRecord) :
    stores.AnswerBut (fun key => (extraI key).isSome) (fun key => (extraR key).isSome)
      (AtBeside At extraI extraR) where
  instances R := answersBut_of_serves (h.instances (beside extraR R)) hextraI (Apart extraR R)
  remounts I := by
    have hremounts := answersBut_of_serves (h.remounts (beside extraI I)) hextraR (Apart extraI I)
    simp only [and_comm (a := Apart extraR _)] at hremounts
    exact hremounts

end InstanceStores

end MountKeeper
