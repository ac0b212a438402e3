import MountKeeper.Proofs.Act
import Mathlib.Tactic.Choose

/-! # Acts that leave a trace

What an operation asks of its collaborators is not seen in the host that it leaves behind. It is
seen when the collaborators write down each call before they do it.

* `Traced σ ε` is a host with a list of what was asked for on it. `Act.unseen` runs an act on the
  host only, and `Act.seen` writes it down first. `Act.answered` writes it down behind, with how it
  ended, and `Act.noted` writes down what is noted of how it ended.
* `Act.Shadows b a w`: the traced act `b` does what `a` does, and writes down what `w` says. One rule
  for each way of putting acts together.
* `Act.Follows b a`: so it is for some `w`; what `b` does to the host is what `a` does.
* `Act.Ensures.told`: what an act ensures of a host is ensured of a traced one by what shadows it. -/

namespace MountKeeper

/-- A host with a list of what was asked for on it, in order. -/
structure Traced (σ ε : Type) where
  host : σ
  trace : List ε

/-- The host of a traced host. -/
def Traced.hostPart {σ ε : Type} : Part (Traced σ ε) σ := ⟨(·.host), fun s t => { t with host := s }⟩

/-- A part of the host of a traced host. -/
def Traced.part {σ ε τ : Type} (part : Part σ τ) : Part (Traced σ ε) τ :=
  ⟨fun t => part.get t.host, fun x t => { t with host := part.put x t.host }⟩

namespace Act

variable {σ ε α β : Type}

/-- Runs an act on the host, without a trace of it. -/
def unseen (a : Act σ α) : Act (Traced σ ε) α :=
  a.on Traced.hostPart

/-- Writes a call down and then runs it on the host. -/
def seen (call : ε) (a : Act σ α) : Act (Traced σ ε) α := do
  change fun t => { t with trace := t.trace ++ [call] }
  a.unseen

/-- `a.unseen` does on the host of a traced host what `a` does, and leaves the trace as it is. -/
theorem runOn_unseen (a : Act σ α) (t : Traced σ ε) :
    a.unseen.runOn t = ((a.runOn t.host).1, ⟨(a.runOn t.host).2, t.trace⟩) :=
  runOn_on a Traced.hostPart t

/-- `a.seen call` does on the host what `a` does, with `call` behind the trace. -/
theorem runOn_seen (call : ε) (a : Act σ α) (t : Traced σ ε) :
    (a.seen call).runOn t = ((a.runOn t.host).1, ⟨(a.runOn t.host).2, t.trace ++ [call]⟩) := by
  unfold seen
  rw [runOn_bind]
  exact runOn_unseen a ⟨t.host, t.trace ++ [call]⟩

/-- Runs a call on the host and writes it down with how it ended. -/
def answered (call : ε) (a : Act σ α) : Act (Traced σ (ε × Except Failure α)) α := fun t =>
  match a.runOn t.host with
  | (r, s') => (r, ⟨s', t.trace ++ [(call, r)]⟩)

/-- `a.answered call` does on the host what `a` does, with `call` and the result behind the trace.
-/
theorem runOn_answered (call : ε) (a : Act σ α) (t : Traced σ (ε × Except Failure α)) :
    (a.answered call).runOn t
      = ((a.runOn t.host).1, ⟨(a.runOn t.host).2, t.trace ++ [(call, (a.runOn t.host).1)]⟩) := rfl

/-- `a.answered call` where it is known how `a` ends: `(call, r)` stands behind the trace. -/
theorem runOn_answered_of {a : Act σ α} {s s' : σ} {r : Except Failure α} (h : a.runOn s = (r, s'))
    (call : ε) (T : List (ε × Except Failure α)) :
    (a.answered call).runOn ⟨s, T⟩ = (r, ⟨s', T ++ [(call, r)]⟩) := by
  rw [runOn_answered, h]

/-- Runs an act on the host and writes down what is noted of how it ended. -/
def noted (note : Except Failure α → ε) (a : Act σ α) : Act (Traced σ ε) α := fun t =>
  match a.runOn t.host with
  | (r, s') => (r, ⟨s', t.trace ++ [note r]⟩)

/-- `a.noted note` where it is known how `a` ends: `note r` stands behind the trace. -/
theorem runOn_noted_of {a : Act σ α} {s s' : σ} {r : Except Failure α} (h : a.runOn s = (r, s'))
    (note : Except Failure α → ε) (T : List ε) :
    (a.noted note).runOn ⟨s, T⟩ = (r, ⟨s', T ++ [note r]⟩) := by
  show ((a.runOn s).1, (⟨(a.runOn s).2, T ++ [note (a.runOn s).1]⟩ : Traced σ ε)) = _
  rw [h]

/-- `a.unseen` where it is known how `a` ends: the trace is as it was. -/
theorem runOn_unseen_of {a : Act σ α} {s s' : σ} {r : Except Failure α} (h : a.runOn s = (r, s'))
    (T : List ε) : a.unseen.runOn ⟨s, T⟩ = (r, ⟨s', T⟩) := by
  rw [runOn_unseen, h]

/-! ## Shadows -/

/-- `b` does on the host of a traced host what `a` does on a host, with the same answer, and writes
down what `w` says of the host. -/
def Shadows (b : Act (Traced σ ε) α) (a : Act σ α) (w : σ → List ε) : Prop :=
  ∀ t, b.runOn t = ((a.runOn t.host).1, ⟨(a.runOn t.host).2, t.trace ++ w t.host⟩)

/-- What is written down behind an act, if it answered. -/
def afterwards (a : Act σ α) (v : α → σ → List ε) (s : σ) : List ε :=
  match a.runOn s with
  | (.ok x, s') => v x s'
  | (.error _, _) => []

/-- Behind an answer `x`, `afterwards a v s` is what `v` writes of it. -/
theorem afterwards_of_ok {a : Act σ α} {s s' : σ} {x : α} (h : a.runOn s = (.ok x, s'))
    (v : α → σ → List ε) : afterwards a v s = v x s' := by
  unfold afterwards
  rw [h]

/-- Behind a failure nothing is written. -/
theorem afterwards_of_error {a : Act σ α} {s s' : σ} {f : Failure}
    (h : a.runOn s = (.error f, s')) (v : α → σ → List ε) : afterwards a v s = [] := by
  unfold afterwards
  rw [h]

/-- A call is in `afterwards a v s` if and only if `a` answers and `v` writes the call behind the
answer. -/
theorem mem_afterwards {a : Act σ α} {v : α → σ → List ε} {s : σ} {e : ε} :
    e ∈ afterwards a v s ↔ ∃ x s', a.runOn s = (.ok x, s') ∧ e ∈ v x s' := by
  constructor
  · intro he
    unfold afterwards at he
    split at he
    · exact ⟨_, _, ‹_›, he⟩
    · exact absurd he List.not_mem_nil
  · rintro ⟨x, s', hrun, he⟩
    rwa [afterwards_of_ok hrun]

/-- Where `v` writes nothing, nothing is written. -/
@[simp] theorem afterwards_nil (a : Act σ α) (s : σ) :
    afterwards a (fun _ _ => ([] : List ε)) s = [] := by
  unfold afterwards
  split <;> rfl

namespace Shadows

variable {a : Act σ α} {b : Act (Traced σ ε) α} {w : σ → List ε}

/-- `a.unseen` shadows `a` and writes nothing down. -/
theorem unseen (a : Act σ α) : Shadows (ε := ε) a.unseen a fun _ => [] := by
  intro t
  rw [runOn_unseen, List.append_nil]

/-- `a.on (Traced.part part)` writes nothing down: only the part of the host is run on. -/
theorem on {τ : Type} (a : Act τ α) (part : Part σ τ) :
    Shadows (ε := ε) (a.on (Traced.part part)) (a.on part) fun _ => [] := by
  intro t
  show ((a.runOn (part.get t.host)).1, (⟨_, t.trace⟩ : Traced σ ε)) = _
  rw [List.append_nil]
  rfl

/-- `a.seen call` shadows `a` and writes `call` down. -/
theorem seen (call : ε) (a : Act σ α) : Shadows (a.seen call) a fun _ => [call] :=
  runOn_seen call a

/-- `a.answered call` shadows `a` and writes down `call` with the result. -/
theorem answered (call : ε) (a : Act σ α) :
    Shadows (a.answered call) a fun s => [(call, (a.runOn s).1)] :=
  runOn_answered call a

/-- `a.noted note` shadows `a` and writes down what is noted of the result. -/
theorem noted (note : Except Failure α → ε) (a : Act σ α) :
    Shadows (a.noted note) a fun s => [note (a.runOn s).1] :=
  fun t => runOn_noted_of rfl note t.trace

/-- `Shadows b a fun _ => []` where it is known how `a` ends: so does `b`, and the trace is as it
was. -/
theorem runOn_quiet (h : Shadows b a fun _ => []) {s s' : σ} {r : Except Failure α}
    (hrun : a.runOn s = (r, s')) (T : List ε) : b.runOn ⟨s, T⟩ = (r, ⟨s', T⟩) := by
  rw [h ⟨s, T⟩, hrun, List.append_nil]

/-- `pure x` writes nothing down. -/
theorem pure (x : α) : Shadows (ε := ε) (Pure.pure x) (Pure.pure x : Act σ α) fun _ => [] := by
  intro t
  show (Except.ok x, t) = (Except.ok x, ⟨t.host, t.trace ++ []⟩)
  rw [List.append_nil]

/-- `fail f` writes nothing down. -/
theorem fail (f : Failure) : Shadows (ε := ε) (Act.fail f) (Act.fail f : Act σ α) fun _ => [] := by
  intro t
  show (Except.error f, t) = (Except.error f, ⟨t.host, t.trace ++ []⟩)
  rw [List.append_nil]

/-- `b >>= k'` writes what `b` does, and behind it, unless the first act failed, what `k' x` does.
-/
theorem bind {k : α → Act σ β} {k' : α → Act (Traced σ ε) β} {v : α → σ → List ε}
    (h : Shadows b a w) (hk : ∀ x, Shadows (k' x) (k x) (v x)) :
    Shadows (b >>= k') (a >>= k) fun s => w s ++ afterwards a v s := by
  intro t
  rw [runOn_bind, runOn_bind, h t]
  rcases hrun : a.runOn t.host with ⟨r, s'⟩
  cases r with
  | ok x =>
    dsimp only
    rw [hk x, afterwards_of_ok hrun, List.append_assoc]
  | error f =>
    dsimp only
    rw [afterwards_of_error hrun, List.append_nil]

/-- Behind an act that writes `w`, acts that write nothing leave it at `w`. -/
theorem bind_quiet {k : α → Act σ β} {k' : α → Act (Traced σ ε) β} (h : Shadows b a w)
    (hk : ∀ x, Shadows (k' x) (k x) fun _ => []) : Shadows (b >>= k') (a >>= k) w := by
  simpa using h.bind hk

/-- Behind an act that writes nothing, what is written is `afterwards a v`. -/
theorem quiet_bind {k : α → Act σ β} {k' : α → Act (Traced σ ε) β} {v : α → σ → List ε}
    (h : Shadows b a fun _ => []) (hk : ∀ x, Shadows (k' x) (k x) (v x)) :
    Shadows (b >>= k') (a >>= k) (afterwards a v) :=
  h.bind hk

/-- `attempt b` writes what `b` does. -/
theorem attempt (h : Shadows b a w) : Shadows (Act.attempt b) (Act.attempt a) w := by
  intro t
  rw [runOn_attempt, runOn_attempt, h t]

/-- `inContext context b` writes what `b` does. -/
theorem inContext (context : String) (h : Shadows b a w) :
    Shadows (Act.inContext context b) (Act.inContext context a) w := by
  intro t
  rw [runOn_inContext, runOn_inContext, h t]
  rcases a.runOn t.host with ⟨r, s'⟩
  cases r <;> rfl

/-- `items.forM g` writes what `g` does of each item, one behind the other, where no act fails. -/
theorem forM {f : β → Act σ Unit} {g : β → Act (Traced σ ε) Unit} {v : β → List ε}
    (hg : ∀ i, Shadows (g i) (f i) fun _ => v i) (hok : ∀ i s, ((f i).runOn s).1 = .ok ())
    (items : List β) : Shadows (items.forM g) (items.forM f) fun _ => items.flatMap v := by
  induction items with
  | nil => exact pure ()
  | cons i rest ih =>
    intro t
    have hboth := (hg i).bind (fun _ => ih) t
    have hfirst : (f i).runOn t.host = (.ok (), ((f i).runOn t.host).2) :=
      Prod.ext (hok i t.host) rfl
    dsimp only at hboth
    rw [afterwards_of_ok hfirst] at hboth
    rw [List.flatMap_cons]
    exact hboth

end Shadows

/-! ## Followers -/

/-- `b` does on the host of a traced host what `a` does on a host, whatever it writes down. -/
def Follows (b : Act (Traced σ ε) α) (a : Act σ α) : Prop :=
  ∃ w, Shadows b a w

namespace Follows

variable {a : Act σ α} {b : Act (Traced σ ε) α}

/-- `Follows b a` at an act that ran: `b` ends the same and leaves the same host, with some trace.
-/
theorem runOn_eq (h : Follows b a) {s s' : σ} {r : Except Failure α} (hrun : a.runOn s = (r, s'))
    (T : List ε) : ∃ T', b.runOn ⟨s, T⟩ = (r, ⟨s', T'⟩) := by
  obtain ⟨w, h⟩ := h
  refine ⟨T ++ w s, ?_⟩
  rw [h ⟨s, T⟩, hrun]

/-- `a.unseen` follows `a`. -/
theorem unseen (a : Act σ α) : Follows (ε := ε) a.unseen a := ⟨_, .unseen a⟩

/-- `a.seen call` follows `a`. -/
theorem seen (call : ε) (a : Act σ α) : Follows (a.seen call) a := ⟨_, .seen call a⟩

/-- `a.answered call` follows `a`. -/
theorem answered (call : ε) (a : Act σ α) : Follows (a.answered call) a := ⟨_, .answered call a⟩

/-- `a.noted note` follows `a`. -/
theorem noted (note : Except Failure α → ε) (a : Act σ α) : Follows (a.noted note) a :=
  ⟨_, .noted note a⟩

/-- `pure x` follows `pure x`. -/
theorem pure (x : α) : Follows (ε := ε) (Pure.pure x) (Pure.pure x : Act σ α) := ⟨_, .pure x⟩

/-- `fail f` follows `fail f`. -/
theorem fail (f : Failure) : Follows (ε := ε) (Act.fail f) (Act.fail f : Act σ α) := ⟨_, .fail f⟩

/-- `refuse e` follows `refuse e`. -/
theorem refuse (e : SessionError) :
    Follows (ε := ε) (Act.refuse e) (Act.refuse e : Act σ α) :=
  fail _

/-- `ofExcept r` follows `ofExcept r`. -/
theorem ofExcept (r : Except Failure α) :
    Follows (ε := ε) (Act.ofExcept r) (Act.ofExcept r : Act σ α) := by
  cases r with
  | ok x => exact pure x
  | error f => exact fail f

/-- `b >>= k'` follows `a >>= k` where `b` follows `a` and `k' x` follows `k x`. -/
theorem bind {k : α → Act σ β} {k' : α → Act (Traced σ ε) β} (h : Follows b a)
    (hk : ∀ x, Follows (k' x) (k x)) : Follows (b >>= k') (a >>= k) := by
  obtain ⟨w, h⟩ := h
  choose v hv using hk
  exact ⟨_, h.bind hv⟩

/-- To look at a traced host and go on with its host follows to look at the host and go on. -/
theorem look {k : σ → Act σ β} (k' : σ → Act (Traced σ ε) β) (hk : ∀ s, Follows (k' s) (k s)) :
    Follows (Act.look >>= fun t => k' t.host) (Act.look >>= k) := by
  -- the host that is looked up is the one that is written about
  choose v hv using hk
  refine ⟨fun s => v s s, fun t => ?_⟩
  rw [runOn_bind, runOn_bind]
  exact hv t.host t

/-- `attempt b` follows `attempt a` where `b` follows `a`. -/
theorem attempt (h : Follows b a) : Follows (Act.attempt b) (Act.attempt a) := by
  obtain ⟨w, h⟩ := h
  exact ⟨w, h.attempt⟩

/-- `inContext context b` follows `inContext context a` where `b` follows `a`. -/
theorem inContext (context : String) (h : Follows b a) :
    Follows (Act.inContext context b) (Act.inContext context a) := by
  obtain ⟨w, h⟩ := h
  exact ⟨w, h.inContext context⟩

/-- `if c then b else b'` follows branch by branch. -/
theorem ite {c : Prop} [Decidable c] {a' : Act σ α} {b' : Act (Traced σ ε) α} (ht : Follows b a)
    (hf : Follows b' a') : Follows (if c then b else b') (if c then a else a') := by
  by_cases hc : c
  · rw [if_pos hc, if_pos hc]
    exact ht
  · rw [if_neg hc, if_neg hc]
    exact hf

end Follows

/-! ## What is ensured of a traced host -/

/-- What holds of the host, together with the trace so far. -/
def Told (P : σ → Prop) (T : List ε) (t : Traced σ ε) : Prop :=
  P t.host ∧ t.trace = T

namespace Ensures

variable {P : σ → Prop} {Q : α → σ → Prop} {E : Failure → σ → Prop} {a : Act σ α}

/-- **A contract is kept by a shadow.** What `a` ensures of a host, `b` ensures of the host of a
traced one, and the trace grows by what `b` writes. -/
theorem told {b : Act (Traced σ ε) α} {written : List ε} (h : Ensures P a Q E)
    (hb : Shadows b a fun _ => written) (T : List ε) :
    Ensures (Told P T) b (fun x => Told (Q x) (T ++ written))
      fun f => Told (E f) (T ++ written) := by
  rintro ⟨s, T'⟩ ⟨hs, rfl⟩
  have hanswer := h s hs
  rw [hb ⟨s, T'⟩]
  rcases hrun : a.runOn s with ⟨r, s'⟩
  rw [hrun] at hanswer
  cases r <;> exact ⟨hanswer, rfl⟩

/-- What `a` ensures, it ensures unseen, and the trace stays. -/
theorem unseen (h : Ensures P a Q E) (T : List ε) :
    Ensures (Told P T) a.unseen (fun x => Told (Q x) T) fun f => Told (E f) T := by
  have htold := h.told (Shadows.unseen a) T
  rwa [List.append_nil] at htold

/-- What `a` ensures, it ensures when it is seen, and the trace has `call` at its end. -/
theorem seen (h : Ensures P a Q E) (call : ε) (T : List ε) :
    Ensures (Told P T) (a.seen call) (fun x => Told (Q x) (T ++ [call]))
      fun f => Told (E f) (T ++ [call]) :=
  h.told (.seen call a) T

/-- A call is written down behind with how it ended. -/
theorem answered (h : Ensures P a Q E) (call : ε) (T : List (ε × Except Failure α)) :
    Ensures (Told P T) (a.answered call) (fun x => Told (Q x) (T ++ [(call, .ok x)]))
      fun f => Told (E f) (T ++ [(call, .error f)]) := by
  rintro ⟨s, T'⟩ ⟨hs, rfl⟩
  have hanswer := h s hs
  rw [runOn_answered]
  rcases hrun : a.runOn s with ⟨r, s'⟩
  rw [hrun] at hanswer
  cases r <;> exact ⟨hanswer, rfl⟩

end Ensures

/-- What holds of the trace is kept by `a.unseen`. -/
theorem keeps_unseen (J : List ε → Prop) (a : Act σ α) : Keeps (fun t => J t.trace) a.unseen := by
  intro t ht
  rw [runOn_unseen]
  cases (a.runOn t.host).1 <;> exact ht

/-- What holds of the trace is kept by `a.answered call` where no result of the call takes it away.
-/
theorem keeps_answered {J : List (ε × Except Failure α) → Prop} {call : ε}
    (h : ∀ T r, J T → J (T ++ [(call, r)])) (a : Act σ α) :
    Keeps (fun t => J t.trace) (a.answered call) :=
  .of_final fun t ht => h t.trace (a.runOn t.host).1 ht

/-- `a.seen call` takes `J` of the trace to `J'` where adding `call` does, however the call ends. -/
theorem ensures_trace {J J' : List ε → Prop} {call : ε} (h : ∀ T, J T → J' (T ++ [call]))
    (a : Act σ α) :
    Ensures (fun t => J t.trace) (a.seen call) (fun _ t => J' t.trace) fun _ t => J' t.trace := by
  intro t ht
  rw [runOn_seen]
  cases (a.runOn t.host).1 <;> exact h _ ht

end Act

end MountKeeper
