import MountKeeper.Act
import Mathlib.Tactic.Basic

/-! # What acts ensure

An act is described by what holds before it, what holds of its answer and the host behind it, and
what holds of its failure and the host that the failure leaves.

* `Act.Ensures P a Q E`: from a host of which `P` holds, `a` answers so that `Q` holds, or fails so
  that `E` holds. With `E` false, the act does not fail.
* One rule for each way of putting acts together: `Ensures.bind`, `Ensures.attempt`,
  `Ensures.inContext`, `Ensures.ite` and their like. Proofs about acts go by these rules and by what
  is known of the parts, not by running them.
* `Act.Keeps I a`: the act keeps `I`, whether it answers or fails.
* `Act.runAll` runs acts one after the other, whatever fails leaving its host to the next one;
  `Keeps.runAll`: what each of them keeps is kept by the run. -/

namespace MountKeeper.Act

variable {σ τ α β : Type}

/-! ## Running -/

/-- `attempt a` answers with the result of `a`, be it an answer or a failure, and leaves the host
that `a` leaves. -/
theorem runOn_attempt (a : Act σ α) (s : σ) :
    (attempt a).runOn s = (.ok (a.runOn s).1, (a.runOn s).2) := rfl

/-- `inContext context a` does what `a` does, and puts `context` in front of the failure, if there
is one. -/
theorem runOn_inContext (context : String) (a : Act σ α) (s : σ) :
    (inContext context a).runOn s = match a.runOn s with
      | (.ok x, s') => (.ok x, s')
      | (.error f, s') => (.error (f.within context), s') := rfl

/-- `inContext context a` answers only what `a` answers without the context. -/
theorem runOn_of_inContext {context : String} {a : Act σ α} {s s' : σ} {x : α}
    (h : (inContext context a).runOn s = (.ok x, s')) : a.runOn s = (.ok x, s') := by
  rw [runOn_inContext] at h
  rcases hrun : a.runOn s with ⟨r, s''⟩
  rw [hrun] at h
  cases r with
  | ok y => exact h
  | error f => exact absurd (congrArg Prod.fst h) nofun

/-- `r.toOption = some x` says that `r` is the answer `x`. -/
theorem eq_ok_of_toOption {r : Except Failure α} {x : α} (h : r.toOption = some x) : r = .ok x := by
  cases r with
  | ok y => rw [Option.some.inj h]
  | error f => exact absurd h (by simp [Except.toOption])

/-- An act of which `toOption` tells the answer runs to this answer, and to the host that it leaves
behind. -/
theorem runOn_of_toOption {a : Act σ α} {s : σ} {x : α} (h : (a.runOn s).1.toOption = some x) :
    a.runOn s = (.ok x, (a.runOn s).2) :=
  Prod.ext (eq_ok_of_toOption h) rfl

/-- The failure of a result, if it is one. -/
def failure? : Except Failure α → Option Failure
  | .ok _ => none
  | .error f => some f

/-- An act of which `failure?` tells the failure runs to this failure, and to the host that it
leaves behind. -/
theorem runOn_of_failure? {a : Act σ α} {s : σ} {f : Failure} (h : failure? (a.runOn s).1 = some f) :
    a.runOn s = (.error f, (a.runOn s).2) := by
  rcases hrun : a.runOn s with ⟨r, s'⟩
  rw [hrun] at h
  cases r with
  | ok x => exact absurd h (by simp [failure?])
  | error f' => rw [Option.some.inj h]

/-- `a >>= k`: the second act runs on the host that `a` leaves, unless `a` failed. -/
theorem runOn_bind (a : Act σ α) (k : α → Act σ β) (s : σ) :
    (a >>= k).runOn s = match a.runOn s with
      | (.ok x, s') => (k x).runOn s'
      | (.error f, s') => (.error f, s') := by
  show (ExceptT.run (a >>= k)).run s = _
  simp only [ExceptT.run_bind, StateT.run_bind]
  unfold runOn
  rcases StateT.run (m := Id) (ExceptT.run a) s with ⟨r, s'⟩
  cases r <;> rfl

/-- `f <$> a`: what is made of an answer is made of it on the same host. -/
theorem runOn_map (f : α → β) (a : Act σ α) (s : σ) :
    (f <$> a).runOn s = ((a.runOn s).1.map f, (a.runOn s).2) := by
  rw [map_eq_pure_bind, runOn_bind]
  rcases a.runOn s with ⟨r, s'⟩
  cases r <;> rfl

/-- `a.on part` runs `a` on the part of the host, and puts the part back that `a` leaves. -/
theorem runOn_on (a : Act τ α) (part : Part σ τ) (s : σ) :
    (a.on part).runOn s = ((a.runOn (part.get s)).1, part.put (a.runOn (part.get s)).2 s) := rfl

/-- `a.on part` where it is known what `a` does on the part: it answers the same, and puts back what
is left of the part. -/
theorem runOn_on_of (part : Part σ τ) {a : Act τ α} {s : σ} {r : Except Failure α} {t : τ}
    (h : a.runOn (part.get s) = (r, t)) : (a.on part).runOn s = (r, part.put t s) := by
  rw [runOn_on, h]

/-- Read the other way: what `a.on part` does is what `a` does on the part, where a part that was
put into a host is the part that is found there. -/
theorem runOn_of_on {part : Part σ τ} (hget : ∀ t s, part.get (part.put t s) = t) {a : Act τ α}
    {s s' : σ} {r : Except Failure α} (h : (a.on part).runOn s = (r, s')) :
    a.runOn (part.get s) = (r, part.get s') := by
  rw [runOn_on] at h
  cases h
  rw [hget]

/-! ## Before and behind an act -/

/-- From a host of which `P` holds, the act answers so that `Q` holds of the answer and the host, or
fails so that `E` holds of the failure and the host. -/
def Ensures (P : σ → Prop) (a : Act σ α) (Q : α → σ → Prop) (E : Failure → σ → Prop) : Prop :=
  ∀ s, P s → match a.runOn s with
    | (.ok x, s') => Q x s'
    | (.error f, s') => E f s'

namespace Ensures

variable {P P' : σ → Prop} {Q Q' : α → σ → Prop} {R : β → σ → Prop} {E E' : Failure → σ → Prop}
  {a : Act σ α}

/-- `Ensures P a Q E` at an act that answered: `Q` holds of the answer and of the host behind it. -/
theorem of_ok (h : Ensures P a Q E) {s s' : σ} {x : α} (hs : P s) (hrun : a.runOn s = (.ok x, s')) :
    Q x s' := by
  have := h s hs
  rwa [hrun] at this

/-- `Ensures P a Q E` at an act that failed: `E` holds of the failure and of the host behind it. -/
theorem of_error (h : Ensures P a Q E) {s s' : σ} {f : Failure} (hs : P s)
    (hrun : a.runOn s = (.error f, s')) : E f s' := by
  have := h s hs
  rwa [hrun] at this

/-- An act that does not fail where `P` holds has an answer, and `Q` holds of it. -/
theorem exists_ok (h : Ensures P a Q fun _ _ => False) {s : σ} (hs : P s) :
    ∃ x s', a.runOn s = (.ok x, s') ∧ Q x s' := by
  have := h s hs
  rcases hrun : a.runOn s with ⟨r, s'⟩
  rw [hrun] at this
  cases r with
  | ok x => exact ⟨x, s', rfl, this⟩
  | error f => exact this.elim

/-- What holds behind an act in either case holds of the host in `(a.runOn s).2`. -/
theorem final {I : σ → Prop} (h : Ensures P a (fun _ => I) fun _ => I) {s : σ} (hs : P s) :
    I (a.runOn s).2 := by
  have := h s hs
  rcases hrun : a.runOn s with ⟨r, s'⟩
  rw [hrun] at this
  cases r <;> exact this

/-- The most that is ensured from one host: what `a.runOn s` is. -/
theorem runs (a : Act σ α) (s : σ) :
    Ensures (fun t => t = s) a (fun x s' => a.runOn s = (.ok x, s'))
      fun f s' => a.runOn s = (.error f, s') := by
  rintro t rfl
  rcases hrun : a.runOn t with ⟨r, s'⟩
  cases r <;> rfl

/-- Two contracts of one act: what the first says of answers holds without failures, when the second
rules them out. -/
theorem of_succeeds (h : Ensures P a Q E) (hs : Ensures P a (fun _ _ => True) fun _ _ => False) :
    Ensures P a Q fun _ _ => False := by
  intro s hP
  have hbehind := h s hP
  have hno := hs s hP
  rcases hrun : a.runOn s with ⟨r, s'⟩
  rw [hrun] at hbehind hno
  cases r with
  | ok x => exact hbehind
  | error f => exact hno

/-- The rule of consequence: `P` may be made stronger, and `Q` and `E` weaker. -/
theorem mono (h : Ensures P a Q E) (hP : ∀ s, P' s → P s) (hQ : ∀ x s, Q x s → Q' x s)
    (hE : ∀ f s, E f s → E' f s) : Ensures P' a Q' E' := by
  intro s hs
  have := h s (hP s hs)
  rcases hrun : a.runOn s with ⟨r, s'⟩
  rw [hrun] at this
  cases r with
  | ok x => exact hQ x s' this
  | error f => exact hE f s' this

/-- The rule of consequence behind an act: `Q` and `E` may be made weaker. -/
theorem weaken (h : Ensures P a Q E) (hQ : ∀ x s, Q x s → Q' x s) (hE : ∀ f s, E f s → E' f s) :
    Ensures P a Q' E' :=
  h.mono (fun _ hs => hs) hQ hE

/-- The rule of consequence for failures: `E` may be made weaker. -/
theorem failing (h : Ensures P a Q E) (hE : ∀ f s, E f s → E' f s) : Ensures P a Q E' :=
  h.weaken (fun _ _ hq => hq) hE

/-- A contract without failures allows for any `E`. -/
theorem never (h : Ensures P a Q fun _ _ => False) : Ensures P a Q E :=
  h.failing fun _ _ hf => hf.elim

/-- How an act ended is how it ended on some host that `P` holds of: `Q` and `E` may be joined with
such a host. -/
theorem witnessed (h : Ensures P a Q E) :
    Ensures P a (fun x s' => Q x s' ∧ ∃ s, P s ∧ (a.runOn s).1 = .ok x)
      fun f s' => E f s' ∧ ∃ s, P s ∧ (a.runOn s).1 = .error f := by
  intro s hs
  have hbehind := h s hs
  rcases hrun : a.runOn s with ⟨r, s'⟩
  rw [hrun] at hbehind
  cases r with
  | ok x => exact ⟨hbehind, s, hs, by rw [hrun]⟩
  | error f => exact ⟨hbehind, s, hs, by rw [hrun]⟩

/-- A fact that has nothing to do with the host may be taken out of `P`, and be used to show the
rest. -/
theorem of_fact {p : Prop} (h : p → Ensures P a Q E) : Ensures (fun s => p ∧ P s) a Q E :=
  fun s hs => h hs.1 s hs.2

/-- A value may be taken out of `P`, and the rest be shown for each. -/
theorem of_exists {ι : Type} {P : ι → σ → Prop} (h : ∀ i, Ensures (P i) a Q E) :
    Ensures (fun s => ∃ i, P i s) a Q E :=
  fun s ⟨i, hs⟩ => h i s hs

/-! ### One rule for each way of putting acts together -/

/-- `pure x` ensures what holds of `x` where `P` holds. -/
theorem pure {x : α} (h : ∀ s, P s → Q x s) : Ensures P (Pure.pure x) Q E :=
  h

/-- `Act.fail f` ensures what holds of the failure `f` where `P` holds. -/
theorem fail {f : Failure} (h : ∀ s, P s → E f s) : Ensures P (Act.fail f : Act σ α) Q E :=
  h

/-- `Act.refuse e` ensures what holds of the failure that `e` is where `P` holds. -/
theorem refuse {e : SessionError} (h : ∀ s, P s → E (.ofSession e) s) :
    Ensures P (Act.refuse e : Act σ α) Q E :=
  h

/-- `Act.look` answers with the host: `Q` is to hold of it twice. -/
theorem look {Q : σ → σ → Prop} (h : ∀ s, P s → Q s s) : Ensures P Act.look Q E :=
  h

/-- `Act.change f` answers on the host `f s`. -/
theorem change {f : σ → σ} {Q : Unit → σ → Prop} (h : ∀ s, P s → Q () (f s)) :
    Ensures P (Act.change f) Q E :=
  h

/-- `a >>= k`: what `a` ensures of its answers is what `k x` may count on. A failure of either is
one that `E` is about. -/
theorem bind {k : α → Act σ β} (ha : Ensures P a Q E) (hk : ∀ x, Ensures (Q x) (k x) R E) :
    Ensures P (a >>= k) R E := by
  intro s hs
  have hfirst := ha s hs
  rw [runOn_bind]
  rcases hrun : a.runOn s with ⟨r, s'⟩
  rw [hrun] at hfirst
  cases r with
  | ok x => exact hk x s' hfirst
  | error f => exact hfirst

/-- `f <$> a` ensures of `f x` what `a` ensures of its answer `x`. -/
theorem map {f : α → β} (h : Ensures P a (fun x => R (f x)) E) : Ensures P (f <$> a) R E := by
  rw [map_eq_pure_bind]
  exact h.bind fun x => Ensures.pure fun s hs => hs

/-- `attempt a` answers with the result of `a`: the failures of `a` are among its answers, and it
has none itself. -/
theorem attempt {Q : Except Failure α → σ → Prop}
    (h : Ensures P a (fun x => Q (.ok x)) fun f => Q (.error f)) :
    Ensures P (Act.attempt a) Q E := by
  intro s hs
  have := h s hs
  rw [runOn_attempt]
  rcases hrun : a.runOn s with ⟨r, s'⟩
  rw [hrun] at this
  cases r <;> exact this

/-- `attempt a` and then `k`: on an answer of `a` as on a failure, `k` goes on from what `a` ensures
of it. -/
theorem attempt_bind {F : Failure → σ → Prop} {k : Except Failure α → Act σ β}
    (h : Ensures P a Q F) (hok : ∀ x, Ensures (Q x) (k (.ok x)) R E)
    (hfailed : ∀ f, Ensures (F f) (k (.error f)) R E) : Ensures P (Act.attempt a >>= k) R E := by
  intro s hs
  have hfirst := h s hs
  rw [runOn_bind, runOn_attempt]
  rcases hrun : a.runOn s with ⟨r, s'⟩
  rw [hrun] at hfirst
  cases r with
  | ok x => exact hok x s' hfirst
  | error f => exact hfailed f s' hfirst

/-- Read the other way: what is known behind `attempt a` is known behind `a`, with its failure taken
for an answer. -/
theorem of_attempt {Q : Except Failure α → σ → Prop}
    (h : Ensures P (Act.attempt a) Q fun _ _ => False) :
    Ensures P a (fun x => Q (.ok x)) fun f => Q (.error f) := by
  intro s hs
  have hbehind := h s hs
  rw [runOn_attempt] at hbehind
  rcases hrun : a.runOn s with ⟨r, s'⟩
  rw [hrun] at hbehind
  cases r <;> exact hbehind

/-- `inContext context a` ensures what `a` does, and of failures what holds with `context` in front
of them. -/
theorem inContext {context : String} (h : Ensures P a Q fun f => E (f.within context)) :
    Ensures P (Act.inContext context a) Q E := by
  intro s hs
  have := h s hs
  rw [runOn_inContext]
  rcases hrun : a.runOn s with ⟨r, s'⟩
  rw [hrun] at this
  cases r <;> exact this

/-- `ofExcept r` ensures what holds of the answer or the failure that `r` is. -/
theorem ofExcept {r : Except Failure α} (hok : ∀ x, r = .ok x → ∀ s, P s → Q x s)
    (herror : ∀ f, r = .error f → ∀ s, P s → E f s) : Ensures P (Act.ofExcept r) Q E := by
  cases r with
  | ok x => exact Ensures.pure (hok x rfl)
  | error f => exact Ensures.fail (herror f rfl)

/-- `if c then a else b`: each branch may count on its side of `c`. -/
theorem ite {c : Prop} [Decidable c] {b : Act σ α} (ht : c → Ensures P a Q E)
    (hf : ¬ c → Ensures P b Q E) : Ensures P (if c then a else b) Q E := by
  by_cases hc : c
  · rw [if_pos hc]
    exact ht hc
  · rw [if_neg hc]
    exact hf hc

/-- `b.on part` ensures of the part what `b` ensures, together with `rest`, which does not depend on
the part. -/
theorem on {P : τ → Prop} {b : Act τ α} {Q : α → τ → Prop} {E : Failure → τ → Prop} {part : Part σ τ}
    {rest : σ → Prop} (h : Ensures P b Q E) (hget : ∀ t s, part.get (part.put t s) = t)
    (hrest : ∀ t s, rest s → rest (part.put t s)) :
    Ensures (fun s => P (part.get s) ∧ rest s) (b.on part) (fun x s => Q x (part.get s) ∧ rest s)
      fun f s => E f (part.get s) ∧ rest s := by
  rintro s ⟨hs, hr⟩
  have hpart := h (part.get s) hs
  rw [runOn_on]
  rcases hrun : b.runOn (part.get s) with ⟨r, t⟩
  rw [hrun] at hpart
  cases r <;> exact ⟨by rwa [hget], hrest t s hr⟩

/-- `b.on part` ensures of the part of the host what `b` ensures. -/
theorem onPart {P : τ → Prop} {b : Act τ α} {Q : α → τ → Prop} {E : Failure → τ → Prop}
    {part : Part σ τ} (h : Ensures P b Q E) (hget : ∀ t s, part.get (part.put t s) = t) :
    Ensures (fun s => P (part.get s)) (b.on part) (fun x s => Q x (part.get s))
      fun f s => E f (part.get s) := by
  have hon := h.on hget fun _ _ (ht : True) => ht
  exact hon.mono (fun _ hs => ⟨hs, trivial⟩) (fun _ _ hs => hs.1) fun _ _ hs => hs.1

end Ensures

/-- Where something holds, the act does not fail. -/
def Succeeds (P : σ → Prop) (a : Act σ α) : Prop :=
  Ensures P a (fun _ _ => True) fun _ _ => False

/-! ## Keeping something -/

/-- The act keeps `I`, whether it answers or fails. -/
def Keeps (I : σ → Prop) (a : Act σ α) : Prop :=
  Ensures I a (fun _ => I) fun _ => I

namespace Keeps

variable {I : σ → Prop} {a : Act σ α}

/-- `Keeps I a` is that `I` holds behind the act, however that ended. -/
theorem of_final (h : ∀ s, I s → I (a.runOn s).2) : Keeps I a := by
  intro s hs
  have hbehind := h s hs
  rcases hrun : a.runOn s with ⟨r, s'⟩
  rw [hrun] at hbehind
  cases r <;> exact hbehind

/-- `Keeps I a` at an act that ran: `I` holds of the host that it left. -/
theorem behind (h : Keeps I a) {s s' : σ} {r : Except Failure α} (hs : I s)
    (hrun : a.runOn s = (r, s')) : I s' := by
  have hfinal := Ensures.final h hs
  rwa [hrun] at hfinal

/-- `pure x` keeps everything. -/
theorem pure (x : α) : Keeps I (Pure.pure x : Act σ α) :=
  Ensures.pure fun _ hs => hs

/-- `fail f` keeps everything. -/
theorem fail (f : Failure) : Keeps I (Act.fail f : Act σ α) :=
  Ensures.fail fun _ hs => hs

/-- `look` keeps everything. -/
theorem look : Keeps I (Act.look : Act σ σ) :=
  Ensures.look fun _ hs => hs

/-- `a >>= k` keeps what both acts keep. -/
theorem bind {k : α → Act σ β} (h : Keeps I a) (hk : ∀ x, Keeps I (k x)) : Keeps I (a >>= k) :=
  Ensures.bind h hk

/-- `attempt a` keeps what `a` keeps. -/
theorem attempt (h : Keeps I a) : Keeps I (Act.attempt a) :=
  Ensures.attempt (Q := fun _ => I) h

/-- `attempt a` keeps what `a` keeps, and it does not fail. -/
theorem attempted (h : Keeps I a) : Ensures I (Act.attempt a) (fun _ => I) fun _ _ => False :=
  Ensures.attempt (Q := fun _ => I) h

/-- `inContext context a` keeps what `a` keeps. -/
theorem inContext (context : String) (h : Keeps I a) : Keeps I (Act.inContext context a) :=
  Ensures.inContext h

/-- `if c then a else b` keeps what both branches keep. -/
theorem ite {c : Prop} [Decidable c] {b : Act σ α} (ht : Keeps I a) (hf : Keeps I b) :
    Keeps I (if c then a else b) :=
  Ensures.ite (fun _ => ht) fun _ => hf

end Keeps

/-! ## Runs -/

/-- Runs acts one after the other, each on the host that the one before it left behind. -/
def runAll : List (Act σ Unit) → σ → σ
  | [], s => s
  | act :: acts, s => runAll acts (act.runOn s).2

/-- **A run keeps what its acts keep**: the step is `Keeps I act` for each of them, the run goes on
by induction. -/
theorem Keeps.runAll {I : σ → Prop} {acts : List (Act σ Unit)} (h : ∀ act ∈ acts, Keeps I act)
    {s : σ} (hs : I s) : I (runAll acts s) := by
  induction acts generalizing s with
  | nil => exact hs
  | cons act acts ih =>
    have hfirst : I (act.runOn s).2 := Ensures.final (h act List.mem_cons_self) hs
    exact ih (fun act' hact => h act' (List.mem_cons_of_mem act hact)) hfirst

end MountKeeper.Act
