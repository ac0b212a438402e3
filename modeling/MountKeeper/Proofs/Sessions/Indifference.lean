import MountKeeper.Proofs.Sessions.Matching

/-! # What a manager cannot see

Two hosts may differ in something that no part of a platform looks at. Then a manager answers the same
on both, and leaves them differing in nothing else.

* `Act.Agree R a b`: on hosts that `R` relates, the acts have the same answer and leave hosts that `R`
  relates. `Agree.matching`: this goes through every way of putting acts together. `Act.Alike R a` is
  so of one act on both hosts.
* `Act.answers` are the answers of acts that run one after the other; `Alike.answers`: they are the
  same when those of each act are.
* `SessionManager.Indifferent R m`: all parts of the platform are so.
* `Indifferent.answersAlike`: then so is all that the manager is asked for. -/

namespace MountKeeper

variable {σ τ : Type}

namespace Act

variable {α β : Type} {R : σ → τ → Prop} {a : Act σ α} {b : Act τ α}

/-- On hosts that `R` relates, the acts have the same answer, and they leave hosts that `R` relates. -/
def Agree (R : σ → τ → Prop) (a : Act σ α) (b : Act τ α) : Prop :=
  ∀ s t, R s t → (a.runOn s).1 = (b.runOn t).1 ∧ R (a.runOn s).2 (b.runOn t).2

namespace Agree

/-! ### One rule for each way of putting acts together -/

/-- `pure x` does not look at the host. -/
theorem pure (x : α) : Agree R (Pure.pure x) (Pure.pure x) :=
  fun _ _ h => ⟨rfl, h⟩

/-- `fail f` does not look at the host. -/
theorem fail (f : Failure) : Agree R (Act.fail f : Act σ α) (Act.fail f) :=
  fun _ _ h => ⟨rfl, h⟩

/-- **Sequence**: acts that agree, followed by acts that agree on every value. -/
theorem bind {k : α → Act σ β} {l : α → Act τ β} (hab : Agree R a b)
    (hkl : ∀ x, Agree R (k x) (l x)) : Agree R (a >>= k) (b >>= l) := by
  intro s t hst
  obtain ⟨hanswer, hbehind⟩ := hab s t hst
  rw [runOn_bind, runOn_bind]
  rcases hs : a.runOn s with ⟨r, s'⟩
  rcases ht : b.runOn t with ⟨r', t'⟩
  rw [hs, ht] at hanswer hbehind
  obtain rfl : r = r' := hanswer
  cases r with
  | ok x => exact hkl x s' t' hbehind
  | error f => exact ⟨rfl, hbehind⟩

/-- A failure that is passed over is passed over on both hosts. -/
theorem attempt (hab : Agree R a b) : Agree R (Act.attempt a) (Act.attempt b) := by
  intro s t hst
  obtain ⟨hanswer, hbehind⟩ := hab s t hst
  rw [runOn_attempt, runOn_attempt, hanswer]
  exact ⟨rfl, hbehind⟩

/-- A context is added on both hosts. -/
theorem inContext (context : String) (hab : Agree R a b) :
    Agree R (Act.inContext context a) (Act.inContext context b) := by
  intro s t hst
  obtain ⟨hanswer, hbehind⟩ := hab s t hst
  rw [runOn_inContext, runOn_inContext]
  rcases hs : a.runOn s with ⟨r, s'⟩
  rcases ht : b.runOn t with ⟨r', t'⟩
  rw [hs, ht] at hanswer hbehind
  obtain rfl : r = r' := hanswer
  cases r <;> exact ⟨rfl, hbehind⟩

/-- **Agreement goes through every way of putting acts together.** -/
def matching (R : σ → τ → Prop) : Act.Matching σ τ where
  Rel := Agree R
  pure := Agree.pure
  fail := Agree.fail
  bind := Agree.bind
  attempt := Agree.attempt
  inContext := Agree.inContext

/-- A result that is there already does not look at the host. -/
theorem ofExcept (r : Except Failure α) :
    Agree R (Act.ofExcept r : Act σ α) (Act.ofExcept r : Act τ α) := by
  cases r with
  | ok x => exact .pure x
  | error f => exact .fail f

/-- To look at a host shows nothing of what related hosts differ in, if what follows does not. -/
theorem look {k : σ → Act σ β} {l : τ → Act τ β} (h : ∀ s t, R s t → Agree R (k s) (l t)) :
    Agree R (Act.look >>= k) (Act.look >>= l) :=
  fun s t hst => h s t hst s t hst

end Agree

/-! ### One act on two hosts -/

/-- On hosts that `R` relates, the act does the same. -/
abbrev Alike (R : σ → σ → Prop) (a : Act σ α) : Prop :=
  Agree R a a

/-- The answers of acts that run one after the other, each on the host that the one before it left
behind. -/
def answers : List (Act σ α) → σ → List (Except Failure α)
  | [], _ => []
  | act :: acts, s => (act.runOn s).1 :: answers acts (act.runOn s).2

namespace Alike

variable {R : σ → σ → Prop}

/-- An act on a part of a host that leaves the part as it is. -/
theorem on {b : Act τ α} {part : Part σ τ} (hput : ∀ s, part.put (part.get s) s = s)
    (hquiet : ∀ x, (b.runOn x).2 = x)
    (hsame : ∀ s t, R s t → (b.runOn (part.get s)).1 = (b.runOn (part.get t)).1) :
    Alike R (b.on part) := by
  intro s t hst
  rw [runOn_on, runOn_on, hquiet, hquiet, hput, hput]
  exact ⟨hsame s t hst, hst⟩

/-- **The answers of a run** are the same on related hosts if those of each act are. -/
theorem answers {acts : List (Act σ α)} (h : ∀ act ∈ acts, Alike R act) {s t : σ} (hst : R s t) :
    answers acts s = answers acts t := by
  induction acts generalizing s t with
  | nil => rfl
  | cons act acts ih =>
    obtain ⟨hanswer, hbehind⟩ := h act List.mem_cons_self s t hst
    have hrest := ih (fun act' hact => h act' (List.mem_cons_of_mem act hact)) hbehind
    rw [Act.answers, Act.answers, hanswer, hrest]

end Alike

end Act

open Act (Agree Alike)

/-! ## Platforms -/

/-- The parts of a platform, other than its mount table, do the same on hosts that `R` relates. -/
structure SessionManager.PartsAlike (R : σ → σ → Prop) (m : SessionManager σ) : Prop where
  lookup : ∀ key, Alike R (m.books.registry.lookup key)
  unregister : ∀ key, Alike R (m.books.registry.unregister key)
  unmount : ∀ path lazily, Alike R (m.books.unmounter.unmount path lazily)
  isAlive : ∀ pid, Alike R (m.books.processes.isAlive pid)
  start : ∀ session options, Alike R (m.supervisor.start session options)
  stop : ∀ session, Alike R (m.supervisor.stop session)
  install : ∀ record, Alike R (m.remount.install record)
  uninstall : ∀ key, Alike R (m.remount.uninstall key)
  print : ∀ line, Alike R (m.console.print line)
  /-- The directories that are to be mounted on look the same. -/
  checkDirectory : ∀ s t, R s t → ∀ options,
    checkDirectory (m.disk.get s) options = checkDirectory (m.disk.get t) options
  self : ∀ s t, R s t → m.self s = m.self t

/-- All parts of a platform do the same on hosts that `R` relates. -/
structure SessionManager.Indifferent (R : σ → σ → Prop) (m : SessionManager σ) : Prop
    extends PartsAlike R m where
  list : Alike R m.books.mounts.list
  isDisconnected : ∀ key, Alike R (m.books.mounts.isDisconnected key)

/-- What a manager is asked for is answered the same on hosts that `R` relates. -/
structure SessionManager.AnswersAlike (R : σ → σ → Prop) (m : SessionManager σ) : Prop where
  isMounted : ∀ key s t, R s t →
    ((m.books.mounts.isMounted key).runOn s).1 = ((m.books.mounts.isMounted key).runOn t).1
  listMounts : ∀ s t, R s t → (m.listMounts.runOn s).1 = (m.listMounts.runOn t).1
  /-- One request after the other. -/
  requests : ∀ (rs : List SessionRequest) s t, R s t →
    Act.answers (rs.map (·.act m)) s = Act.answers (rs.map (·.act m)) t

namespace SessionManager.Indifferent

variable {R : σ → σ → Prop} {m : SessionManager σ}

/-- An indifferent platform matches itself. -/
theorem matched (h : m.Indifferent R) : m.Matched (Agree.matching R) m where
  surroundings_eq := rfl
  books := {
    lookup := h.lookup
    unregister := h.unregister
    list := h.list
    isDisconnected := h.isDisconnected
    unmount := h.unmount
    isAlive := h.isAlive }
  start := h.start
  stop := h.stop
  install := h.install
  uninstall := h.uninstall
  print := h.print
  checkDirectory options := Agree.look fun s t hst => by
    rw [h.checkDirectory s t hst options]
    exact .ofExcept _
  patterns_eq := rfl
  self := Agree.look fun s t hst => by
    rw [h.self s t hst]
    exact .pure _

/-- **A manager on an indifferent platform** answers all that it is asked for, and every run of
requests, the same on related hosts. -/
theorem answersAlike (h : m.Indifferent R) : m.AnswersAlike R where
  isMounted key s t hst := (h.matched.books.isMounted key s t hst).1
  listMounts s t hst := (h.matched.listMounts s t hst).1
  requests rs s t hst := by
    refine Alike.answers (fun act hact => ?_) hst
    obtain ⟨r, -, rfl⟩ := List.mem_map.1 hact
    exact h.matched.request r

end SessionManager.Indifferent

end MountKeeper
