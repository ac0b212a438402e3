import MountKeeper.Proofs.Sessions.Accountable
import MountKeeper.Proofs.Sessions.TakingDown
import Mathlib.Data.List.Perm.Basic

/-! # Unmounts of several paths

An unmount of a pattern, or of everything, goes through the mounts that it selects, whatever fails
on the way. The mounts and the records change under it while later paths are still to come.

* `Sweep` is such an unmount. A pattern counts only by the listed paths that it selects.
* `Teardown.OnLedger` is what is asked of the parts: an unmounter takes away the mounts of a key or
  leaves all as it was.
* `Attempt` is what came of one path; `OnLedger.attempt` is the step and `OnLedger.unmountEach` the
  run. Behind it, the ledger is `Ledger.without` the keys that worked.
* `Sweep.Course` is how a sweep goes, and `Teardown.OnLedger.unmountsSelected` says that every sweep
  goes so, whatever the order of the mounts. -/

namespace MountKeeper

open Act (Ensures Keeps Follows Told)

variable {σ : Type}

/-! ## Ledgers without some keys -/

namespace Ledger

/-- The ledger without the records and the mounts of some keys. -/
def without (V : Ledger) (gone : List SessionKey) : Ledger where
  records k := if k ∈ gone then none else V.records k
  table := V.table.filter fun p => SessionKey.ofPath p ∉ gone

/-- `V.without [] = V`. -/
@[simp] theorem without_nil (V : Ledger) : V.without [] = V := by
  simp [without]

/-- `(V.without gone).without later = V.without (gone ++ later)`. -/
theorem without_without (V : Ledger) (gone later : List SessionKey) :
    (V.without gone).without later = V.without (gone ++ later) := by
  unfold without
  congr 1
  · funext k
    by_cases hgone : k ∈ gone
    · simp [hgone]
    · simp [hgone]
  · rw [List.filter_filter]
    refine List.filter_congr fun p _ => ?_
    simp [Bool.and_comm]

/-- `V.erase k = V.without [k]`: to strike one key out is to leave it out. -/
theorem erase_eq_without (V : Ledger) (k : SessionKey) : V.erase k = V.without [k] := by
  unfold erase detach forget without
  congr 1
  · funext k'
    by_cases hk : k' = k
    · rw [hk, Function.update_self, if_pos (List.mem_singleton_self k)]
    · rw [Function.update_of_ne hk, if_neg (by simpa using hk)]
  · refine List.filter_congr fun p hp => ?_
    simp [bne, Bool.beq_eq_decide_eq]

/-- The keys of `V.without gone` are those of `V` that are not gone. -/
theorem mem_keys_without {V : Ledger} {gone : List SessionKey} {k : SessionKey} :
    k ∈ (V.without gone).keys ↔ k ∈ V.keys ∧ k ∉ gone := by
  unfold keys without
  simp only [List.mem_map, List.mem_filter, decide_eq_true_eq]
  constructor
  · rintro ⟨p, ⟨hp, hgone⟩, rfl⟩
    exact ⟨⟨p, hp, rfl⟩, hgone⟩
  · rintro ⟨⟨p, hp, rfl⟩, hgone⟩
    exact ⟨p, ⟨hp, hgone⟩, rfl⟩

end Ledger

/-! ## Attempts -/

/-- What was tried at a path, and what the unmounter answered. -/
structure Attempt where
  path : String
  answer : Except Failure Unit

namespace Attempt

/-- The key of the path. -/
def key (x : Attempt) : SessionKey := .ofPath x.path

/-- The calls of an attempt, with how they ended. A record is dropped behind its mount. -/
def calls (lazily : Bool) (x : Attempt) : List Dealing :=
  match x.answer with
  | .ok () => [(.detach x.key.text lazily, .ok ()), (.unregister x.key, .ok ())]
  | .error f => [(.detach x.key.text lazily, .error f)]

/-- The keys that are gone behind an attempt. -/
def gone (x : Attempt) : List SessionKey :=
  match x.answer with
  | .ok () => [x.key]
  | .error _ => []

/-- The line about a path in the report of failures. -/
def line? (x : Attempt) : Option String :=
  match x.answer with
  | .ok () => none
  | .error f => some s!"{x.path} - [{(Teardown.notDetached x.path f).message}]"

/-- An attempt that worked takes its key away: `x.gone = [x.key]`. -/
theorem gone_of_ok {x : Attempt} (h : x.answer = .ok ()) : x.gone = [x.key] := by
  unfold gone
  rw [h]

/-- An attempt that failed takes nothing away: `x.gone = []`. -/
theorem gone_of_ne_ok {x : Attempt} (h : x.answer ≠ .ok ()) : x.gone = [] := by
  unfold gone
  split
  · next hok => exact absurd hok h
  · rfl

/-- `k ∈ x.gone`: the attempt was at the path of `k`, and worked. -/
theorem mem_gone {x : Attempt} {k : SessionKey} : k ∈ x.gone ↔ k = x.key ∧ x.answer = .ok () := by
  by_cases h : x.answer = .ok ()
  · simp [gone_of_ok h, h]
  · simp [gone_of_ne_ok h, h]

/-- `x.line? = none` if and only if the attempt worked. -/
theorem line?_eq_none_iff {x : Attempt} : x.line? = none ↔ x.answer = .ok () := by
  unfold line?
  split
  · next hok => simp [hok]
  · next f herror => simp [herror]

/-- The one mount that `x.calls` are to take away is that of `x.key`. -/
theorem detachings_calls (lazily : Bool) (x : Attempt) :
    detachings (x.calls lazily) = [(x.key.text, lazily)] := by
  unfold calls
  split <;> rfl

/-- The keys that are gone behind some attempts. -/
def goneIn (attempts : List Attempt) : List SessionKey :=
  attempts.flatMap gone

/-- `k ∈ goneIn attempts` if and only if one of the attempts was at its path and worked. -/
theorem mem_goneIn {attempts : List Attempt} {k : SessionKey} :
    k ∈ goneIn attempts ↔ ∃ x ∈ attempts, k = x.key ∧ x.answer = .ok () := by
  simp only [goneIn, List.mem_flatMap, mem_gone]

/-- The calls of some attempts are to take away the mount of each, in order. -/
theorem detachings_flatMap_calls (lazily : Bool) (attempts : List Attempt) :
    detachings (attempts.flatMap (calls lazily))
      = attempts.map fun x => (x.key.text, lazily) := by
  induction attempts with
  | nil => rfl
  | cons x rest ih =>
    rw [List.flatMap_cons, detachings_append, detachings_calls, ih]
    rfl

end Attempt

/-! ## Sweeps -/

namespace Teardown

/-- Takes the mounts away whose path is selected. -/
def unmountWhere (t : Teardown σ) (target : String) (selects : String → Bool)
    (lazily silent : Bool) : Act σ Unit := do
  let paths := (← t.listed).filter selects
  if paths.isEmpty then
    Act.refuse (.notMounted target)
  let failures ← t.unmountEach lazily silent paths
  outcome paths.length failures

/-- A target that `t.patterns` reads as a pattern is unmounted by `unmountWhere`, with the paths
that the pattern selects. -/
theorem unmount_of_pattern (t : Teardown σ) {target : String} {selects : String → Bool}
    (hpattern : isPattern target = true) (hread : t.patterns target = .ok selects)
    (lazily silent : Bool) :
    t.unmount target lazily silent = t.unmountWhere target selects lazily silent := by
  rw [unmount, if_pos hpattern, unmountMatching, hread]
  rfl

end Teardown

/-- **What is asked of the parts of a teardown**: an unmount takes the mounts of a key away, or
leaves all as it was, and records can be dropped. -/
structure Teardown.OnLedger (t : Teardown σ) (a : Account σ) : Prop where
  /-- To look a record up changes nothing, even if it cannot be read. -/
  lookup : ∀ V k, Keeps (a.At V) (t.books.registry.lookup k)
  unregister : ∀ V k, Ensures (a.At V) (t.books.registry.unregister k)
    (fun _ => a.At (V.forget k)) fun _ _ => False
  list : ∀ V, Ensures (a.At V) t.books.mounts.list
    (fun paths s => paths = V.table ∧ a.At V s) fun _ _ => False
  unmount : ∀ V path lazily, Ensures (a.At V) (t.books.unmounter.unmount path lazily)
    (fun _ => a.At (V.detach (.ofPath path))) fun _ => a.At V
  print : ∀ V line, Ensures (a.At V) (t.console.print line) (fun _ => a.At V) fun _ _ => False

/-- `t.answered` follows `t`: to write down how calls end changes nothing. -/
theorem Teardown.followed_answered (t : Teardown σ) : t.FollowedBy t.answered where
  lookup _ := .unseen _
  unregister _ := .answered _ _
  list := .unseen _
  unmount _ _ := .answered _ _
  isAlive _ := .unseen _
  stop _ := .answered _ _
  print _ := .unseen _
  patterns_eq := rfl

/-- The answer of an attempt is one that the unmounter gave, on a host that keeps a ledger. -/
def Attempt.Made (x : Attempt) (t : Teardown σ) (a : Account σ) (lazily : Bool) : Prop :=
  ∃ V s, a.At V s ∧ ((t.books.unmounter.unmount x.key.text lazily).runOn s).1 = x.answer

namespace Teardown.OnLedger

variable {t : Teardown σ} {a : Account σ} (h : t.OnLedger a)

include h

/-! ### One path -/

/-- `isMounted k` answers whether `k` is among the keys of the ledger. -/
theorem isMounted (V : Ledger) (k : SessionKey) (T : List Dealing) :
    Ensures (Told (a.At V) T) (t.answered.books.mounts.isMounted k)
      (fun mounted u => (mounted = true ↔ k ∈ V.keys) ∧ Told (a.At V) T u) fun _ _ => False := by
  have hlist := (h.list V).unseen T
  refine Ensures.bind (hlist.failing fun _ _ hf => hf.1) fun paths => Ensures.pure ?_
  rintro u ⟨⟨rfl, hs⟩, hT⟩
  exact ⟨V.lists_table_iff k, hs, hT⟩

/-- `detach` takes the mount and its record out of the ledger, or leaves the ledger as it is and
fails as the unmounter did. -/
theorem detach (V : Ledger) (path : String) (lazily : Bool) (T : List Dealing) :
    Ensures (Told (a.At V) T) (t.answered.detach (.ofPath path) lazily)
      (fun _ u => (⟨path, .ok ()⟩ : Attempt).Made t a lazily ∧
        Told (a.At (V.erase (.ofPath path))) (T ++ (⟨path, .ok ()⟩ : Attempt).calls lazily) u)
      fun f u => ∃ g, f = notDetached path g ∧ (⟨path, .error g⟩ : Attempt).Made t a lazily ∧
        Told (a.At V) (T ++ (⟨path, .error g⟩ : Attempt).calls lazily) u := by
  have hunmount := (h.unmount V (SessionKey.ofPath path).text lazily).witnessed
  rw [SessionKey.ofPath_text] at hunmount
  -- the mount goes first, and the record only behind a mount that was taken away
  have hcall := hunmount.answered (ManagerCall.detach (SessionKey.ofPath path).text lazily) T
  have hdrop := (h.unregister (V.detach (.ofPath path)) (.ofPath path)).answered
    (ManagerCall.unregister (.ofPath path))
    (T ++ [(.detach (SessionKey.ofPath path).text lazily, .ok ())])
  unfold Teardown.detach
  refine Ensures.bind (Q := fun _ u => (⟨path, .ok ()⟩ : Attempt).Made t a lazily ∧
    Told (a.At (V.detach (.ofPath path)))
      (T ++ [(.detach (SessionKey.ofPath path).text lazily, .ok ())]) u)
    (Ensures.inContext (hcall.weaken ?_ ?_)) fun _ => Ensures.of_fact fun hmade => ?_
  · rintro _ u ⟨⟨hs, s, hV, hanswer⟩, hT⟩
    exact ⟨⟨V, s, hV, hanswer⟩, hs, hT⟩
  · rintro f u ⟨⟨hs, s, hV, hanswer⟩, hT⟩
    exact ⟨f, rfl, ⟨V, s, hV, hanswer⟩, hs, hT⟩
  · refine Ensures.bind (Q := fun _ u => (⟨path, .ok ()⟩ : Attempt).Made t a lazily ∧
      Told (a.At (V.erase (.ofPath path))) (T ++ (⟨path, .ok ()⟩ : Attempt).calls lazily) u)
      (Ensures.attempt (hdrop.weaken ?_ fun _ _ hf => hf.1.elim)) fun _ => Ensures.pure fun u hu => hu
    rintro _ u ⟨hs, hT⟩
    exact ⟨hmade, hs, by rw [hT, List.append_assoc]; rfl⟩

/-- **One step**: an attempt at a path that is mounted takes the ledger to `V.without x.gone`. It
takes its mount and its record away, or it changes nothing and its failure is in the report. -/
theorem attempt {V : Ledger} {path : String} (hpath : SessionKey.ofPath path ∈ V.keys)
    (lazily silent : Bool) (T : List Dealing) :
    Ensures (Told (a.At V) T)
      (Act.attempt (t.answered.unmountKey (.ofPath path) lazily silent))
      (fun r u => ∃ x : Attempt, (x.path = path ∧ x.Made t a lazily) ∧
        r = x.answer.mapError (notDetached path) ∧
        Told (a.At (V.without x.gone)) (T ++ x.calls lazily) u) fun _ _ => False := by
  have hlookup : Ensures (Told (a.At V) T)
      (Act.attempt (t.answered.books.registry.lookup (.ofPath path)))
      (fun _ => Told (a.At V) T) fun _ _ => False :=
    Ensures.attempt (Q := fun _ => Told (a.At V) T) ((h.lookup V _).unseen T)
  refine Ensures.attempt (Ensures.bind hlookup.never fun record => ?_)
  refine Ensures.bind (h.isMounted V (.ofPath path) T).never fun mounted =>
    Ensures.of_fact fun hmounted => ?_
  rw [if_pos (hmounted.2 hpath)]
  refine Ensures.bind ((h.detach V path lazily T).failing ?_) fun _ =>
    Ensures.of_fact fun hmade => ?_
  · rintro _ u ⟨g, rfl, hmade, hs⟩
    refine ⟨⟨path, .error g⟩, ⟨rfl, hmade⟩, rfl, ?_⟩
    rwa [Attempt.gone_of_ne_ok (by simp), Ledger.without_nil]
  · -- the mount is gone, and what is said about it changes nothing
    have hworked : ∀ u, Told (a.At (V.erase (.ofPath path)))
        (T ++ (⟨path, .ok ()⟩ : Attempt).calls lazily) u →
        ∃ x : Attempt, (x.path = path ∧ x.Made t a lazily) ∧
          (Except.ok () : Except Failure Unit) = x.answer.mapError (notDetached path) ∧
          Told (a.At (V.without x.gone)) (T ++ x.calls lazily) u := by
      intro u hs
      refine ⟨⟨path, .ok ()⟩, ⟨rfl, hmade⟩, rfl, ?_⟩
      rw [Attempt.gone_of_ok rfl]
      rwa [Ledger.erase_eq_without] at hs
    refine Ensures.ite (fun _ => ?_) fun _ => Ensures.pure hworked
    have hprint := (h.print (V.erase (.ofPath path))
      s!"Successfully unmounted {(SessionKey.ofPath path).text}").unseen
        (T ++ (⟨path, .ok ()⟩ : Attempt).calls lazily)
    exact hprint.weaken (fun _ => hworked) fun _ _ hf => hf.1.elim

/-! ### Several paths -/

/-- **A run**: paths of different keys that are mounted are tried one after the other, whatever
comes of them, and the report has a line for each that failed. The induction is on the paths; what
is left of the ledger changes from step to step, while the paths behind stay in it. -/
theorem unmountEach {V : Ledger} {paths : List String} (hunique : (paths.map SessionKey.ofPath).Nodup)
    (hlisted : ∀ p ∈ paths, SessionKey.ofPath p ∈ V.keys) (lazily silent : Bool)
    (T : List Dealing) :
    Ensures (Told (a.At V) T) (t.answered.unmountEach lazily silent paths)
      (fun failures u => ∃ attempts : List Attempt, (attempts.map Attempt.path = paths ∧
        ∀ x ∈ attempts, x.Made t a lazily) ∧ failures = attempts.filterMap Attempt.line? ∧
        Told (a.At (V.without (Attempt.goneIn attempts)))
          (T ++ attempts.flatMap (Attempt.calls lazily)) u) fun _ _ => False := by
  -- by induction on the paths that are still to come: they are mounted, because the attempt before
  -- them was at another key
  induction paths generalizing V T with
  | nil =>
    refine Ensures.pure fun u hs => ⟨[], ⟨rfl, nofun⟩, rfl, ?_⟩
    simpa [Attempt.goneIn] using hs
  | cons path rest ih =>
    rw [List.map_cons, List.nodup_cons] at hunique
    have hstep := h.attempt (hlisted path List.mem_cons_self) lazily silent T
    refine Ensures.bind hstep.never fun r => Ensures.of_exists fun x =>
      Ensures.of_fact fun ⟨hx, hmade⟩ => Ensures.of_fact fun hr => ?_
    have hpending : ∀ p ∈ rest, SessionKey.ofPath p ∈ (V.without x.gone).keys := by
      intro p hp
      refine Ledger.mem_keys_without.2 ⟨hlisted p (List.mem_cons_of_mem _ hp), fun hgone => ?_⟩
      have hkey : SessionKey.ofPath p = SessionKey.ofPath path := hx ▸ (Attempt.mem_gone.1 hgone).1
      exact hunique.1 (hkey ▸ List.mem_map_of_mem hp)
    have hrest := ih hunique.2 hpending (T ++ x.calls lazily)
    refine Ensures.bind hrest fun failures => Ensures.of_exists fun attempts =>
      Ensures.of_fact fun ⟨hpaths, hall⟩ => Ensures.of_fact fun hfailures => ?_
    have hbehind : ∀ u, Told (a.At ((V.without x.gone).without (Attempt.goneIn attempts)))
        (T ++ x.calls lazily ++ attempts.flatMap (Attempt.calls lazily)) u →
        Told (a.At (V.without (Attempt.goneIn (x :: attempts))))
          (T ++ (x :: attempts).flatMap (Attempt.calls lazily)) u := by
      intro u hs
      rwa [Ledger.without_without, List.append_assoc] at hs
    have hmap : (x :: attempts).map Attempt.path = path :: rest ∧
        ∀ y ∈ x :: attempts, y.Made t a lazily :=
      ⟨by rw [List.map_cons, hx, hpaths], List.forall_mem_cons.2 ⟨hmade, hall⟩⟩
    subst hx
    cases hanswer : x.answer with
    | ok _ =>
      have hline : x.line? = none := Attempt.line?_eq_none_iff.2 hanswer
      rw [hr, hanswer]
      refine Ensures.pure fun u hs => ⟨x :: attempts, hmap, ?_, hbehind u hs⟩
      rw [List.filterMap_cons, hline, hfailures]
    | error f =>
      have hline : x.line? = some s!"{x.path} - [{(notDetached x.path f).message}]" := by
        unfold Attempt.line?
        rw [hanswer]
      rw [hr, hanswer]
      refine Ensures.pure fun u hs => ⟨x :: attempts, hmap, ?_, hbehind u hs⟩
      rw [List.filterMap_cons, hline, hfailures]

end Teardown.OnLedger

/-- An unmount of several paths. -/
inductive Sweep where
  /-- Everything that is mounted. -/
  | all
  /-- The selected paths; a target was typed for them. -/
  | selected (target : String) (selects : String → Bool) (silent : Bool)

namespace Sweep

/-- The listed paths that a sweep is about. -/
def selects : Sweep → String → Bool
  | all => fun _ => true
  | selected _ selects _ => selects

/-- The answer where nothing is selected. -/
def nothing : Sweep → Except Failure Unit
  | all => .ok ()
  | selected target _ _ => .error (.ofSession (.notMounted target))

/-- The sweep, as a teardown does it. -/
def act (w : Sweep) (t : Teardown σ) (lazily : Bool) : Act σ Unit :=
  match w with
  | all => t.unmountAll lazily
  | selected target selects silent => t.unmountWhere target selects lazily silent

/-- The answer of a sweep to a host. -/
def answer (w : Sweep) (t : Teardown σ) (lazily : Bool) (s : σ) : Except Failure Unit :=
  ((w.act t lazily).runOn s).1

/-- The host behind a sweep. -/
def behind (w : Sweep) (t : Teardown σ) (lazily : Bool) (s : σ) : σ :=
  ((w.act t lazily).runOn s).2

/-- The calls that a sweep leads to on a host, with how they ended. -/
def calls (w : Sweep) (t : Teardown σ) (lazily : Bool) (s : σ) : List Dealing :=
  ((w.act t.answered lazily).runOn ⟨s, []⟩).2.trace

/-- What is answered behind some attempts. -/
def ending (w : Sweep) (attempts : List Attempt) : Except Failure Unit :=
  let failures := attempts.filterMap Attempt.line?
  if attempts = [] then w.nothing
  else if failures = [] then .ok ()
  else .error (.ofSession
    (.partialBatch (attempts.length - failures.length) attempts.length failures))

/-- A traced host behind a sweep of a ledger, when the sweep was answered in some way. -/
def Ended (w : Sweep) (t : Teardown σ) (a : Account σ) (V : Ledger) (lazily : Bool)
    (answer : Except Failure Unit) (u : Traced σ Dealing) : Prop :=
  ∃ attempts : List Attempt, (attempts.map Attempt.path = V.table.filter w.selects ∧
      ∀ x ∈ attempts, x.Made t a lazily) ∧
    answer = w.ending attempts ∧
    Told (a.At (V.without (Attempt.goneIn attempts))) (attempts.flatMap (Attempt.calls lazily)) u

/-- **How a sweep goes** on a host whose ledger is known. -/
structure Course (w : Sweep) (t : Teardown σ) (a : Account σ) (lazily : Bool) (s : σ)
    (attempts : List Attempt) : Prop where
  /-- There is one attempt at each selected path, in the order of the table. -/
  tried : attempts.map Attempt.path = (a.ledger s).table.filter w.selects
  /-- The answer of each is one that the unmounter gave. -/
  made : ∀ x ∈ attempts, x.Made t a lazily
  /-- The calls are those of the attempts, and there are no others. -/
  calls : w.calls t lazily s = attempts.flatMap (Attempt.calls lazily)
  /-- The unmounter is called once for each selected path, in the order of the table, as lazily as
  was asked. -/
  detaches : detachings (w.calls t lazily s) = ((a.ledger s).table.filter w.selects).map fun p =>
    ((SessionKey.ofPath p).text, lazily)
  /-- Where the unmounter worked, the mount is gone together with its record. -/
  gone : ∀ x ∈ attempts, x.answer = .ok () → x.path ∉ (a.ledger (w.behind t lazily s)).table ∧
    (a.ledger (w.behind t lazily s)).records x.key = none
  /-- Where it failed, both are as before. -/
  kept : ∀ x ∈ attempts, x.answer ≠ .ok () → x.path ∈ (a.ledger (w.behind t lazily s)).table ∧
    (a.ledger (w.behind t lazily s)).records x.key = (a.ledger s).records x.key
  /-- The mounts that are not selected stay. -/
  others : ∀ p ∈ (a.ledger s).table, w.selects p = false →
    p ∈ (a.ledger (w.behind t lazily s)).table
  /-- What is left of the table is in the order that it was in. -/
  table : (a.ledger (w.behind t lazily s)).table.Sublist (a.ledger s).table
  /-- The records of other keys stay. -/
  records : ∀ k, (∀ x ∈ attempts, x.key ≠ k) →
    (a.ledger (w.behind t lazily s)).records k = (a.ledger s).records k
  /-- Where nothing is selected, the answer says so. -/
  nothing : attempts = [] → w.answer t lazily s = w.nothing
  /-- A sweep succeeds when every attempt does. -/
  succeeds : attempts ≠ [] →
    (w.answer t lazily s = .ok () ↔ ∀ x ∈ attempts, x.answer = .ok ())
  /-- It is a partial success otherwise. The numbers add up, and there is a line for each attempt
  that failed, in order. -/
  reports : (∃ x ∈ attempts, x.answer ≠ .ok ()) → ∃ succeeded,
    w.answer t lazily s = .error (.ofSession
        (.partialBatch succeeded attempts.length (attempts.filterMap Attempt.line?))) ∧
      succeeded + (attempts.filterMap Attempt.line?).length = attempts.length

/-- `w.act t.answered` follows `w.act t`. -/
theorem follows (w : Sweep) (t : Teardown σ) (lazily : Bool) :
    Follows (w.act t.answered lazily) (w.act t lazily) := by
  have hfollowed := t.followed_answered
  cases w with
  | all => exact hfollowed.unmountAll lazily
  | selected target selects silent =>
    refine hfollowed.listed.bind fun paths => ?_
    have hrest := (hfollowed.unmountEach lazily silent (paths.filter selects)).bind fun failures =>
      Teardown.FollowedBy.outcome (paths.filter selects).length failures
    exact .ite ((Follows.refuse _).bind fun _ => hrest) hrest

/-! ### The answer -/

section Ending

variable {w : Sweep} {attempts : List Attempt}

/-- There is no line when every attempt worked. -/
theorem filterMap_line?_eq_nil_iff :
    attempts.filterMap Attempt.line? = [] ↔ ∀ x ∈ attempts, x.answer = .ok () := by
  simp only [List.filterMap_eq_nil_iff, Attempt.line?_eq_none_iff]

/-- `w.ending attempts = .ok ()` for attempts that all worked. -/
theorem ending_of_worked (hne : attempts ≠ []) (h : ∀ x ∈ attempts, x.answer = .ok ()) :
    w.ending attempts = .ok () := by
  unfold ending
  rw [if_neg hne, if_pos (filterMap_line?_eq_nil_iff.2 h)]

/-- Other attempts end it with `partialBatch`: how many worked, of how many, and the lines. -/
theorem ending_of_failed (h : ¬ ∀ x ∈ attempts, x.answer = .ok ()) :
    w.ending attempts = .error (.ofSession
      (.partialBatch (attempts.length - (attempts.filterMap Attempt.line?).length) attempts.length
        (attempts.filterMap Attempt.line?))) := by
  have hne : attempts ≠ [] := by
    rintro rfl
    exact h nofun
  unfold ending
  rw [if_neg hne, if_neg fun hnil => h (filterMap_line?_eq_nil_iff.1 hnil)]

/-- `Teardown.outcome` on the lines of some attempts answers what `w.ending` says. -/
theorem ensures_outcome {τ : Type} {P : τ → Prop} (hne : attempts ≠ []) :
    Ensures P (Teardown.outcome attempts.length (attempts.filterMap Attempt.line?))
      (fun _ u => .ok () = w.ending attempts ∧ P u) fun f u => .error f = w.ending attempts ∧ P u := by
  unfold Teardown.outcome
  refine Ensures.ite (fun hnil => Ensures.pure fun u hu => ⟨?_, hu⟩) fun hsome =>
    Ensures.refuse fun u hu => ⟨?_, hu⟩
  · rw [ending_of_worked hne (filterMap_line?_eq_nil_iff.1 (List.isEmpty_iff.1 hnil))]
  · rw [ending_of_failed fun hall => hsome (List.isEmpty_iff.2 (filterMap_line?_eq_nil_iff.2 hall))]

end Ending

end Sweep

namespace Teardown.OnLedger

variable {t : Teardown σ} {a : Account σ} (h : t.OnLedger a)

include h

/-! ### Whole sweeps -/

/-- `listed` answers with the table. -/
theorem listed (V : Ledger) (T : List Dealing) :
    Ensures (Told (a.At V) T) t.answered.listed
      (fun paths u => paths = V.table ∧ Told (a.At V) T u) fun _ _ => False := by
  refine Ensures.inContext (((h.list V).unseen T).weaken ?_ fun _ _ hf => hf.1)
  rintro paths u ⟨⟨hpaths, hs⟩, hT⟩
  exact ⟨hpaths, hs, hT⟩

omit h in
/-- The report on the attempts at all paths that `w.selects` ends the sweep. -/
theorem outcome {V : Ledger} {w : Sweep} {attempts : List Attempt}
    {lazily : Bool} (hpaths : attempts.map Attempt.path = V.table.filter w.selects ∧
      ∀ x ∈ attempts, x.Made t a lazily) (hsome : V.table.filter w.selects ≠ []) :
    Ensures (Told (a.At (V.without (Attempt.goneIn attempts)))
        (attempts.flatMap (Attempt.calls lazily)))
      (Teardown.outcome (V.table.filter w.selects).length (attempts.filterMap Attempt.line?))
      (fun _ => w.Ended t a V lazily (.ok ())) fun f => w.Ended t a V lazily (.error f) := by
  have hne : attempts ≠ [] := by
    rintro rfl
    exact hsome hpaths.1.symm
  rw [← hpaths.1, List.length_map]
  exact (Sweep.ensures_outcome hne).weaken
    (fun _ u hu => ⟨attempts, hpaths, hu.1, hu.2⟩) fun _ u hu => ⟨attempts, hpaths, hu.1, hu.2⟩

/-- **A sweep with its trace**, on a host whose ledger is `V`: the three ways to end are that
nothing is selected, that all worked, and that some failed. -/
theorem ensures_sweep {V : Ledger} (hunique : V.keys.Nodup) (w : Sweep) (lazily : Bool) :
    Ensures (Told (a.At V) []) (w.act t.answered lazily)
      (fun _ => w.Ended t a V lazily (.ok ())) fun f => w.Ended t a V lazily (.error f) := by
  have hkeys : ((V.table.filter w.selects).map SessionKey.ofPath).Nodup :=
    hunique.sublist (List.filter_sublist.map SessionKey.ofPath)
  have hlisted : ∀ p ∈ V.table.filter w.selects, SessionKey.ofPath p ∈ V.keys := fun p hp =>
    List.mem_map_of_mem (List.mem_of_mem_filter hp)
  have heach (silent : Bool) := h.unmountEach hkeys hlisted lazily silent []
  -- where nothing is selected, nothing is tried
  have hnothing : V.table.filter w.selects = [] → ∀ u, Told (a.At V) [] u →
      w.Ended t a V lazily w.nothing u := by
    intro hnil u hs
    refine ⟨[], ⟨hnil.symm, nofun⟩, rfl, ?_⟩
    simpa [Attempt.goneIn] using hs
  cases w with
  | all =>
    have hall : V.table.filter Sweep.all.selects = V.table := List.filter_true V.table
    rw [hall] at hnothing heach
    refine Ensures.bind (h.listed V []).never fun paths => Ensures.of_fact ?_
    rintro rfl
    refine Ensures.ite (fun hnil => ?_) fun hsome => ?_
    · refine ((h.print V _).unseen []).weaken (fun _ u hs => ?_) fun _ _ hf => hf.1.elim
      exact hnothing (List.isEmpty_iff.1 hnil) u hs
    · refine Ensures.bind (heach true).never fun failures => Ensures.of_exists fun attempts =>
        Ensures.of_fact fun hpaths => Ensures.of_fact ?_
      rintro rfl
      have houtcome := outcome (V := V) (w := .all) ⟨hpaths.1.trans hall.symm, hpaths.2⟩
        (by rwa [hall, ne_eq, ← List.isEmpty_iff])
      rw [hall] at houtcome
      exact Ensures.bind ((h.print _ _).unseen _ |>.failing fun _ _ hf => hf.1.elim) fun _ =>
        houtcome
  | selected target selects silent =>
    refine Ensures.bind (h.listed V []).never fun paths => Ensures.of_fact ?_
    rintro rfl
    refine Ensures.ite (fun hnil => ?_) fun hsome => ?_
    · exact Ensures.bind (Q := fun _ _ => False)
        (Ensures.refuse fun u hs => hnothing (List.isEmpty_iff.1 hnil) u hs) fun _ _ hf => hf.elim
    · refine Ensures.bind (heach silent).never fun failures => Ensures.of_exists fun attempts =>
        Ensures.of_fact fun hpaths => Ensures.of_fact ?_
      rintro rfl
      exact outcome (w := .selected target selects silent) hpaths
        fun hnil => hsome (List.isEmpty_iff.2 hnil)

/-- What is known of a sweep on a host that keeps a ledger: there are attempts at the paths that it
selects, and they tell the answer, the ledger behind it and the calls. -/
theorem exists_attempts {s : σ} (hs : a.sound s) (hunique : (a.ledger s).keys.Nodup) (w : Sweep)
    (lazily : Bool) :
    ∃ attempts : List Attempt,
      (attempts.map Attempt.path = (a.ledger s).table.filter w.selects ∧
        ∀ x ∈ attempts, x.Made t a lazily) ∧
      w.answer t lazily s = w.ending attempts ∧
      a.ledger (w.behind t lazily s) = (a.ledger s).without (Attempt.goneIn attempts) ∧
      a.sound (w.behind t lazily s) ∧
      w.calls t lazily s = attempts.flatMap (Attempt.calls lazily) := by
  rcases hrun : (w.act t lazily).runOn s with ⟨r, s'⟩
  -- the traced sweep has the same answer and leaves the same host behind
  obtain ⟨T, htraced⟩ := (w.follows t lazily).runOn_eq hrun []
  have hended := h.ensures_sweep hunique w lazily ⟨s, []⟩ ⟨⟨rfl, hs⟩, rfl⟩
  unfold Sweep.calls Sweep.answer Sweep.behind
  rw [htraced] at hended
  rw [htraced, hrun]
  cases r with
  | ok _ =>
    obtain ⟨attempts, hpaths, hending, ⟨hledger, hsound⟩, htrace⟩ := hended
    exact ⟨attempts, hpaths, hending, hledger, hsound, htrace⟩
  | error f =>
    obtain ⟨attempts, hpaths, hending, ⟨hledger, hsound⟩, htrace⟩ := hended
    exact ⟨attempts, hpaths, hending, hledger, hsound, htrace⟩

end Teardown.OnLedger

/-! ## What can be relied upon -/

namespace Ledger

/-- Two ledgers have the same records, and the same mounts in some order. -/
structure Shuffled (V W : Ledger) : Prop where
  table : V.table.Perm W.table
  records : V.records = W.records

/-- `Shuffled` goes both ways. -/
theorem Shuffled.symm {V W : Ledger} (h : V.Shuffled W) : W.Shuffled V :=
  ⟨h.table.symm, h.records.symm⟩

/-- `Shuffled` is kept by `without`: what is left does not depend on the order in which keys were
struck out. -/
theorem Shuffled.without {V W : Ledger} (h : V.Shuffled W) {gone gone' : List SessionKey}
    (hgone : ∀ k, k ∈ gone ↔ k ∈ gone') : (V.without gone).Shuffled (W.without gone') := by
  constructor
  · have hsame : (fun p => decide (SessionKey.ofPath p ∉ gone'))
        = fun p => decide (SessionKey.ofPath p ∉ gone) := by
      funext p
      simp [hgone]
    unfold Ledger.without
    rw [hsame]
    exact h.table.filter _
  · unfold Ledger.without
    rw [h.records]
    simp only [hgone]

/-- Keys that are different stay so in a `Shuffled` ledger. -/
theorem Shuffled.unique {V W : Ledger} (h : V.Shuffled W) (hunique : W.keys.Nodup) :
    V.keys.Nodup :=
  (h.table.map SessionKey.ofPath).nodup_iff.2 hunique

end Ledger

/-- Whether the unmounter works goes by the key alone. -/
def Teardown.Steady (t : Teardown σ) (a : Account σ) (lazily : Bool) : Prop :=
  ∃ works : SessionKey → Prop, ∀ V s k, a.At V s →
    (((t.books.unmounter.unmount k.text lazily).runOn s).1 = .ok () ↔ works k)

namespace Sweep

/-- The unmounter worked for a key in a sweep. -/
def Took (w : Sweep) (t : Teardown σ) (lazily : Bool) (s : σ) (k : SessionKey) : Prop :=
  (ManagerCall.detach k.text lazily, Except.ok ()) ∈ w.calls t lazily s

/-- **What a sweep does** on a host whose mounts have different keys. -/
structure UnmountsSelected (w : Sweep) (t : Teardown σ) (a : Account σ) (lazily : Bool) (s : σ) :
    Prop where
  course : ∃ attempts, w.Course t a lazily s attempts
  /-- Where the table has another order, the same is left if and only if the unmounter worked for the
  same keys. -/
  order : ∀ s', a.sound s' → (a.ledger s').Shuffled (a.ledger s) →
    ((a.ledger (w.behind t lazily s')).Shuffled (a.ledger (w.behind t lazily s)) ↔
      ∀ k, w.Took t lazily s' k ↔ w.Took t lazily s k)
  /-- So the order does not matter to an unmounter that goes by the key. -/
  steady : t.Steady a lazily → ∀ s', a.sound s' → (a.ledger s').Shuffled (a.ledger s) →
    (a.ledger (w.behind t lazily s')).Shuffled (a.ledger (w.behind t lazily s))
  /-- The unmount of a pattern is a sweep of the paths that it selects. -/
  pattern : ∀ target silent selects, Teardown.isPattern target = true →
    t.patterns target = .ok selects → w = .selected target selects silent →
    w.act t lazily = t.unmount target lazily silent

namespace Course

variable {w : Sweep} {t : Teardown σ} {a : Account σ} {lazily : Bool} {s s' : σ}
  {attempts attempts' : List Attempt}

/-- `w.Took`: the keys that the unmounter worked for are those of the attempts that worked. -/
theorem took_iff (h : w.Course t a lazily s attempts) {k : SessionKey} :
    w.Took t lazily s k ↔ k ∈ Attempt.goneIn attempts := by
  have hcall (x : Attempt) : (ManagerCall.detach k.text lazily, Except.ok ()) ∈ x.calls lazily ↔
      k = x.key ∧ x.answer = .ok () := by
    have htext : k.text = x.key.text ↔ k = x.key := ⟨SessionKey.ext, congrArg _⟩
    unfold Attempt.calls
    split
    · next hok => simp [hok, htext]
    · next f herror => simp [herror]
  unfold Took
  rw [h.calls, List.mem_flatMap, Attempt.mem_goneIn]
  simp only [hcall]

/-- Where the same is left of the same mounts, the same keys are in `goneIn`. -/
theorem mem_goneIn_of_shuffled (h : w.Course t a lazily s attempts)
    (h' : w.Course t a lazily s' attempts') (hstart : (a.ledger s).Shuffled (a.ledger s'))
    (hleft : (a.ledger (w.behind t lazily s)).Shuffled (a.ledger (w.behind t lazily s')))
    {k : SessionKey} (hk : k ∈ Attempt.goneIn attempts) : k ∈ Attempt.goneIn attempts' := by
  obtain ⟨x, hx, rfl, hok⟩ := Attempt.mem_goneIn.1 hk
  -- the path was selected there as well
  have hselected : x.path ∈ (a.ledger s').table.filter w.selects := by
    rw [← (hstart.table.filter w.selects).mem_iff, ← h.tried]
    exact List.mem_map_of_mem hx
  rw [← h'.tried] at hselected
  obtain ⟨x', hx', hpath⟩ := List.mem_map.1 hselected
  have hgone : x'.path ∉ (a.ledger (w.behind t lazily s')).table := by
    rw [hpath, ← hleft.table.mem_iff]
    exact (h.gone x hx hok).1
  have hok' : x'.answer = .ok () := by
    by_contra hne
    exact hgone (h'.kept x' hx' hne).1
  refine Attempt.mem_goneIn.2 ⟨x', hx', ?_, hok'⟩
  unfold Attempt.key
  rw [hpath]

/-- An unmounter that goes by the key works, in every sweep, for the keys of the selected paths that
it works for. -/
theorem took_iff_works (h : w.Course t a lazily s attempts) {works : SessionKey → Prop}
    (hworks : ∀ V s k, a.At V s →
      (((t.books.unmounter.unmount k.text lazily).runOn s).1 = .ok () ↔ works k)) {k : SessionKey} :
    w.Took t lazily s k ↔
      works k ∧ ∃ p ∈ (a.ledger s).table.filter w.selects, SessionKey.ofPath p = k := by
  rw [h.took_iff, Attempt.mem_goneIn, ← h.tried]
  have hanswer : ∀ x ∈ attempts, x.answer = .ok () ↔ works x.key := by
    intro x hx
    obtain ⟨V, u, hu, hmade⟩ := h.made x hx
    rw [← hmade]
    exact hworks V u x.key hu
  constructor
  · rintro ⟨x, hx, rfl, hok⟩
    exact ⟨(hanswer x hx).1 hok, x.path, List.mem_map_of_mem hx, rfl⟩
  · rintro ⟨hk, p, hp, rfl⟩
    obtain ⟨x, hx, rfl⟩ := List.mem_map.1 hp
    exact ⟨x, hx, rfl, (hanswer x hx).2 hk⟩

end Course

end Sweep

namespace Teardown.OnLedger

variable {t : Teardown σ} {a : Account σ} (h : t.OnLedger a) {s : σ} (hs : a.sound s)
  (hunique : (a.ledger s).keys.Nodup) (w : Sweep) (lazily : Bool)

include h hs hunique

/-- A sweep has a `Course`, and what is left is the ledger without `goneIn attempts`. -/
theorem exists_course : ∃ attempts, w.Course t a lazily s attempts ∧
    a.ledger (w.behind t lazily s) = (a.ledger s).without (Attempt.goneIn attempts) := by
  obtain ⟨attempts, ⟨htried, hmade⟩, hending, hledger, -, hcalls⟩ :=
    h.exists_attempts hs hunique w lazily
  have hpath : ∀ x ∈ attempts, x.path ∈ (a.ledger s).table ∧ w.selects x.path = true := by
    intro x hx
    have hmem : x.path ∈ (a.ledger s).table.filter w.selects := htried ▸ List.mem_map_of_mem hx
    exact List.mem_filter.1 hmem
  -- one key is tried once, so that an attempt that failed was not made up for by another one
  have hkeys : (attempts.map Attempt.key).Nodup := by
    have hmap : attempts.map Attempt.key = (attempts.map Attempt.path).map SessionKey.ofPath := by
      rw [List.map_map]
      rfl
    rw [hmap, htried]
    exact hunique.sublist (List.filter_sublist.map SessionKey.ofPath)
  have hkept : ∀ x ∈ attempts, x.answer ≠ .ok () → x.key ∉ Attempt.goneIn attempts := by
    intro x hx hne hgone
    obtain ⟨x', hx', hkey, hok⟩ := Attempt.mem_goneIn.1 hgone
    rw [List.inj_on_of_nodup_map hkeys hx hx' hkey] at hne
    exact hne hok
  refine ⟨attempts, ?_, hledger⟩
  exact {
    tried := htried
    made := hmade
    calls := hcalls
    detaches := by
      rw [hcalls, Attempt.detachings_flatMap_calls, ← htried, List.map_map]
      rfl
    gone := fun x hx hok => by
      have hmem : x.key ∈ Attempt.goneIn attempts := Attempt.mem_goneIn.2 ⟨x, hx, rfl, hok⟩
      rw [hledger]
      refine ⟨fun hleft => ?_, if_pos hmem⟩
      exact absurd hmem (of_decide_eq_true (List.mem_filter.1 hleft).2)
    kept := fun x hx hne => by
      have hnot := hkept x hx hne
      rw [hledger]
      exact ⟨List.mem_filter.2 ⟨(hpath x hx).1, decide_eq_true hnot⟩, if_neg hnot⟩
    others := fun p hp hnot => by
      rw [hledger]
      refine List.mem_filter.2 ⟨hp, decide_eq_true fun hgone => ?_⟩
      obtain ⟨x, hx, hkey, -⟩ := Attempt.mem_goneIn.1 hgone
      have hsame : p = x.path := List.inj_on_of_nodup_map hunique hp (hpath x hx).1 hkey
      rw [hsame, (hpath x hx).2] at hnot
      exact Bool.noConfusion hnot
    table := by
      rw [hledger]
      exact List.filter_sublist
    records := fun k hk => by
      rw [hledger]
      refine if_neg fun hgone => ?_
      obtain ⟨x, hx, hkey, -⟩ := Attempt.mem_goneIn.1 hgone
      exact hk x hx hkey.symm
    nothing := fun hnil => by
      rw [hending, hnil]
      rfl
    succeeds := fun hne => by
      rw [hending]
      constructor
      · intro hok
        by_contra hfailed
        rw [Sweep.ending_of_failed hfailed] at hok
        exact absurd hok nofun
      · exact Sweep.ending_of_worked hne
    reports := fun ⟨x, hx, hne⟩ => by
      refine ⟨_, hending.trans (Sweep.ending_of_failed fun hall => hne (hall x hx)), ?_⟩
      exact Nat.sub_add_cancel (List.length_filterMap_le _ _) }

/-- **Sweeps**: an unmount of everything, or of a pattern, does what a user relies upon, on every
host whose mounts have different keys. The order of the table matters as far as it decides which
calls of the unmounter work. -/
theorem unmountsSelected : w.UnmountsSelected t a lazily s := by
  obtain ⟨attempts, hcourse, hledger⟩ := h.exists_course hs hunique w lazily
  -- another order leaves the same if and only if it takes the same keys away
  have horder : ∀ s', a.sound s' → (a.ledger s').Shuffled (a.ledger s) →
      ((a.ledger (w.behind t lazily s')).Shuffled (a.ledger (w.behind t lazily s)) ↔
        ∀ k, w.Took t lazily s' k ↔ w.Took t lazily s k) := by
    intro s' hs' hstart
    obtain ⟨attempts', hcourse', hledger'⟩ :=
      h.exists_course hs' (hstart.unique hunique) w lazily
    simp only [hcourse.took_iff, hcourse'.took_iff]
    constructor
    · intro hleft k
      exact ⟨hcourse'.mem_goneIn_of_shuffled hcourse hstart hleft,
        hcourse.mem_goneIn_of_shuffled hcourse' hstart.symm hleft.symm⟩
    · intro hgone
      rw [hledger, hledger']
      exact hstart.without hgone
  exact {
    course := ⟨attempts, hcourse⟩
    order := horder
    steady := by
      rintro ⟨works, hworks⟩ s' hs' hstart
      obtain ⟨attempts', hcourse', -⟩ := h.exists_course hs' (hstart.unique hunique) w lazily
      refine (horder s' hs' hstart).2 fun k => ?_
      rw [hcourse.took_iff_works hworks, hcourse'.took_iff_works hworks]
      simp only [(hstart.table.filter w.selects).mem_iff]
    pattern := by
      rintro target silent pattern hpattern hread rfl
      exact (t.unmount_of_pattern hpattern hread lazily silent).symm }

end Teardown.OnLedger

/-! ## A host with a busy mount -/

namespace PatchyHost

/-- The records that can be read, and the mounts that can be listed. -/
def ledger (h : PatchyHost) : Ledger where
  records := h.sight.readable
  table := h.sight.listing.toOption.getD []

/-- The mounts can be listed, the records can be removed, and certain mounts cannot be taken away. -/
def account (busy : List SessionKey) : Account PatchyHost where
  ledger := ledger
  sound h := (∃ paths, h.sight.listing = .ok paths) ∧ h.fixed = [] ∧ h.busy = busy

/-- `teardown` meets `OnLedger` on hosts whose mounts can be listed and whose records can be
removed. -/
theorem onLedger_teardown (busy : List SessionKey) : teardown.OnLedger (account busy) where
  lookup V k := .of_final fun h hs => hs
  unregister V k := by
    rintro h ⟨rfl, hlisting, hfixed, hbusy⟩
    have hrun : (teardown.books.registry.unregister k).runOn h
        = (.ok (), { h with sight := forget h.sight k }) :=
      runOn_unregister (by rw [hfixed]; exact List.not_mem_nil)
    rw [hrun]
    refine ⟨?_, hlisting, hfixed, hbusy⟩
    show ledger _ = (ledger h).forget k
    unfold ledger Ledger.forget
    congr 1
    funext k'
    -- a record that is forgotten reads as none, like one that cannot be read
    by_cases hk : k' = k
    · rw [hk, Function.update_self]
      simp [Sight.readable, forget, Except.toOption]
    · rw [Function.update_of_ne hk]
      simp [Sight.readable, forget, Function.update_of_ne hk]
  list V := by
    rintro h ⟨rfl, ⟨paths, hlisting⟩, hfixed, hbusy⟩
    have hrun : teardown.books.mounts.list.runOn h = (.ok paths, h) :=
      Prod.ext hlisting rfl
    rw [hrun]
    refine ⟨?_, rfl, ⟨paths, hlisting⟩, hfixed, hbusy⟩
    show paths = (h.sight.listing.toOption).getD []
    rw [hlisting]
    rfl
  unmount V path lazily := by
    rintro h ⟨rfl, ⟨paths, hlisting⟩, hfixed, hbusy⟩
    have hrun : (teardown.books.unmounter.unmount path lazily).runOn h = (unmount path).runOn h := rfl
    rw [hrun]
    by_cases hpath : SessionKey.ofPath path ∈ h.busy
    · rw [runOn_unmount_of_busy hpath]
      exact ⟨rfl, ⟨paths, hlisting⟩, hfixed, hbusy⟩
    · rw [runOn_unmount hpath]
      have hleft : (detach h.sight (.ofPath path)).listing
          = .ok (paths.filter fun p => SessionKey.ofPath p != .ofPath path) := by
        unfold detach Sight.elsewhere
        rw [hlisting]
        rfl
      refine ⟨?_, ⟨_, hleft⟩, hfixed, hbusy⟩
      show ledger _ = (ledger h).detach (.ofPath path)
      unfold ledger Ledger.detach
      simp only [hleft, hlisting, Except.toOption, Option.getD_some]
      rfl
  print V line := Ensures.pure fun h hs => hs

/-- Whether a mount can be taken away goes by its key, so `teardown` is `Steady`: the `busy` ones
cannot. -/
theorem steady_teardown (busy : List SessionKey) (lazily : Bool) :
    teardown.Steady (account busy) lazily := by
  refine ⟨fun k => k ∉ busy, ?_⟩
  rintro V h k ⟨rfl, hlisting, hfixed, rfl⟩
  have hrun : (teardown.books.unmounter.unmount k.text lazily).runOn h = (unmount k.text).runOn h := rfl
  rw [hrun]
  by_cases hk : k ∈ h.busy
  · rw [runOn_unmount_of_busy (by rwa [SessionKey.ofPath_text])]
    simp [hk]
  · rw [runOn_unmount (by rwa [SessionKey.ofPath_text])]
    simp [hk]

/-- A host with three recorded mounts, one of which is busy. -/
def threeMounts : PatchyHost where
  sight := { recorded.sight with listing := .ok ["/mnt/a", "/mnt/b", "/mnt/c"] }
  busy := [.ofPath "/mnt/b"]

/-- `unmountsSelected` at three mounts: two are taken away, although the busy one comes between
them, and the report names the third. -/
theorem unmountsSelected_threeMounts :
    teardown.OnLedger (account [.ofPath "/mnt/b"]) ∧
    (account [.ofPath "/mnt/b"]).sound threeMounts ∧
    ((account [.ofPath "/mnt/b"]).ledger threeMounts).keys.Nodup ∧
    Sweep.all.UnmountsSelected teardown (account [.ofPath "/mnt/b"]) false threeMounts ∧
    teardown.Steady (account [.ofPath "/mnt/b"]) false ∧
    Sweep.all.answer teardown false threeMounts = .error (.ofSession (.partialBatch 2 3
      ["/mnt/b - [failed to unmount /mnt/b: Device or resource busy]"])) ∧
    ((account [.ofPath "/mnt/b"]).ledger (Sweep.all.behind teardown false threeMounts)).table
      = ["/mnt/b"] ∧
    Sweep.all.calls teardown false threeMounts = [
      (.detach "/mnt/a" false, .ok ()), (.unregister (.ofPath "/mnt/a"), .ok ()),
      (.detach "/mnt/b" false, .error (.ofText "Device or resource busy")),
      (.detach "/mnt/c" false, .ok ()), (.unregister (.ofPath "/mnt/c"), .ok ())] := by
  have hlaws := onLedger_teardown [.ofPath "/mnt/b"]
  have hsound : (account [.ofPath "/mnt/b"]).sound threeMounts := ⟨⟨_, rfl⟩, rfl, rfl⟩
  have hunique : ((account [.ofPath "/mnt/b"]).ledger threeMounts).keys.Nodup := by decide
  refine ⟨hlaws, hsound, hunique, hlaws.unmountsSelected hsound hunique .all false,
    steady_teardown _ false, ?_, ?_, ?_⟩
  · decide
  · decide
  · decide

end PatchyHost

end MountKeeper
