import MountKeeper.Launcher.Client
import MountKeeper.Proofs.Act
import MountKeeper.Proofs.Launcher.Wire

/-! # A launcher behind its wire

What a client learns from a launcher that does what it says: it performs a request and reports
success, or refuses it, or cannot be reached.

* `Launcher.Request.perform` is what a request does to the running instances, and `Launcher.Reply`
  says which answers go with that.
* `Launcher.Honest` is what is asked of an exchange of messages.
* `Launcher.Honest.request` and `Launcher.Honest.list`: requests that succeed were performed, and
  the listed instances are those that run. -/

namespace MountKeeper

open Act (Ensures)

variable {σ : Type}

namespace Launcher

/-- Running instances, each with its class and its name. -/
abbrev Instances := List (String × String)

/-- Whether an instance can be listed: its class and its name are neither empty nor cut apart. -/
def Listable (p : String × String) : Prop :=
  (NulFree p.1 ∧ p.1 ≠ "") ∧ NulFree p.2 ∧ p.2 ≠ ""

/-- What a request does to the running instances. -/
def Request.perform : Request → Instances → Instances
  | .start className name _ _, ps => ps ++ [(className, name)]
  | .stop className name _, ps => ps.filter fun p => p != (className, name)
  | .list, ps => ps

/-- The word that an answer starts with. -/
def status? (answer : List UInt8) : Option UInt16 :=
  (wordsOf answer).head?

/-- A response starts with its status. -/
theorem status?_response (status : UInt16) (texts : List String) :
    status? (response status texts) = some status := by
  unfold status? response
  rw [wordsOf_bytesOf, List.head?_cons]

/-- The answers to a message while some instances run, each with the instances that run behind it. -/
inductive Reply (ps : Instances) (message : List UInt8) : List UInt8 → Instances → Prop
  /-- The message is refused. -/
  | refused {answer : List UInt8} (h : status? answer = some refusal) : Reply ps message answer ps
  /-- An instance is started or stopped. -/
  | performed {answer : List UInt8} {r : Request} (hread : Request.decode message = .ok r)
      (hlist : r.opcode ≠ .list) (h : status? answer = some success) :
      Reply ps message answer (r.perform ps)
  /-- The instances are listed. -/
  | listed (hread : Request.decode message = .ok .list) :
      Reply ps message (response success (ps.flatMap fun p => [p.1, p.2])) ps

/-! ## What a client reads -/

/-- A refusal is no success. -/
theorem payload_of_refusal (op : Opcode) {answer : List UInt8} (h : status? answer = some refusal) :
    ∃ e, payload op answer = .error e := by
  unfold status? at h
  unfold payload
  cases hw : wordsOf answer with
  | nil =>
    rw [hw] at h
    exact absurd h (by simp)
  | cons w ws =>
    rw [hw, List.head?_cons] at h
    rw [Option.some.inj h]
    simp only [if_neg (show refusal ≠ success by decide), if_true]
    exact ⟨_, rfl⟩

/-- A success has strings, whatever they are. -/
theorem payload_of_success (op : Opcode) {answer : List UInt8} (h : status? answer = some success) :
    ∃ texts, payload op answer = .ok texts := by
  unfold status? at h
  unfold payload
  cases hw : wordsOf answer with
  | nil =>
    rw [hw] at h
    exact absurd h (by simp)
  | cons w ws =>
    rw [hw, List.head?_cons] at h
    rw [Option.some.inj h]
    simp only [if_true]
    exact ⟨_, rfl⟩

/-! ## Honest launchers -/

/-- **Honesty** of an exchange: the launcher gives a reply, or it cannot be reached. `At ps` says of
a host that the instances `ps` run on it. -/
def Honest (exchange : List UInt8 → Act σ (List UInt8)) (At : Instances → σ → Prop) : Prop :=
  ∀ ps message, Ensures (At ps) (exchange message)
    (fun answer s => ∃ ps', Reply ps message answer ps' ∧ At ps' s) fun _ => At ps

namespace Honest

variable {exchange : List UInt8 → Act σ (List UInt8)} {At : Instances → σ → Prop}

/-- **A request that succeeds was performed**, and its strings are free of NUL. One that fails has
changed nothing. -/
theorem request (h : Honest exchange At) {r : Request} (hr : r.opcode ≠ .list) (ps : Instances) :
    Ensures (At ps) (MountLauncher.request exchange r)
      (fun _ s => r.NulFree ∧ At (r.perform ps) s) fun _ => At ps := by
  unfold MountLauncher.request
  refine (h ps r.encode).bind fun answer => Ensures.of_exists fun ps' => Ensures.of_fact ?_
  -- whatever the launcher has read is the request that was sent
  rintro (hrefused | ⟨hread, hlist, hsuccess⟩ | hread)
  · obtain ⟨e, he⟩ := payload_of_refusal r.opcode hrefused
    rw [he]
    exact Ensures.refuse fun s hs => hs
  · obtain ⟨rfl, hfree⟩ := Request.eq_of_decode_encode hread
    obtain ⟨texts, htexts⟩ := payload_of_success _ hsuccess
    rw [htexts]
    exact Ensures.pure fun s hs => ⟨hfree, hs⟩
  · have hlist := (Request.eq_of_decode_encode hread).1
    exact absurd (congrArg Request.opcode hlist).symm hr

/-- **The listed instances are those that run.** -/
theorem list (h : Honest exchange At) {ps : Instances} (hps : ∀ p ∈ ps, Listable p) :
    Ensures (At ps) (MountLauncher.ofExchange exchange).list
      (fun found s => found = ps ∧ At ps s) fun _ => At ps := by
  show Ensures (At ps) (exchange Request.list.encode >>= _) _ _
  refine (h ps Request.list.encode).bind fun answer => Ensures.of_exists fun ps' =>
    Ensures.of_fact ?_
  -- a list request is not performed like the others, and its answer has the running instances
  rintro (hrefused | ⟨hread, hlist, -⟩ | hread)
  · obtain ⟨e, he⟩ := payload_of_refusal .list hrefused
    have hpairs : pairs answer = .error e := by
      unfold pairs
      rw [he]
    rw [hpairs]
    exact Ensures.refuse fun s hs => hs
  · rw [(Request.eq_of_decode_encode hread).1] at hlist
    exact absurd rfl hlist
  · rw [pairs_response hps]
    exact Ensures.pure fun s hs => ⟨rfl, hs⟩

end Honest

end Launcher

end MountKeeper
