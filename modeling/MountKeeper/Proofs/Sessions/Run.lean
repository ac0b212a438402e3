import MountKeeper.Proofs.Sessions.Accountable

/-! # Runs of a manager

A manager is asked for one thing after another; whatever fails leaves its host to the next request.

* `SessionRequest` is what a manager is asked for.
* `Accountable.runRequests`: no run of requests makes a ledger incoherent. -/

namespace MountKeeper

open Act (Keeps)

variable {σ : Type}

/-- What a manager is asked for. -/
inductive SessionRequest where
  /-- Mount. -/
  | mount (options : MountOptions)
  /-- Unmount what was typed, be it a path or a pattern. -/
  | unmount (typed : String) (lazily forGood : Bool)
  /-- Unmount everything. -/
  | unmountAll (lazily : Bool)

namespace SessionRequest

/-- What a manager does about a request. -/
def act (m : SessionManager σ) : SessionRequest → Act σ Unit
  | mount options => do
    let _ ← m.mount options
  | unmount typed lazily forGood => m.unmount typed lazily forGood
  | unmountAll lazily => m.unmountAll lazily

/-- Whether a request is for no other than an allowed mount. -/
def Allowed (allowed : MountOptions → Prop) : SessionRequest → Prop
  | mount options => allowed options
  | unmount .. => True
  | unmountAll .. => True

end SessionRequest

namespace Accountable

variable {m : SessionManager σ} {a : Account σ} {allowed : MountOptions → Prop}

/-- **One request** keeps a ledger coherent, whether it succeeds or fails. -/
theorem request (h : Accountable m a allowed) {r : SessionRequest} (hr : r.Allowed allowed) :
    Keeps a.Orderly (r.act m) := by
  cases r with
  | mount options => exact Act.Ensures.bind (h.mount hr) fun _ => Act.Ensures.pure fun s hs => hs
  | unmount typed lazily forGood =>
    exact Account.ensures_of_coherent fun V hV =>
      (h.unmountTyped hV typed lazily forGood).weaken (fun _ _ hs => hs.2.2) fun _ _ hs => hs.2
  | unmountAll lazily =>
    exact Account.ensures_of_coherent fun V hV =>
      (h.unmountAll hV lazily).weaken (fun _ _ hs => hs.2.2) fun _ _ hs => hs.2

/-- Behind an unmount that succeeds on an orderly host, the ledger is clear of the target. -/
theorem clearOf_of_unmount (h : Accountable m a allowed) {s s' : σ} (hs : a.Orderly s)
    {typed : String} {lazily forGood : Bool}
    (hrun : (m.unmount typed lazily forGood).runOn s = (.ok (), s')) :
    (a.ledger s').ClearOf m.patterns (m.target typed) :=
  ((h.unmountTyped hs.1 typed lazily forGood).of_ok hs.at_ledger hrun).1

/-- **No run of requests makes a ledger incoherent.** -/
theorem runRequests (h : Accountable m a allowed) {requests : List SessionRequest}
    (hall : ∀ r ∈ requests, r.Allowed allowed) {s : σ} (hs : a.Orderly s) :
    a.Orderly (Act.runAll (requests.map (·.act m)) s) := by
  refine Keeps.runAll (fun act hact => ?_) hs
  obtain ⟨r, hr, rfl⟩ := List.mem_map.1 hact
  exact h.request (hall r hr)

end Accountable

end MountKeeper
