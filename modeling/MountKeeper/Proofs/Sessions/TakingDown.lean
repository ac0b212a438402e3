import MountKeeper.Proofs.Sessions.Reclaiming

/-! # What an unmount of one path does

An unmount of a path looks the record of the path up and then at the mounts. A mount that is there is
taken away and its record dropped. Where there is none, a recorded session that is alive is stopped,
and the record of a dead process is dropped.

* `Teardown.Seen.course` tells each way that an unmount can go, with its calls.
* `Teardown.UnmountsPath` is what can be relied upon, and `Teardown.Seen.unmountsPath` says that it
  can. When the record of a dead process cannot be dropped, the failure to do so is the answer, and
  not that nothing is mounted: `Rehearsal.Host.fails_fixedRecord`. -/

namespace MountKeeper

open Observation (SameElsewhere)

variable {σ : Type}

namespace Teardown

/-! ## The end of an unmount -/

section Ending

variable (t : Teardown σ) (key : SessionKey) (silent : Bool)

/-- What is said behind an unmount that worked. -/
def ending : Act σ Unit :=
  if (!silent) = true then t.console.print s!"Successfully unmounted {key.text}" else pure ()

/-- The host when that has been said. -/
def said (s : σ) : σ :=
  ((t.ending key silent).runOn s).2

/-- Saying so is no call: `t.answered.said key silent u` has the trace of `u`. -/
theorem said_answered (u : Traced σ Dealing) :
    t.answered.said key silent u = ⟨t.said key silent u.host, u.trace⟩ := by
  cases silent with
  | true => rfl
  | false => rfl

variable {t} {v : Observation σ}

/-- `t.ending key silent` answers, whether or not there is something to be said. -/
theorem Seen.runOn_ending (h : t.Seen v) {s : σ} (hs : v.sound s) :
    (t.ending key silent).runOn s = (.ok (), t.said key silent s) := by
  cases silent with
  | true => rfl
  | false => exact Prod.ext (h.print _ s hs) rfl

/-- `v (t.said key silent s) = v s`: what is shown to the user is not looked at again. -/
theorem Seen.sight_said (h : t.Seen v) {s : σ} (hs : v.sound s) :
    v (t.said key silent s) = v s := by
  cases silent with
  | true => rfl
  | false => exact (h.printed _ s hs).1

/-- `a >>= ending` where `a` worked: it is followed by what is `said`. -/
theorem Seen.runOn_bind_ending (h : t.Seen v) {a : Act σ Unit} {s s' : σ}
    (hrun : a.runOn s = (.ok (), s')) (hs' : v.sound s') :
    (a >>= fun _ => t.ending key silent).runOn s = (.ok (), t.said key silent s') := by
  rw [Act.runOn_bind, hrun]
  exact h.runOn_ending key silent hs'

/-- `a >>= ending` where `a` failed: nothing is said. -/
theorem runOn_bind_ending_of_error {a : Act σ Unit} {s s' : σ} {f : Failure}
    (hrun : a.runOn s = (.error f, s')) :
    (a >>= fun _ => t.ending key silent).runOn s = (.error f, s') := by
  rw [Act.runOn_bind, hrun]

end Ending

/-! ## Ways to go -/

/-- The failure of an unmount whose mount could not be taken away. -/
def notDetached (target : String) (f : Failure) : Failure :=
  f.within s!"failed to unmount {(SessionKey.ofPath target).text}"

/-- `(notDetached target f).kind? = f.kind?`: the failure of the unmounter is told by its kind also
behind the words that are put before it. -/
theorem kind?_notDetached (target : String) (f : Failure) : (notDetached target f).kind? = f.kind? :=
  Failure.kind?_within _ f

/-- The failure of an unmount whose session could not be stopped. -/
def notStopped (target : String) (f : Failure) : Failure :=
  f.within s!"failed to stop session {(SessionKey.ofPath target).text}"

/-- `t.unmount target` is `t.unmountKey (.ofPath target)` when `target` is a path. -/
theorem unmount_of_path (t : Teardown σ) {target : String} (hpath : isPattern target = false)
    (lazily silent : Bool) :
    t.unmount target lazily silent = t.unmountKey (.ofPath target) lazily silent := by
  have hnot : ¬ isPattern target = true := by simp [hpath]
  rw [unmount, if_neg hnot]

namespace Seen

variable {t : Teardown σ} {v : Observation σ} (h : t.Seen v) {target : String}
  (hpath : isPattern target = false) (hkey : .ofPath target ∈ v.keys) (lazily silent : Bool)
  {s s' : σ} (hs : v.sound s)

include h hpath hkey hs

/-- `listing = .error f`: the unmount fails with `f` and leaves the host as it is. -/
theorem runOn_unmount_of_unlisted {f : Failure} (hlisting : (v s).listing = .error f) :
    (t.unmount target lazily silent).runOn s = (.error f, s) := by
  rw [t.unmount_of_path hpath, unmountKey, Act.runOn_bind, Act.runOn_attempt,
    h.books.lookup _ hkey s hs]
  dsimp only
  rw [Act.runOn_bind, h.books.runOn_isMounted _ hs, Sight.mounted_eq_error_iff.2 hlisting]

/-- Where they can be listed, `m` decides: a mount is taken away with `t.detach`, and without one
the record is given to `t.stopUnmounted`, if it could be read. -/
theorem runOn_unmount_of_listed {m : Bool} (hm : (v s).mounted (.ofPath target) = .ok m) :
    (t.unmount target lazily silent).runOn s
      = ((if m then t.detach (.ofPath target) lazily
          else t.stopUnmounted (.ofPath target) ((v s).readable (.ofPath target))) >>= fun _ =>
        t.ending (.ofPath target) silent).runOn s := by
  rw [t.unmount_of_path hpath, unmountKey, Act.runOn_bind, Act.runOn_attempt,
    h.books.lookup _ hkey s hs]
  dsimp only
  rw [Act.runOn_bind, h.books.runOn_isMounted _ hs, hm]
  cases m with
  | true => rfl
  | false => rfl

/-! ### Mounted -/

section Mounted

variable (hm : (v s).mounted (.ofPath target) = .ok true)

include hm

/-- A mount that could not be taken away is a failure with the words of `notDetached`, and the
record is not touched. -/
theorem runOn_unmount_of_kept {f : Failure}
    (hdetach : (t.books.unmounter.unmount (SessionKey.ofPath target).text lazily).runOn s
      = (.error f, s')) :
    (t.unmount target lazily silent).runOn s = (.error (notDetached target f), s') := by
  rw [h.runOn_unmount_of_listed hpath hkey lazily silent hs hm, if_pos rfl]
  refine runOn_bind_ending_of_error _ _ ?_
  rw [detach, Act.runOn_bind, Act.runOn_inContext, hdetach]
  rfl

/-- Behind a mount that was taken away the record is dropped, or stays, and the answer is `.ok ()`
either way. -/
theorem runOn_unmount_of_detached
    (hdetach : (t.books.unmounter.unmount (SessionKey.ofPath target).text lazily).runOn s
      = (.ok (), s')) :
    (t.unmount target lazily silent).runOn s = (.ok (), t.said (.ofPath target) silent
      (t.books.forgotten (.ofPath target) true s')) := by
  have honly := h.books.unmount _ hkey lazily s hs
  rw [hdetach] at honly
  rw [h.runOn_unmount_of_listed hpath hkey lazily silent hs hm, if_pos rfl]
  refine h.runOn_bind_ending _ _ ?_ (h.books.onlyRecord_forgotten hkey honly.sound true).sound
  rw [detach, Act.runOn_bind, Act.runOn_inContext, hdetach]
  rfl

end Mounted

/-! ### Not mounted -/

section NotMounted

variable (hm : (v s).mounted (.ofPath target) = .ok false)

include hm

/-- Where there is neither a mount nor a record that can be read, the unmount ends in
`nothingMounted target`. -/
theorem runOn_unmount_of_unrecorded (hnone : (v s).readable (.ofPath target) = none) :
    (t.unmount target lazily silent).runOn s = (.error (nothingMounted target), s) := by
  rw [h.runOn_unmount_of_listed hpath hkey lazily silent hs hm, hnone]
  rfl

variable {record : Session} (hrecord : (v s).readable (.ofPath target) = some record)

include hrecord

/-- A recorded session that is not mounted: if `ownerAlive` it is stopped. Otherwise its record is
dropped, and nothing was mounted. -/
theorem runOn_unmount_of_recorded :
    (t.unmount target lazily silent).runOn s
      = ((if (v s).ownerAlive record then
            Act.inContext s!"failed to stop session {(SessionKey.ofPath target).text}"
              (t.supervisor.stop record)
          else t.books.registry.unregister (.ofPath target) >>= fun _ =>
            Act.fail (nothingMounted target)) >>= fun _ =>
        t.ending (.ofPath target) silent).runOn s := by
  rw [h.runOn_unmount_of_listed hpath hkey lazily silent hs hm, hrecord,
    if_neg Bool.false_ne_true, stopUnmounted, bind_assoc, Act.runOn_bind, h.runOn_ownerAlive _ hs]
  cases (v s).ownerAlive record with
  | true => rfl
  | false => rfl

/-- `ownerAlive = false` and the record is dropped: still `nothingMounted target`. -/
theorem runOn_unmount_of_dropped (hdead : (v s).ownerAlive record = false)
    (hdrop : (t.books.registry.unregister (.ofPath target)).runOn s = (.ok (), s')) :
    (t.unmount target lazily silent).runOn s = (.error (nothingMounted target), s') := by
  rw [h.runOn_unmount_of_recorded hpath hkey lazily silent hs hm hrecord, hdead,
    if_neg Bool.false_ne_true]
  refine runOn_bind_ending_of_error _ _ ?_
  rw [Act.runOn_bind, hdrop]
  rfl

/-- `ownerAlive = false` and the record cannot be dropped: that is the failure. -/
theorem runOn_unmount_of_undropped (hdead : (v s).ownerAlive record = false) {f : Failure}
    (hdrop : (t.books.registry.unregister (.ofPath target)).runOn s = (.error f, s')) :
    (t.unmount target lazily silent).runOn s = (.error f, s') := by
  rw [h.runOn_unmount_of_recorded hpath hkey lazily silent hs hm hrecord, hdead,
    if_neg Bool.false_ne_true]
  refine runOn_bind_ending_of_error _ _ ?_
  rw [Act.runOn_bind, hdrop]

/-- A session that is alive was stopped. The supervisor is asked for `record`, which is one of the
key. -/
theorem runOn_unmount_of_stopped (halive : (v s).ownerAlive record = true)
    (hstop : (t.supervisor.stop record).runOn s = (.ok (), s')) :
    (t.unmount target lazily silent).runOn s
      = (.ok (), t.said (.ofPath target) silent s') := by
  have hown : record.key = .ofPath target :=
    h.own _ hkey s hs record (Sight.record_of_readable hrecord)
  have hsame := h.stop record (hown.symm ▸ hkey) s hs
  rw [hstop] at hsame
  rw [h.runOn_unmount_of_recorded hpath hkey lazily silent hs hm hrecord, halive, if_pos rfl]
  refine h.runOn_bind_ending _ _ ?_ hsame.sound
  rw [Act.runOn_inContext, hstop]

/-- A session that is alive could not be stopped, which is the failure, with the words of
`notStopped`. -/
theorem runOn_unmount_of_unstopped (halive : (v s).ownerAlive record = true) {f : Failure}
    (hstop : (t.supervisor.stop record).runOn s = (.error f, s')) :
    (t.unmount target lazily silent).runOn s = (.error (notStopped target f), s') := by
  rw [h.runOn_unmount_of_recorded hpath hkey lazily silent hs hm hrecord, halive, if_pos rfl]
  refine runOn_bind_ending_of_error _ _ ?_
  rw [Act.runOn_inContext, hstop]
  rfl

end NotMounted

end Seen

/-! ## The calls of a whole run -/

/-- The calls that an unmount leads to on a host, with how they ended. -/
def dealings (t : Teardown σ) (target : String) (lazily silent : Bool) (s : σ) : List Dealing :=
  ((t.answered.unmount target lazily silent).runOn ⟨s, []⟩).2.trace

/-- An unmount has an answer, leaves a host behind, and has made some calls on the way. -/
def Unmounts (t : Teardown σ) (target : String) (lazily silent : Bool) (s : σ)
    (answer : Except Failure Unit) (s' : σ) (calls : List Dealing) : Prop :=
  (t.unmount target lazily silent).runOn s = (answer, s') ∧
    t.dealings target lazily silent s = calls

namespace Seen

variable {t : Teardown σ} {v : Observation σ} (h : t.Seen v) {target : String}
  (hpath : isPattern target = false) (hkey : .ofPath target ∈ v.keys) (lazily silent : Bool)
  {s s' : σ} (hs : v.sound s)

include h hpath hkey hs

/-- Where the mounts cannot be listed, there are no calls. -/
theorem unmounts_of_unlisted {f : Failure} (hlisting : (v s).listing = .error f) :
    t.Unmounts target lazily silent s (.error f) s [] := by
  refine ⟨h.runOn_unmount_of_unlisted hpath hkey lazily silent hs hlisting, ?_⟩
  rw [dealings,
    h.answered.runOn_unmount_of_unlisted (s := ⟨s, []⟩) hpath hkey lazily silent hs hlisting]

section Mounted

variable (hm : (v s).mounted (.ofPath target) = .ok true)

include hm

/-- A mount that could not be taken away: the calls are `.detach` alone, which failed. -/
theorem unmounts_of_kept {f : Failure}
    (hdetach : (t.books.unmounter.unmount (SessionKey.ofPath target).text lazily).runOn s
      = (.error f, s')) :
    t.Unmounts target lazily silent s (.error (notDetached target f)) s'
      [(.detach (SessionKey.ofPath target).text lazily, .error f)] := by
  refine ⟨h.runOn_unmount_of_kept hpath hkey lazily silent hs hm hdetach, ?_⟩
  have hcall := Act.runOn_answered_of hdetach
    (ManagerCall.detach (SessionKey.ofPath target).text lazily) []
  rw [dealings,
    h.answered.runOn_unmount_of_kept (s := ⟨s, []⟩) hpath hkey lazily silent hs hm hcall]
  rfl

/-- A mount that was taken away: the calls are `.detach` and then `forgettings`, as the record is
dropped behind it as far as that works. -/
theorem unmounts_of_detached
    (hdetach : (t.books.unmounter.unmount (SessionKey.ofPath target).text lazily).runOn s
      = (.ok (), s')) :
    t.Unmounts target lazily silent s (.ok ())
      (t.said (.ofPath target) silent (t.books.forgotten (.ofPath target) true s'))
      ((.detach (SessionKey.ofPath target).text lazily, .ok ())
        :: t.books.forgettings (.ofPath target) true s') := by
  refine ⟨h.runOn_unmount_of_detached hpath hkey lazily silent hs hm hdetach, ?_⟩
  have hcall := Act.runOn_answered_of hdetach
    (ManagerCall.detach (SessionKey.ofPath target).text lazily) []
  rw [dealings,
    h.answered.runOn_unmount_of_detached (s := ⟨s, []⟩) hpath hkey lazily silent hs hm hcall,
      said_answered]
  rfl

end Mounted

section NotMounted

variable (hm : (v s).mounted (.ofPath target) = .ok false)

include hm

/-- Where there is nothing, there are no calls. -/
theorem unmounts_of_unrecorded (hnone : (v s).readable (.ofPath target) = none) :
    t.Unmounts target lazily silent s (.error (nothingMounted target)) s [] := by
  refine ⟨h.runOn_unmount_of_unrecorded hpath hkey lazily silent hs hm hnone, ?_⟩
  rw [dealings,
    h.answered.runOn_unmount_of_unrecorded (s := ⟨s, []⟩) hpath hkey lazily silent hs hm hnone]

variable {record : Session} (hrecord : (v s).readable (.ofPath target) = some record)

include hrecord

/-- The record of a dead session: the calls are `.unregister` alone. -/
theorem unmounts_of_dropped (hdead : (v s).ownerAlive record = false)
    (hdrop : (t.books.registry.unregister (.ofPath target)).runOn s = (.ok (), s')) :
    t.Unmounts target lazily silent s (.error (nothingMounted target)) s'
      [(.unregister (.ofPath target), .ok ())] := by
  refine ⟨h.runOn_unmount_of_dropped hpath hkey lazily silent hs hm hrecord hdead hdrop, ?_⟩
  have hcall := Act.runOn_answered_of hdrop (ManagerCall.unregister (.ofPath target)) []
  rw [dealings,
    h.answered.runOn_unmount_of_dropped (s := ⟨s, []⟩) hpath hkey lazily silent hs hm hrecord hdead
      hcall]
  rfl

/-- The record of a dead session that could not be dropped: the calls are `.unregister` alone, which
failed. -/
theorem unmounts_of_undropped (hdead : (v s).ownerAlive record = false) {f : Failure}
    (hdrop : (t.books.registry.unregister (.ofPath target)).runOn s = (.error f, s')) :
    t.Unmounts target lazily silent s (.error f) s' [(.unregister (.ofPath target), .error f)] := by
  refine ⟨h.runOn_unmount_of_undropped hpath hkey lazily silent hs hm hrecord hdead hdrop, ?_⟩
  have hcall := Act.runOn_answered_of hdrop (ManagerCall.unregister (.ofPath target)) []
  rw [dealings,
    h.answered.runOn_unmount_of_undropped (s := ⟨s, []⟩) hpath hkey lazily silent hs hm hrecord
      hdead hcall]
  rfl

/-- A session that is alive: the calls are `.stop` alone. Its record is left to whoever stops it. -/
theorem unmounts_of_stopped (halive : (v s).ownerAlive record = true)
    (hstop : (t.supervisor.stop record).runOn s = (.ok (), s')) :
    t.Unmounts target lazily silent s (.ok ()) (t.said (.ofPath target) silent s')
      [(.stop record, .ok ())] := by
  refine ⟨h.runOn_unmount_of_stopped hpath hkey lazily silent hs hm hrecord halive hstop, ?_⟩
  have hcall := Act.runOn_answered_of hstop (ManagerCall.stop record) []
  rw [dealings,
    h.answered.runOn_unmount_of_stopped (s := ⟨s, []⟩) hpath hkey lazily silent hs hm hrecord
      halive hcall, said_answered]
  rfl

/-- A session that could not be stopped: the calls are `.stop` alone, which failed. -/
theorem unmounts_of_unstopped (halive : (v s).ownerAlive record = true) {f : Failure}
    (hstop : (t.supervisor.stop record).runOn s = (.error f, s')) :
    t.Unmounts target lazily silent s (.error (notStopped target f)) s'
      [(.stop record, .error f)] := by
  refine ⟨h.runOn_unmount_of_unstopped hpath hkey lazily silent hs hm hrecord halive hstop, ?_⟩
  have hcall := Act.runOn_answered_of hstop (ManagerCall.stop record) []
  rw [dealings,
    h.answered.runOn_unmount_of_unstopped (s := ⟨s, []⟩) hpath hkey lazily silent hs hm hrecord
      halive hcall]
  rfl

end NotMounted

end Seen

/-! ## What is kept -/

/-- No mount was to be taken away but that of one path, in one way. -/
def OnlyDetaches (mount : String × Bool) (calls : List Dealing) : Prop :=
  ∀ d ∈ detachings calls, d = mount

/-- `OnlyDetaches mount` grows by a call that takes away no mount, or the same one in the same way.
-/
theorem OnlyDetaches.append {mount : String × Bool} {calls : List Dealing} {call : ManagerCall}
    (h : OnlyDetaches mount calls)
    (hcall : call.detached? = none ∨ call.detached? = some mount) (r : Except Failure Unit) :
    OnlyDetaches mount (calls ++ [(call, r)]) := by
  intro d hd
  rw [detachings_append, List.mem_append] at hd
  obtain hd | hd := hd
  · exact h d hd
  · obtain ⟨c, hc, hdetached⟩ := List.mem_filterMap.1 hd
    rw [List.mem_singleton.1 hc] at hdetached
    rcases hcall with hcall | hcall
    · exact absurd (hcall.symm.trans hdetached) nofun
    · exact Option.some.inj (hdetached.symm.trans hcall)

section Keeping

variable {t : Teardown σ} {target : String} (hpath : isPattern target = false)
  (lazily silent : Bool)

include hpath

/-- What is seen of other keys is kept by `t.unmount target`: a session that is stopped is one that
was found under the key, and so of the key. -/
theorem Seen.sameElsewhere_unmount {v : Observation σ} (h : t.Seen v)
    (hkey : .ofPath target ∈ v.keys) {s : σ} (hs : v.sound s) :
    v.SameElsewhere (.ofPath target) s ((t.unmount target lazily silent).runOn s).2 := by
  have hbooks := h.books.keeping hkey s
  have hkeeping : t.Keeping (.ofPath target) lazily (fun record => record.key = .ofPath target)
      (v.SameElsewhere (.ofPath target) s) := {
    unregister := hbooks.unregister
    list := hbooks.list
    isAlive := hbooks.isAlive
    unmount := .of_final fun s' hs' =>
      hs'.trans (h.books.unmount _ hkey lazily s' hs'.sound).sameElsewhere
    stop := fun record hrecord => .of_final fun s' hs' =>
      hs'.trans (hrecord ▸ h.stop record (hrecord.symm ▸ hkey) s' hs'.sound)
    print := fun line => .of_final fun s' hs' => by
      obtain ⟨hsight, hsound⟩ := h.printed line s' hs'.sound
      exact ⟨hsound, hsight ▸ hs'.records, hsight ▸ hs'.mounts⟩ }
  -- what is looked up is of the key, so that a stop concerns no other one
  have hlookup : Act.Ensures (v.SameElsewhere (.ofPath target) s)
      (t.books.registry.lookup (.ofPath target))
      (fun found s' => v.SameElsewhere (.ofPath target) s s' ∧
        ∀ record ∈ found, record.key = .ofPath target)
      fun _ s' => v.SameElsewhere (.ofPath target) s s' := by
    intro s' hs'
    rw [h.books.lookup _ hkey s' hs'.sound]
    cases hfound : (v s').record (.ofPath target) with
    | error f => exact hs'
    | ok found =>
      refine ⟨hs', fun record hrecord => h.own _ hkey s' hs'.sound record ?_⟩
      rw [hfound, Option.mem_def.1 hrecord]
  rw [t.unmount_of_path hpath]
  exact (hkeeping.unmountKey hlookup silent).final (.refl _ hs)

/-- `dealings target` takes no other path away, and none in another way. -/
theorem onlyDetaches_dealings (t : Teardown σ) (s : σ) :
    OnlyDetaches ((SessionKey.ofPath target).text, lazily) (t.dealings target lazily silent s) := by
  have hkeeping : t.answered.Keeping (.ofPath target) lazily (fun _ => True)
      fun u => OnlyDetaches ((SessionKey.ofPath target).text, lazily) u.trace := {
    unregister := Act.keeps_answered (fun _ r hT => hT.append (.inl rfl) r) _
    list := Act.keeps_unseen _ _
    isAlive := fun _ => Act.keeps_unseen _ _
    unmount := Act.keeps_answered (fun _ r hT => hT.append (.inr rfl) r) _
    stop := fun _ _ => Act.keeps_answered (fun _ r hT => hT.append (.inl rfl) r) _
    print := fun _ => Act.keeps_unseen (OnlyDetaches _) _ }
  have hlookup := Act.keeps_unseen (OnlyDetaches ((SessionKey.ofPath target).text, lazily))
    (t.books.registry.lookup (.ofPath target))
  have hunmount := hkeeping.unmountKey
    (hlookup.weaken (fun _ _ hT => ⟨hT, fun _ _ => trivial⟩) fun _ _ hT => hT) silent
  have hstart : OnlyDetaches ((SessionKey.ofPath target).text, lazily) [] := nofun
  rw [dealings, t.answered.unmount_of_path hpath]
  exact hunmount.final (s := ⟨s, []⟩) hstart

end Keeping

/-! ## What can be relied upon -/

/-- What an unmount of a path answers on a host, by what is seen of it, with the calls that it makes
and the host that it leaves behind. -/
structure UnmountsPath (t : Teardown σ) (v : Observation σ) (target : String) (lazily silent : Bool)
    (s : σ) : Prop where
  /-- When the mounts cannot be listed, that is the failure, and nothing is done. -/
  unlisted : ∀ f, (v s).listing = .error f → t.Unmounts target lazily silent s (.error f) s []
  /-- A mount is taken away once. When that fails, so does the unmount, with the same kind of
  failure, and the records are as before. -/
  kept : (v s).mounted (.ofPath target) = .ok true → ∀ f s',
    (t.books.unmounter.unmount (SessionKey.ofPath target).text lazily).runOn s = (.error f, s') →
    t.Unmounts target lazily silent s (.error (notDetached target f)) s'
        [(.detach (SessionKey.ofPath target).text lazily, .error f)] ∧
      (notDetached target f).kind? = f.kind? ∧
      ∀ other ∈ v.keys, (v s').record other = (v s).record other
  /-- When it works, so does the unmount, whether or not the record can be dropped. If that works,
  there is none. -/
  detached : (v s).mounted (.ofPath target) = .ok true → ∀ s',
    (t.books.unmounter.unmount (SessionKey.ofPath target).text lazily).runOn s = (.ok (), s') →
    ∃ r behind, t.Unmounts target lazily silent s (.ok ()) behind
        [(.detach (SessionKey.ofPath target).text lazily, .ok ()), (.unregister (.ofPath target), r)] ∧
      (r = .ok () → (v behind).record (.ofPath target) = .ok none)
  /-- Without a mount and without a record that can be read, nothing is mounted, and nothing is
  done. -/
  unrecorded : (v s).mounted (.ofPath target) = .ok false →
    (v s).readable (.ofPath target) = none →
    t.Unmounts target lazily silent s (.error (nothingMounted target)) s []
  /-- The record of a dead process is dropped, and nothing was mounted. -/
  dropped : (v s).mounted (.ofPath target) = .ok false →
    ∀ record, (v s).readable (.ofPath target) = some record → (v s).ownerAlive record = false →
    ∀ s', (t.books.registry.unregister (.ofPath target)).runOn s = (.ok (), s') →
    t.Unmounts target lazily silent s (.error (nothingMounted target)) s'
        [(.unregister (.ofPath target), .ok ())] ∧
      (v s').record (.ofPath target) = .ok none
  /-- When it cannot be dropped, that is the failure. -/
  undropped : (v s).mounted (.ofPath target) = .ok false →
    ∀ record, (v s).readable (.ofPath target) = some record → (v s).ownerAlive record = false →
    ∀ f s', (t.books.registry.unregister (.ofPath target)).runOn s = (.error f, s') →
    t.Unmounts target lazily silent s (.error f) s' [(.unregister (.ofPath target), .error f)]
  /-- A session that is alive is stopped once. -/
  stopped : (v s).mounted (.ofPath target) = .ok false →
    ∀ record, (v s).readable (.ofPath target) = some record → (v s).ownerAlive record = true →
    ∀ s', (t.supervisor.stop record).runOn s = (.ok (), s') →
    ∃ behind, t.Unmounts target lazily silent s (.ok ()) behind [(.stop record, .ok ())]
  /-- When that fails, so does the unmount. -/
  unstopped : (v s).mounted (.ofPath target) = .ok false →
    ∀ record, (v s).readable (.ofPath target) = some record → (v s).ownerAlive record = true →
    ∀ f s', (t.supervisor.stop record).runOn s = (.error f, s') →
    t.Unmounts target lazily silent s (.error (notStopped target f)) s' [(.stop record, .error f)]
  /-- The records and the mounts of other keys stay. -/
  elsewhere : v.SameElsewhere (.ofPath target) s ((t.unmount target lazily silent).runOn s).2
  /-- No other path is taken away, and none in another way. -/
  detaches : OnlyDetaches ((SessionKey.ofPath target).text, lazily)
    (t.dealings target lazily silent s)

/-- **An unmount of a path** does what a user relies upon, for every path whose key is one of
`v.keys` and on every sound host. -/
theorem Seen.unmountsPath {t : Teardown σ} {v : Observation σ} (h : t.Seen v) {target : String}
    (hpath : isPattern target = false) (hkey : .ofPath target ∈ v.keys) (lazily silent : Bool)
    {s : σ} (hs : v.sound s) : t.UnmountsPath v target lazily silent s where
  unlisted f hlisting := h.unmounts_of_unlisted hpath hkey lazily silent hs hlisting
  kept hm f s' hdetach := by
    have honly := h.books.unmount _ hkey lazily s hs
    rw [hdetach] at honly
    exact ⟨h.unmounts_of_kept hpath hkey lazily silent hs hm hdetach, kind?_notDetached target f,
      honly.records⟩
  detached hm s' hdetach := by
    have honly := h.books.unmount _ hkey lazily s hs
    rw [hdetach] at honly
    -- what is said at the end changes nothing that is seen
    have hforgotten := h.books.onlyRecord_forgotten hkey honly.sound true
    refine ⟨_, _, h.unmounts_of_detached hpath hkey lazily silent hs hm hdetach, fun hworked => ?_⟩
    rw [h.sight_said _ _ hforgotten.sound]
    exact h.books.unregistered _ hkey s' honly.sound hworked
  unrecorded hm hnone := h.unmounts_of_unrecorded hpath hkey lazily silent hs hm hnone
  dropped hm record hrecord hdead s' hdrop := by
    refine ⟨h.unmounts_of_dropped hpath hkey lazily silent hs hm hrecord hdead hdrop, ?_⟩
    have hnone := h.books.unregistered _ hkey s hs
    rw [hdrop] at hnone
    exact hnone rfl
  undropped hm record hrecord hdead f s' hdrop :=
    h.unmounts_of_undropped hpath hkey lazily silent hs hm hrecord hdead hdrop
  stopped hm record hrecord halive s' hstop :=
    ⟨_, h.unmounts_of_stopped hpath hkey lazily silent hs hm hrecord halive hstop⟩
  unstopped hm record hrecord halive f s' hstop :=
    h.unmounts_of_unstopped hpath hkey lazily silent hs hm hrecord halive hstop
  elsewhere := h.sameElsewhere_unmount hpath lazily silent hkey hs
  detaches := t.onlyDetaches_dealings hpath lazily silent s

end Teardown

/-- A host with a mount that has a record, where no record can be removed. -/
def PatchyHost.recorded : PatchyHost where
  sight := {
    record := fun key => .ok (some { key := key, owner := .process 7 })
    listing := .ok ["/mnt/a", "/mnt/b"]
    alive := fun _ => true
    disconnected := fun _ => false }
  fixed := [.ofPath "/mnt/a"]

/-- Every record of `recorded` is one of its key. -/
theorem PatchyHost.sound_recorded : observation.sound recorded := by
  rintro key session hfound
  rw [← Option.some.inj (Except.ok.inj hfound)]

open Rehearsal PatchyHost in
/-- On `recorded`, a host with faults, the mount is taken away although its record cannot be
dropped. On `deserted`, a local platform, it is taken away and its PID file removed, whoever its
process was. -/
theorem Teardown.unmountsPath_recorded_deserted :
    Teardown.isPattern "/mnt/a/" = false ∧
    (teardown.Seen observation ∧ .ofPath "/mnt/a/" ∈ observation.keys ∧
      observation.sound recorded ∧
      teardown.UnmountsPath observation "/mnt/a/" false true recorded ∧
      ((teardown.unmount "/mnt/a/" false true).runOn recorded).1 = .ok () ∧
      teardown.dealings "/mnt/a/" false true recorded = [(.detach "/mnt/a" false, .ok ()),
        (.unregister (.ofPath "/mnt/a"), .error (.ofText "cannot remove record"))]) ∧
    (Host.directoryManager.teardown.Seen (Host.localObservation (.under "/") Host.desertedKeys) ∧
      Host.directoryManager.teardown.UnmountsPath
        (Host.localObservation (.under "/") Host.desertedKeys) "/mnt/a/" false true Host.deserted ∧
      ((Host.directoryManager.teardown.unmount "/mnt/a/" false true).runOn Host.deserted).1
        = .ok () ∧
      Host.directoryManager.teardown.dealings "/mnt/a/" false true Host.deserted
        = [(.detach "/mnt/a" false, .ok ()), (.unregister (.ofPath "/mnt/a"), .ok ())]) := by
  have hpath : Teardown.isPattern "/mnt/a/" = false := by decide
  have hlocal := Host.seen_localManager Host.emptyDirectory.surroundings (.under "/") false
    Host.injOn_desertedKeys
  have hkey : SessionKey.ofPath "/mnt/a/" ∈ Host.desertedKeys := .inl (by decide)
  refine ⟨hpath, ⟨seen_teardown, Set.mem_univ _, sound_recorded,
    seen_teardown.unmountsPath hpath (Set.mem_univ _) false true sound_recorded, by decide,
    by decide⟩, hlocal, hlocal.unmountsPath hpath hkey false true Host.sound_deserted, ?_, ?_⟩
  · decide +kernel
  · decide +kernel

namespace Rehearsal.Host

/-- A host with a record of a process that is gone, and that cannot be removed. -/
def fixedRecord : Host :=
  { onlyRecorded (.process 7) with
    records := { sessions := [recordOf (.process 7)], unregisterFails := [.ofPath "/mnt/m"] } }

/-- `/mnt/m` is not mounted and its owner is dead, and the unmount does not say that nothing is
mounted. -/
theorem fails_fixedRecord :
    ((books.mounts.isMounted (.ofPath "/mnt/m")).runOn fixedRecord).1 = .ok false ∧
    ((books.registry.lookup (.ofPath "/mnt/m")).runOn fixedRecord).1
      = .ok (some (recordOf (.process 7))) ∧
    ((books.processes.isAlive 7).runOn fixedRecord).1 = .ok false ∧
    ((teardown.unmount "/mnt/m" false true).runOn fixedRecord).1
      = .error (.ofText "cannot remove record") ∧
    ((teardown.unmount "/mnt/m" false true).runOn fixedRecord).1
      ≠ .error (Teardown.nothingMounted "/mnt/m") := by
  decide +kernel

end Rehearsal.Host

end MountKeeper
