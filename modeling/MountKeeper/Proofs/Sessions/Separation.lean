import MountKeeper.Proofs.Sessions.Liveness
import MountKeeper.Proofs.Sessions.Spelling
import MountKeeper.Text.Utf8
import Mathlib.Data.List.DropRight

/-! # Directories with sessions of their own

The system names a directory by bytes. The bytes are read as a text, and all that an unmount asks for
is asked by the key of that text, so that two directories are kept apart just when they have different
keys. They share a key when they differ in nothing but slashes at the end, bytes that are not UTF-8,
and backslashes where the other has slashes: to the system a backslash is a character of a name.

* `SessionKey.ReadAlike` says without keys which paths have the same one.
* `Teardown.owed_of_mem_keyCalls` tells what an unmount asks for, and `Teardown.Guards` what is kept
  of a path when other paths are unmounted: by one unmount with `Teardown.Guards.unmountKey`, by a
  batch of them with `Teardown.Guards.unmountEach`.
* `Teardown.Separates` is what it means that two keys are kept apart, and
  `SessionKey.keptApart_iff` for which paths they are. -/

namespace MountKeeper

open Act (Ensures Keeps)

variable {σ : Type}

/-! ## Keys of bytes -/

namespace SessionKey

/-- The key of a path in bytes. What is not UTF-8 is read as `U+FFFD`. -/
def ofBytes (path : List UInt8) : SessionKey :=
  .ofPath (String.ofList (Utf8.decode path))

/-- Two paths in bytes are read as spellings of one path. -/
def ReadAlike (p q : List UInt8) : Prop :=
  SpelledAlike (String.ofList (Utf8.decode p)) (String.ofList (Utf8.decode q))

/-- Two byte strings have the same key if and only if they are `ReadAlike`. -/
theorem ofBytes_eq_iff {p q : List UInt8} : ofBytes p = ofBytes q ↔ ReadAlike p q :=
  ofPath_eq_iff

end SessionKey

/-! ## The mount table -/

namespace MountTable

/-- The mounts but for those with a key. -/
def without (t : MountTable σ) (key : SessionKey) : MountTable σ :=
  { t with list := do return (← t.list).filter fun p => SessionKey.ofPath p != key }

/-- To leave the rows of another key out of a table changes nothing for `key`. -/
theorem lists_filter {key other : SessionKey} (h : key ≠ other) (paths : List String) :
    lists (paths.filter fun p => SessionKey.ofPath p != other) key = lists paths key := by
  unfold lists
  rw [List.any_filter]
  refine congrArg paths.any (funext fun p => ?_)
  by_cases hp : SessionKey.ofPath p = key
  · simp [hp, h]
  · simp [hp]

/-- `(t.without other).isMounted key` is `t.isMounted key`: it does not depend on what is mounted
under other keys. -/
theorem isMounted_without {key other : SessionKey} (h : key ≠ other) (t : MountTable σ) :
    (t.without other).isMounted key = t.isMounted key := by
  unfold isMounted without
  simp only [bind_assoc, pure_bind, lists_filter h]

end MountTable

/-! ## What an unmount asks for -/

namespace Teardown

/-- The calls that the unmount of a key leads to on a host. -/
def keyCalls (t : Teardown σ) (key : SessionKey) (lazily silent : Bool) (s : σ) :
    List ManagerCall :=
  ((t.watched.unmountKey key lazily silent).runOn ⟨s, []⟩).2.trace

/-- The calls that the unmount of a key may make on a host: by the key, or about the record that is
found under it. -/
inductive Owed (t : Teardown σ) (key : SessionKey) (lazily : Bool) (s : σ) : ManagerCall → Prop
  | detach : t.Owed key lazily s (.detach key.text lazily)
  | unregister : t.Owed key lazily s (.unregister key)
  | stop {record : Session}
      (found : ((t.books.registry.lookup key).runOn s).1 = .ok (some record)) :
      t.Owed key lazily s (.stop record)

/-- Only such calls are written down. -/
def OnlyOwed (t : Teardown σ) (key : SessionKey) (lazily : Bool) (s : σ)
    (trace : List ManagerCall) : Prop :=
  ∀ call ∈ trace, t.Owed key lazily s call

variable {t : Teardown σ} {key : SessionKey} {lazily : Bool} {s : σ}

/-- `OnlyOwed` grows by a call that is owed. -/
theorem OnlyOwed.append {trace : List ManagerCall} {call : ManagerCall}
    (h : t.OnlyOwed key lazily s trace) (hcall : t.Owed key lazily s call) :
    t.OnlyOwed key lazily s (trace ++ [call]) :=
  List.forall_mem_append.2 ⟨h, List.forall_mem_singleton.2 hcall⟩

/-- Each part of an unmount keeps `OnlyOwed`: it writes down what it may. -/
theorem keeping_watched (t : Teardown σ) (key : SessionKey) (lazily : Bool) (s : σ) :
    t.watched.Keeping key lazily
      (fun record => ((t.books.registry.lookup key).runOn s).1 = .ok (some record))
      fun u => t.OnlyOwed key lazily s u.trace where
  unregister := Act.ensures_trace (fun _ hT => hT.append .unregister) _
  list := Act.keeps_unseen _ _
  isAlive _ := Act.keeps_unseen _ _
  unmount := Act.ensures_trace (fun _ hT => hT.append .detach) _
  stop _ hfound := Act.ensures_trace (fun _ hT => hT.append (.stop hfound)) _
  print _ := Act.keeps_unseen _ _

/-- The record that is looked up first is what the host has, and so one whose stop is `Owed`. -/
theorem ensures_lookup_watched (t : Teardown σ) (key : SessionKey) (lazily : Bool) (s : σ) :
    Ensures (fun u => u = ⟨s, []⟩) (t.watched.books.registry.lookup key)
      (fun found u => t.OnlyOwed key lazily s u.trace ∧
        ∀ record ∈ found, ((t.books.registry.lookup key).runOn s).1 = .ok (some record))
      fun _ u => t.OnlyOwed key lazily s u.trace := by
  have hnone : t.OnlyOwed key lazily s [] := fun call hcall => nomatch hcall
  refine ((Ensures.runs (t.books.registry.lookup key) s).unseen []).mono ?_ ?_ ?_
  · rintro u rfl
    exact ⟨rfl, rfl⟩
  · rintro found u ⟨hfound, htrace⟩
    refine ⟨htrace ▸ hnone, fun record hrecord => ?_⟩
    rw [hfound, hrecord]
  · rintro f u ⟨-, htrace⟩
    exact htrace ▸ hnone

/-- **What an unmount asks for** is `Owed`: it is asked by the key, or about its record. -/
theorem owed_of_mem_keyCalls {silent : Bool} {call : ManagerCall}
    (h : call ∈ t.keyCalls key lazily silent s) : t.Owed key lazily s call := by
  have hunmount := (t.keeping_watched key lazily s).unmountKey
    (t.ensures_lookup_watched key lazily s) silent
  exact hunmount.final rfl call h

/-! ## What is kept under another key -/

/-- Something is kept by all that is asked about other keys than `other`. -/
structure Guards (t : Teardown σ) (other : SessionKey) (I : σ → Prop) : Prop where
  /-- A record that is found is one of the key. -/
  lookup : ∀ key, Ensures I (t.books.registry.lookup key)
    (fun found s => I s ∧ ∀ record ∈ found, record.key = key) fun _ => I
  unregister : ∀ key ≠ other, Keeps I (t.books.registry.unregister key)
  list : Keeps I t.books.mounts.list
  isAlive : ∀ pid, Keeps I (t.books.processes.isAlive pid)
  unmount : ∀ path lazily, .ofPath path ≠ other → Keeps I (t.books.unmounter.unmount path lazily)
  stop : ∀ record, record.key ≠ other → Keeps I (t.supervisor.stop record)
  print : ∀ line, Keeps I (t.console.print line)

namespace Guards

variable {other : SessionKey} {I : σ → Prop}

/-- What is kept under another key is kept by the parts that are asked about `key`. -/
theorem keeping (h : t.Guards other I) (hne : key ≠ other) (lazily : Bool) :
    t.Keeping key lazily (fun record => record.key = key) I where
  unregister := h.unregister key hne
  list := h.list
  isAlive := h.isAlive
  unmount := h.unmount key.text lazily (by rwa [SessionKey.ofPath_text])
  stop record hrecord := h.stop record (by rwa [hrecord])
  print := h.print

/-- What is kept under another key is kept by **an unmount**, `unmountKey key`. -/
theorem unmountKey (h : t.Guards other I) (hne : key ≠ other) (lazily silent : Bool) :
    Keeps I (t.unmountKey key lazily silent) :=
  (h.keeping hne lazily).unmountKey (h.lookup key) silent

/-- What is kept under another key is kept by **a batch of unmounts**, `unmountEach paths`.
Induction on the paths. -/
theorem unmountEach (h : t.Guards other I) (lazily silent : Bool) {paths : List String}
    (hpaths : ∀ path ∈ paths, SessionKey.ofPath path ≠ other) :
    Keeps I (t.unmountEach lazily silent paths) := by
  induction paths with
  | nil => exact .pure _
  | cons path rest ih =>
    obtain ⟨hpath, hrest⟩ := List.forall_mem_cons.1 hpaths
    refine (h.unmountKey hpath lazily silent).attempt.bind fun result => ?_
    refine (ih hrest).bind fun failures => ?_
    cases result with
    | ok _ => exact .pure _
    | error f => exact .pure _

end Guards

/-! ## Kept apart -/

/-- What has the key `other` does not have to do with an unmount of `key`. -/
structure Separates (t : Teardown σ) (key other : SessionKey) : Prop where
  /-- No mount with the other key is taken away. -/
  detach : ∀ lazily silent s path lazily',
    .detach path lazily' ∈ t.keyCalls key lazily silent s → SessionKey.ofPath path ≠ other
  /-- The record of the other key is not removed. -/
  unregister : ∀ lazily silent s, .unregister other ∉ t.keyCalls key lazily silent s
  /-- Only the session that is recorded under the key is stopped. -/
  stop : ∀ lazily silent s record, .stop record ∈ t.keyCalls key lazily silent s →
    ((t.books.registry.lookup key).runOn s).1 = .ok (some record)
  /-- Where the parts keep apart what they are asked by key, so does an unmount. -/
  keeps : ∀ I, t.Guards other I → ∀ lazily silent, Keeps I (t.unmountKey key lazily silent)
  /-- Mounts with the other key do not make the path mounted. -/
  isMounted : (t.books.mounts.without other).isMounted key = t.books.mounts.isMounted key

/-- **Different keys** are kept apart: `t.Separates key other`. -/
theorem separates_of_ne {other : SessionKey} (h : key ≠ other) (t : Teardown σ) :
    t.Separates key other where
  detach lazily silent s path lazily' hcall := by
    cases owed_of_mem_keyCalls hcall with
    | detach => rwa [SessionKey.ofPath_text]
  unregister lazily silent s hcall := by
    cases owed_of_mem_keyCalls hcall with
    | unregister => exact h rfl
  stop lazily silent s record hcall := by
    cases owed_of_mem_keyCalls hcall with
    | stop found => exact found
  keeps I hI lazily silent := hI.unmountKey h lazily silent
  isMounted := MountTable.isMounted_without h _

end Teardown

/-! ## Hosts -/

namespace Rehearsal.Host

variable {key other : SessionKey} {record : Option Session} {paths : List String}

/-- These are the record and the mounts with a key. -/
def Holds (key : SessionKey) (record : Option Session) (paths : List String) (h : Host) : Prop :=
  Records.find? key h.records.sessions = record ∧
    (h.mounts.paths.filter fun p => SessionKey.ofPath p == key) = paths

/-- `Records.erase key` leaves the record of another key. -/
theorem find?_erase (h : key ≠ other) (sessions : List Session) :
    Records.find? other (Records.erase key sessions) = Records.find? other sessions := by
  unfold Records.find? Records.erase
  rw [List.find?_filter]
  refine congrArg (fun f => List.find? f sessions) (funext fun r => ?_)
  by_cases hr : r.key = other
  · simp [hr, h.symm]
  · simp [hr]

/-- `dropMounts key` leaves the rows of another key. -/
theorem filter_dropMounts (h : key ≠ other) (paths : List String) :
    ((dropMounts key paths).filter fun p => SessionKey.ofPath p == other)
      = paths.filter fun p => SessionKey.ofPath p == other := by
  unfold dropMounts
  rw [List.filter_filter]
  refine congrArg (fun f => List.filter f paths) (funext fun p => ?_)
  by_cases hp : SessionKey.ofPath p = other
  · simp [hp, h.symm]
  · simp [hp]

/-- `note event` touches neither records nor rows. -/
theorem keeps_note (event : String) : Keeps (Holds other record paths) (note event) :=
  Ensures.change fun _ hs => hs

/-- `registry.unregister key` keeps what is recorded under another key. -/
theorem keeps_unregister (hne : key ≠ other) :
    Keeps (Holds other record paths) (registry.unregister key) := by
  refine Keeps.look.bind fun h => (keeps_note _).bind fun _ => .ite (.fail _) ?_
  exact Ensures.change fun s hs => ⟨(find?_erase hne _).trans hs.1, hs.2⟩

/-- **The host** keeps apart what it is asked by key: `teardown.Guards other`. -/
theorem guards (other : SessionKey) (record : Option Session) (paths : List String) :
    teardown.Guards other (Holds other record paths) where
  lookup key := by
    refine Ensures.bind (Ensures.look (Q := fun h s => h = s ∧ Holds other record paths s)
      fun s hs => ⟨rfl, hs⟩) fun h => ?_
    refine Ensures.ite (fun _ => Ensures.fail fun s hs => hs.2) fun _ => ?_
    refine Ensures.pure fun s hs => ⟨hs.2, fun r hr => ?_⟩
    exact beq_iff_eq.1 (List.find?_some (p := fun r : Session => r.key == key) hr)
  unregister key hne := keeps_unregister hne
  list := Keeps.look.bind fun h => .ite (.fail _) (.pure _)
  isAlive pid := Keeps.look.bind fun h => .pure _
  unmount path lazily hne := by
    refine (keeps_note _).bind fun _ => Keeps.look.bind fun h => .ite (.fail _) ?_
    exact Ensures.change fun s hs => ⟨hs.1, (filter_dropMounts hne _).trans hs.2⟩
  stop r hne :=
    (keeps_note _).bind fun _ => Keeps.look.bind fun h => .ite (.fail _) (keeps_unregister hne)
  print line := Ensures.change fun _ hs => hs

/-- A batch of unmounts on the host leaves the record and the mounts with another key as they are. -/
theorem holds_unmountEach {targets : List String}
    (htargets : ∀ target ∈ targets, SessionKey.ofPath target ≠ other) (lazily silent : Bool)
    {h : Host} (hs : Holds other record paths h) :
    Holds other record paths ((teardown.unmountEach lazily silent targets).runOn h).2 :=
  Ensures.final ((guards other record paths).unmountEach lazily silent htargets) hs

/-- A key is not kept apart from itself: a mount with it makes the path mounted. -/
theorem not_separates_self (key : SessionKey) : ¬ teardown.Separates key key := by
  intro h
  let mounted : Host := { surroundings := ⟨"/home/u", "/"⟩, mounts := { paths := [key.text] } }
  have hrun := congrArg (fun a => (a.runOn mounted).1) h.isMounted
  have hlists : MountTable.lists [key.text] key = true := by simp [MountTable.lists]
  have hwithout : MountTable.lists ([key.text].filter fun p => SessionKey.ofPath p != key) key
      = false := by simp [MountTable.lists]
  have hanswers : (Except.ok (MountTable.lists
      ([key.text].filter fun p => SessionKey.ofPath p != key) key) : Except Failure Bool)
        = .ok (MountTable.lists [key.text] key) := hrun
  rw [hlists, hwithout] at hanswers
  exact absurd (Except.ok.inj hanswers) Bool.false_ne_true

end Rehearsal.Host

/-- **Directories with sessions of their own.** Two paths have different keys unless they are read
alike; and so long, whatever is done to unmount one of them keeps the other apart. -/
theorem SessionKey.keptApart_iff (p q : List UInt8) :
    (ofBytes p ≠ ofBytes q ↔ ¬ ReadAlike p q) ∧
    ((∀ {σ : Type} (t : Teardown σ), t.Separates (ofBytes p) (ofBytes q)) ↔ ¬ ReadAlike p q) := by
  rw [← ofBytes_eq_iff]
  refine ⟨Iff.rfl, fun hapart hkey => ?_, fun hne σ t => Teardown.separates_of_ne hne t⟩
  rw [hkey] at hapart
  exact Rehearsal.Host.not_separates_self _ (hapart Rehearsal.Host.teardown)

namespace Rehearsal.Host

/-- The bytes of a path in the root directory whose only name has a backslash. -/
def backslashInName : List UInt8 := "/a\\b".toUTF8.toList

/-- The bytes of a path with two names. -/
def twoNames : List UInt8 := "/a/b".toUTF8.toList

/-- A host where `/a/b` is mounted and recorded. -/
def mountedBelow : Host where
  surroundings := ⟨"/home/u", "/"⟩
  records := { sessions := [{ key := .ofPath "/a/b", owner := .process 7, state := .running }] }
  mounts := { paths := ["/a/b"] }
  processes := { alive := [7] }

/-- A backslash in a name is taken for a slash: the mount of another directory counts, it is taken
away, and its record is removed. Two names of one byte each that is not UTF-8 are taken for the same
name. -/
theorem not_keptApart_backslash :
    (backslashInName.rdropWhile (· == 47) ≠ twoNames.rdropWhile (· == 47) ∧
      backslashInName.head? = some 47 ∧ twoNames.head? = some 47 ∧
      SessionKey.ofBytes backslashInName = .ofBytes twoNames ∧
      .detach "/a/b" false ∈ teardown.keyCalls (.ofBytes backslashInName) false true mountedBelow ∧
      .unregister (.ofBytes twoNames)
        ∈ teardown.keyCalls (.ofBytes backslashInName) false true mountedBelow ∧
      ((teardown.books.mounts.isMounted (.ofBytes backslashInName)).runOn mountedBelow).1.toOption
        = some true) ∧
    [47, 254].rdropWhile (· == (47 : UInt8)) ≠ [47, 255].rdropWhile (· == (47 : UInt8)) ∧
    SessionKey.ofBytes [47, 254] = .ofBytes [47, 255] := by
  decide +kernel

end Rehearsal.Host

end MountKeeper
