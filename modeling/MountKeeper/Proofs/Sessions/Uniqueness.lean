import MountKeeper.Pattern.Reader
import MountKeeper.Proofs.Sessions.Run

/-! # One session for each key

Sessions are served by processes that may die at any moment. At the end of every run of mounts,
unmounts and deaths that begins with nothing, the keys with a record are the keys that are mounted,
no key is mounted twice, and the supervisor has never been asked to start a session under a key that
was not free.

* `ServedByProcesses` is what is asked of the registry, the table, the unmounter and the supervisor.
* `ServedByProcesses.runs_coherent` is the statement about runs. -/

namespace MountKeeper

open Act (Ensures Keeps)

variable {σ α : Type}

/-- What is seen of a host on which processes serve sessions. -/
structure HostView (σ : Type) where
  /-- The records and the mounts. -/
  ledger : σ → Ledger
  /-- Whether a process exists. -/
  alive : σ → UInt32 → Bool
  /-- The keys that the supervisor was asked to start, each with the ledger at that moment. -/
  starts : σ → List (SessionKey × Ledger)

namespace HostView

/-- The host has the given ledger, and the supervisor was asked for the given starts. -/
def At (v : HostView σ) (V : Ledger) (J : List (SessionKey × Ledger)) (s : σ) : Prop :=
  v.ledger s = V ∧ v.starts s = J

/-- Every start was asked for when its key was free. -/
def StartsFree (J : List (SessionKey × Ledger)) : Prop :=
  ∀ call ∈ J, call.2.Free call.1

/-- The ledger of a host whose starts were all asked for when their keys were free. -/
def account (v : HostView σ) : Account σ := ⟨v.ledger, fun s => StartsFree (v.starts s)⟩

variable {v : HostView σ} {V : Ledger} {J : List (SessionKey × Ledger)} {s : σ}

/-- A host with the ledger `V` has it in the account. -/
theorem At.account (h : v.At V J s) (hJ : StartsFree J) : v.account.At V s := by
  obtain ⟨rfl, rfl⟩ := h
  exact ⟨rfl, hJ⟩

/-- Another start under a free key. -/
theorem StartsFree.append (hJ : StartsFree J) {k : SessionKey} (hk : V.Free k) :
    StartsFree (J ++ [(k, V)]) := by
  intro call hcall
  rcases List.mem_append.1 hcall with hcall | hcall
  · exact hJ call hcall
  · rw [List.mem_singleton.1 hcall]
    exact hk

/-- To know an act from the ledger, it is enough to know it for each list of starts. -/
theorem ensures_of_starts {act : Act σ α} {Q : α → σ → Prop} {E : Failure → σ → Prop}
    (h : ∀ J, StartsFree J → Ensures (v.At V J) act Q E) : Ensures (v.account.At V) act Q E :=
  fun s hs => h (v.starts s) hs.2 s ⟨hs.1, rfl⟩

/-- An act that keeps the ledger and the starts. -/
theorem keeps_of_starts {act : Act σ α} (h : ∀ J, Keeps (v.At V J) act) :
    Keeps (v.account.At V) act :=
  ensures_of_starts fun J hJ =>
    (h J).weaken (fun _ _ hs => hs.account hJ) fun _ _ hs => hs.account hJ

end HostView

/-- **The parts of a manager whose sessions are served by processes**, and the death of a process.
Nothing is said about which processes exist behind an act other than a death: they may die at any
moment. To stop a session is never asked for, so nothing is said about it. -/
structure ServedByProcesses (m : SessionManager σ) (v : HostView σ) (die : UInt32 → Act σ Unit) :
    Prop where
  /-- The registry looks records up by key. -/
  lookup : ∀ V J k, Ensures (v.At V J) (m.books.registry.lookup k)
    (fun r s => r = V.records k ∧ v.At V J s) fun _ _ => False
  /-- The registry removes the record of a key. -/
  unregister : ∀ V J k, Ensures (v.At V J) (m.books.registry.unregister k)
    (fun _ => v.At (V.forget k) J) fun _ _ => False
  /-- The table lists the mounted paths. -/
  list : ∀ V J, Ensures (v.At V J) m.books.mounts.list
    (fun paths s => paths = V.table ∧ v.At V J s) fun _ => v.At V J
  /-- Whether a mount is disconnected may be asked, whatever the answer. -/
  isDisconnected : ∀ V J k, Keeps (v.At V J) (m.books.mounts.isDisconnected k)
  /-- The process table says which processes exist. -/
  isAlive : ∀ V J pid, Ensures (v.At V J) (m.books.processes.isAlive pid)
    (fun alive s => alive = v.alive s pid ∧ v.At V J s) fun _ => v.At V J
  /-- An unmount that is not lazy takes away the mounts of the path's key, or fails. -/
  unmount : ∀ V J path, Ensures (v.At V J) (m.books.unmounter.unmount path false)
    (fun _ => v.At (V.detach (.ofPath path)) J) fun _ => v.At V J
  /-- A lazy unmount takes away the mounts of the path's key. -/
  unmount_lazily : ∀ V J path, Ensures (v.At V J) (m.books.unmounter.unmount path true)
    (fun _ => v.At (V.detach (.ofPath path)) J) fun _ _ => False
  /-- A start records the session under some process and mounts its path, or fails. -/
  start : ∀ V J session options, Ensures (v.At V J) (m.supervisor.start session options)
    (fun _ s => ∃ pid state path, SessionKey.ofPath path = session.key ∧
      v.At (V.attach { session with owner := .process pid, state := state } path)
        (J ++ [(session.key, V)]) s)
    fun _ => v.At V (J ++ [(session.key, V)])
  /-- A mount is made to come back, or that fails. -/
  install : ∀ V J record, Keeps (v.At V J) (m.remount.install record)
  /-- A mount is kept from coming back, or that fails. -/
  uninstall : ∀ V J k, Keeps (v.At V J) (m.remount.uninstall k)
  /-- A line is shown. -/
  print : ∀ V J line, Keeps (v.At V J) (m.console.print line)
  /-- A process dies. -/
  die : ∀ V J pid, Ensures (v.At V J) (die pid)
    (fun _ s => v.alive s pid = false ∧ v.At V J s) fun _ _ => False

/-- What happens to a host: the manager is asked for something, or a process dies. -/
inductive SessionEvent where
  | request (r : SessionRequest)
  | death (pid : UInt32)

/-- What an event does. -/
def SessionEvent.act (m : SessionManager σ) (die : UInt32 → Act σ Unit) :
    SessionEvent → Act σ Unit
  | request r => r.act m
  | death pid => die pid

/-- The host behind some events, one after the other. -/
def SessionEvent.run (m : SessionManager σ) (die : UInt32 → Act σ Unit) (events : List SessionEvent)
    (s : σ) : σ :=
  Act.runAll (events.map (·.act m die)) s

namespace ServedByProcesses

variable {m : SessionManager σ} {v : HostView σ} {die : UInt32 → Act σ Unit}

/-- A manager whose sessions are served by processes is accountable, whatever is to be mounted. The
account says of the starts that they were asked for under free keys. -/
theorem accountable (h : ServedByProcesses m v die) : Accountable m v.account fun _ => True where
  lookup V k := HostView.ensures_of_starts fun J hJ =>
    (h.lookup V J k).weaken (fun _ _ hs => ⟨hs.1, hs.2.account hJ⟩) fun _ _ hf => hf
  unregister V k := HostView.ensures_of_starts fun J hJ =>
    (h.unregister V J k).weaken (fun _ _ hs => hs.account hJ) fun _ _ hf => hf
  list V := HostView.ensures_of_starts fun J hJ =>
    (h.list V J).weaken (fun _ _ hs => ⟨hs.1, hs.2.account hJ⟩) fun _ _ hs => hs.account hJ
  isDisconnected V k := HostView.keeps_of_starts fun J => h.isDisconnected V J k
  isAlive V pid := HostView.ensures_of_starts fun J hJ =>
    (h.isAlive V J pid).weaken (fun _ _ hs => hs.2.account hJ) fun _ _ hs => hs.account hJ
  unmount V path lazily := HostView.ensures_of_starts fun J hJ => by
    cases lazily with
    | false =>
      exact (h.unmount V J path).weaken (fun _ _ hs => hs.account hJ) fun _ _ hs => hs.account hJ
    | true =>
      exact (h.unmount_lazily V J path).weaken (fun _ _ hs => hs.account hJ) fun _ _ hf => hf.elim
  unmount_lazily V k record pid _ _ := HostView.ensures_of_starts fun J hJ => by
    have hunmount := h.unmount_lazily V J k.text
    rw [SessionKey.ofPath_text] at hunmount
    exact hunmount.weaken (fun _ _ hs => hs.account hJ) fun _ _ hf => hf
  start V session options _ hfree := HostView.ensures_of_starts fun J hJ => by
    refine (h.start V J session options).weaken ?_ fun _ _ hs => hs.account (hJ.append hfree)
    -- the log of starts grows by this one, for a key that was free
    rintro started s ⟨pid, state, path, hpath, hs⟩
    exact ⟨{ session with owner := .process pid, state := state }, path, rfl, hpath,
      hs.account (hJ.append hfree)⟩
  install V record _ := HostView.keeps_of_starts fun J => h.install V J record
  uninstall V k := HostView.keeps_of_starts fun J => h.uninstall V J k
  print V line := HostView.keeps_of_starts fun J => h.print V J line

/-- A death keeps the account. -/
theorem keeps_die (h : ServedByProcesses m v die) (pid : UInt32) :
    Keeps v.account.Orderly (die pid) :=
  Account.ensures_of_coherent fun V hV => HostView.ensures_of_starts fun J hJ =>
    (h.die V J pid).weaken (fun _ _ hs => (hs.2.account hJ).orderly hV) fun _ _ hf => hf.elim

/-- **One event** keeps the ledger coherent, and the starts under free keys. -/
theorem event (h : ServedByProcesses m v die) (e : SessionEvent) :
    Keeps v.account.Orderly (e.act m die) := by
  cases e with
  | request r =>
    refine h.accountable.request ?_
    cases r <;> trivial
  | death pid => exact h.keeps_die pid

/-- **Every run** from a host on which nothing is recorded and nothing is mounted: the keys with a
record are those of the mounted paths, no two of which share a key; every start was asked for under
a key with neither a record nor a mount; and behind every unmount that succeeds now, the ledger is
clear of what was to be unmounted. -/
theorem runs_coherent (h : ServedByProcesses m v die) {s : σ} (hs : v.At .empty [] s)
    (events : List SessionEvent) :
    (v.ledger (SessionEvent.run m die events s)).Coherent ∧
    HostView.StartsFree (v.starts (SessionEvent.run m die events s)) ∧
    ∀ typed lazily forGood s',
      (m.unmount typed lazily forGood).runOn (SessionEvent.run m die events s) = (.ok (), s') →
        (v.ledger s').ClearOf m.patterns (m.target typed) := by
  -- what every event keeps: a coherent ledger, and starts under free keys only
  have hstart : v.account.Orderly s :=
    (hs.account fun call hcall => absurd hcall (by simp)).orderly Ledger.Coherent.empty
  have hrun : v.account.Orderly (SessionEvent.run m die events s) := by
    refine Keeps.runAll (fun act hact => ?_) hstart
    obtain ⟨e, -, rfl⟩ := List.mem_map.1 hact
    exact h.event e
  exact ⟨hrun.1, hrun.2, fun _ _ _ _ hunmount => h.accountable.clearOf_of_unmount hrun hunmount⟩

end ServedByProcesses

/-! ## A host -/

/-- A host on which a mount that is in use is unmounted lazily only. -/
structure BusyHost where
  ledger : Ledger := .empty
  /-- The processes that exist. -/
  pids : List UInt32 := []
  starts : List (SessionKey × Ledger) := []

namespace BusyHost

/-- Whether a key is in use: the process that owns its record exists. -/
def inUse (h : BusyHost) (k : SessionKey) : Bool :=
  match h.ledger.records k with
  | some record => h.pids.any fun pid => record.owner == .process pid
  | none => false

/-- The next process. -/
def nextPid (h : BusyHost) : UInt32 :=
  h.starts.length.toUInt32 + 1

/-- Starts a session in the next process. Without a configuration file it is not started. -/
def start (session : Session) : Act BusyHost Started := fun h =>
  let h' := { h with starts := h.starts ++ [(session.key, h.ledger)] }
  if session.configPath.isSome then
    (.ok (.background h.nextPid), { h' with
      ledger := h.ledger.attach
        { session with owner := .process h.nextPid, state := .running } session.key.text
      pids := h.nextPid :: h.pids })
  else (.error (.ofText "no configuration"), h')

/-- Unmounts a path that is not in use, or any path lazily. -/
def unmount (path : String) (lazily : Bool) : Act BusyHost Unit := fun h =>
  if !lazily && h.inUse (.ofPath path) then (.error (.ofText "target is busy"), h)
  else (.ok (), { h with ledger := h.ledger.detach (.ofPath path) })

/-- A process dies. -/
def die (pid : UInt32) : Act BusyHost Unit :=
  Act.change fun h => { h with pids := h.pids.filter fun p => p != pid }

/-- A disk with one empty directory. -/
def disk : Disk := { nodes := [(["mnt"], .directory)] }

/-- The manager of such hosts. -/
def manager : SessionManager BusyHost where
  surroundings := ⟨"/home/u", "/"⟩
  books := {
    registry := {
      register := fun record => Act.change fun h =>
        { h with ledger := { h.ledger with
          records := Function.update h.ledger.records record.key (some record) } }
      lookup := fun k h => (.ok (h.ledger.records k), h)
      unregister := fun k => Act.change fun h => { h with ledger := h.ledger.forget k }
      listAll := pure [] }
    mounts := {
      list := fun h => (.ok h.ledger.table, h)
      isDisconnected := fun _ => pure false }
    unmounter := ⟨unmount⟩
    processes := {
      isAlive := fun pid h => (.ok (h.pids.contains pid), h)
      childrenOf := fun _ => pure []
      pidsNamed := fun _ => pure []
      terminate := die
      kill := die } }
  supervisor := {
    start := fun session _ => start session
    stop := fun session => Act.change fun h => { h with ledger := h.ledger.erase session.key } }
  remount := {
    install := fun _ => Act.failText "no units"
    uninstall := fun _ => pure () }
  console := ⟨fun _ => pure ()⟩
  disk := ⟨fun _ => disk, fun _ h => h⟩
  patterns := Pattern.reader
  self _ := 1

/-- What is seen of such a host. -/
def view : HostView BusyHost := ⟨ledger, fun h pid => h.pids.contains pid, starts⟩

/-- The manager of a rehearsal meets the contract. -/
theorem servedByProcesses : ServedByProcesses manager view die where
  lookup V J k := by
    rintro s ⟨rfl, rfl⟩
    exact ⟨rfl, rfl, rfl⟩
  unregister V J k := by
    rintro s ⟨rfl, rfl⟩
    exact ⟨rfl, rfl⟩
  list V J := by
    rintro s ⟨rfl, rfl⟩
    exact ⟨rfl, rfl, rfl⟩
  isDisconnected V J k := Ensures.pure fun s hs => hs
  isAlive V J pid := by
    rintro s ⟨rfl, rfl⟩
    exact ⟨rfl, rfl, rfl⟩
  unmount V J path := by
    rintro s ⟨rfl, rfl⟩
    have hrun : (manager.books.unmounter.unmount path false).runOn s
        = if s.inUse (.ofPath path) then (.error (.ofText "target is busy"), s)
          else (.ok (), { s with ledger := s.ledger.detach (.ofPath path) }) := rfl
    rw [hrun]
    by_cases hbusy : s.inUse (.ofPath path) = true
    · rw [if_pos hbusy]
      exact ⟨rfl, rfl⟩
    · rw [if_neg hbusy]
      exact ⟨rfl, rfl⟩
  unmount_lazily V J path := by
    rintro s ⟨rfl, rfl⟩
    exact ⟨rfl, rfl⟩
  start V J session options := by
    rintro s ⟨rfl, rfl⟩
    obtain ⟨key, config, owner, state⟩ := session
    cases config with
    | none => exact ⟨rfl, rfl⟩
    | some c => exact ⟨s.nextPid, .running, key.text, key.ofPath_text, rfl, rfl⟩
  install V J record := Ensures.fail fun s hs => hs
  uninstall V J k := Ensures.pure fun s hs => hs
  print V J line := Ensures.pure fun s hs => hs
  die V J pid := by
    rintro s ⟨rfl, rfl⟩
    refine ⟨?_, rfl, rfl⟩
    show (s.pids.filter fun p => p != pid).contains pid = false
    simp

/-- A mount at `/mnt`. -/
def options : MountOptions where
  mountPath := "/mnt/"
  configPath := some "/c.yaml"
  foreground := false
  nonempty := false
  fuseOptions := []
  workDir := "/w"
  waitForMount := .ofSeconds 5
  remount := {}
  config := {}

/-- A mount, two attempts that are refused because of it, the death of its process, and a mount that
clears up behind it. -/
def reclaim : List SessionEvent :=
  [.request (.mount options), .request (.mount options), .request (.unmount "/mnt" false false),
    .death 1, .request (.mount options)]

/-- Such a host is one that the statement about runs is about. -/
theorem runs_coherent_reclaim :
    ServedByProcesses manager view die ∧ view.At .empty [] {} ∧
    (SessionEvent.run manager die reclaim {}).ledger.table = ["/mnt"] ∧
    (view.ledger (SessionEvent.run manager die reclaim {})).Coherent ∧
    HostView.StartsFree (view.starts (SessionEvent.run manager die reclaim {})) ∧
    ∀ typed lazily forGood s',
      (manager.unmount typed lazily forGood).runOn (SessionEvent.run manager die reclaim {})
        = (.ok (), s') → (view.ledger s').ClearOf manager.patterns (manager.target typed) :=
  ⟨servedByProcesses, ⟨rfl, rfl⟩, by decide +kernel,
    servedByProcesses.runs_coherent ⟨rfl, rfl⟩ reclaim⟩

end BusyHost

end MountKeeper
