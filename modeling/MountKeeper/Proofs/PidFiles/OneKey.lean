import MountKeeper.Proofs.PidFiles.Map

/-! # PID files under one key

What the registry over PID files does, as seen from one key: it holds the last session that was
registered under the key, or none.

* `PidFiles.Records` says what is recorded under a key.
* `PidFiles.runOn_lookup_of_records`, `PidFiles.records_of_register` and
  `PidFiles.records_of_unregister` are what calls do to it. -/

namespace MountKeeper.PidFiles

variable {dir : String} {key : SessionKey} {record : Option Session}

/-- What is recorded under a key. -/
def Records (dir : String) (key : SessionKey) (record : Option Session) (d : Disk) : Prop :=
  ∃ (base : Place) (files : String → Option String) (r : Option Registration),
    d.Holds dir base files ∧ files (fileName key) = r.map (textOf key) ∧
    record = r.map (sessionFor key)

/-- On an empty directory nothing is recorded. -/
theorem records_none {d : Disk} (h : d.list dir = .ok []) (key : SessionKey) :
    Records dir key none d := by
  obtain ⟨base, hempty⟩ := Disk.holds_of_list_eq_nil h
  exact ⟨base, _, none, hempty, rfl, rfl⟩

/-- Behind a call about a key, its file is what the call has made of it. -/
theorem records_of_act {d : Disk} {c : Call} (hkey : Storable dir c.key)
    (h : Records dir c.key record d) : ∃ d', (c.act dir).runOn d = (.ok (), d') ∧
      Records dir c.key (c.outcome.map (sessionFor c.key)) d' := by
  obtain ⟨base, files, r, hholds, -, -⟩ := h
  obtain ⟨d', hrun, hholds'⟩ := runOn_act hholds c hkey
  exact ⟨d', hrun, base, _, c.outcome, hholds', Function.update_self _ _ _, rfl⟩

/-- To look the key up gives the record, and changes nothing. -/
theorem runOn_lookup_of_records (hkey : Storable dir key) {d : Disk}
    (h : Records dir key record d) : ((registry dir).lookup key).runOn d = (.ok record, d) := by
  obtain ⟨base, files, r, hholds, hfile, rfl⟩ := h
  cases r with
  | none => exact runOn_lookup_of_none hholds hkey hfile
  | some r => exact runOn_lookup_of_some hholds hkey hkey hfile

/-- A session that a process serves is recorded with its owner. -/
theorem records_of_register (hkey : Storable dir key) {session : Session} {pid : UInt32}
    (hsession : session.key = key) (howner : session.owner = .process pid) {d : Disk}
    (h : Records dir key record d) : ∃ (d' : Disk) (kept : Session),
      ((registry dir).register session).runOn d = (.ok (), d') ∧ kept.owner = .process pid ∧
      Records dir key (some kept) d' := by
  obtain ⟨key', config, owner, state⟩ := session
  subst hsession howner
  obtain ⟨d', hrun, hrecords⟩ := records_of_act (c := .register key' ⟨pid, config⟩ state) hkey h
  exact ⟨d', sessionFor key' ⟨pid, config⟩, hrun, rfl, hrecords⟩

/-- A session that a service serves is not recorded. -/
theorem runOn_register_of_service (dir : String) {session : Session} {name : String}
    (howner : session.owner = .service name) (d : Disk) :
    ∃ f, ((registry dir).register session).runOn d = (.error f, d) := by
  obtain ⟨key', config, owner, state⟩ := session
  subst howner
  exact ⟨_, rfl⟩

/-- To unregister the key removes its record. -/
theorem records_of_unregister (hkey : Storable dir key) {d : Disk}
    (h : Records dir key record d) : ∃ d', ((registry dir).unregister key).runOn d = (.ok (), d') ∧
      Records dir key none d' :=
  records_of_act (c := .unregister key) hkey h

end MountKeeper.PidFiles
