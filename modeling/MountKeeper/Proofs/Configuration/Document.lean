import MountKeeper.Container
import MountKeeper.Proofs.Configuration.Fields

/-! # The configuration of a container

What is read from the document that is made for a container is what was read from the document of
the account, with another cache directory and in the background.

* `Configuration.ofValue?_eq_some_iff`: a document is read as a configuration when its entries can
  be told apart and each of them is read.
* `Container.untagged_document`: the document of a container has the entries of the account's, with
  three of them set at most.
* `Container.ofValue?_document`: what is read from it. `Container.Rewritable` is the condition under
  which anything is: no entry that is set stands under a tag. -/

namespace MountKeeper

open Yaml (Value)

/-! ## Reading a document -/

namespace Configuration

/-- The entries of a document that are read. -/
def known : List String :=
  ["logging", "health_monitor", "file_cache", "mountall", "foreground", "nonempty",
    "default-working-dir", "wait-for-mount"]

/-- That the fields of a document are read as a configuration. -/
structure Reads (fields : Section.Fields) (c : Configuration) : Prop where
  logging : Section.read? fields "logging" Section.logging? {} = some c.logging
  monitor : Section.read? fields "health_monitor" Section.monitor? {} = some c.monitor
  cache : Section.read? fields "file_cache" Section.cache? {} = some c.cache
  containers : Section.read? fields "mountall" Section.containers? {} = some c.containers
  foreground : Section.read? fields "foreground" Section.bool? false = some c.foreground
  nonempty : Section.read? fields "nonempty" Section.bool? false = some c.nonempty
  workDir : Section.read? fields "default-working-dir" Section.optionalString? none
    = some c.workDir
  wait : Section.read? fields "wait-for-mount" Section.wait? none = some c.wait

/-- **A document is read** as a configuration when its known entries can be told apart, by
`fields?`, and each of them is read. -/
theorem ofValue?_eq_some_iff {v : Value} {c : Configuration} :
    ofValue? v = some c ↔
      ∃ fields, Section.fields? known v = some fields ∧ Reads fields c ∧ c.document = v := by
  constructor
  · intro h
    simp only [ofValue?, Option.bind_eq_bind, Option.bind_eq_some_iff, Option.pure_def,
      Option.some.injEq] at h
    obtain ⟨fields, hfields, l, hl, m, hm, ca, hca, co, hco, f, hf, n, hn, d, hd, w, hw, rfl⟩ := h
    exact ⟨fields, hfields, ⟨hl, hm, hca, hco, hf, hn, hd, hw⟩, rfl⟩
  · rintro ⟨fields, hfields, h, rfl⟩
    have hknown : Section.fields? ["logging", "health_monitor", "file_cache", "mountall",
      "foreground", "nonempty", "default-working-dir", "wait-for-mount"] c.document
        = some fields := hfields
    simp [ofValue?, hknown, h.logging, h.monitor, h.cache, h.containers, h.foreground, h.nonempty,
      h.workDir, h.wait]

/-- `read?` of a third field is not changed when `foreground` and `file_cache` are set. -/
theorem read?_set {α : Type} {name : String} (hforeground : name ≠ "foreground")
    (hcache : name ≠ "file_cache") (foreground cache : Value) (fields : Section.Fields)
    (read : Value → Option α) (default : α) :
    Section.read? (Section.setField "foreground" foreground
        (Section.setField "file_cache" cache fields)) name read default
      = Section.read? fields name read default := by
  rw [Section.read?_setField_of_ne hforeground, Section.read?_setField_of_ne hcache]

/-- The fields of a container's document are read as those of the account, but for `foreground` and
`file_cache`. -/
theorem Reads.set {fields : Section.Fields} {c : Configuration} (h : Reads fields c) {v : Value}
    {cache : CacheOptions} (hcache : Section.cache? v = some cache) (b : Bool) (document : Value) :
    Reads (Section.setField "foreground" (.bool b) (Section.setField "file_cache" v fields))
      { c with cache := cache, foreground := b, document := document } where
  logging := by rw [read?_set (by decide) (by decide), h.logging]
  monitor := by rw [read?_set (by decide) (by decide), h.monitor]
  cache := by
    rw [Section.read?_setField_of_ne (by decide), Section.read?_setField_self, hcache]
  containers := by rw [read?_set (by decide) (by decide), h.containers]
  foreground := by
    rw [Section.read?_setField_self]
    rfl
  nonempty := by rw [read?_set (by decide) (by decide), h.nonempty]
  workDir := by rw [read?_set (by decide) (by decide), h.workDir]
  wait := by rw [read?_set (by decide) (by decide), h.wait]

end Configuration

/-! ## Writing a document -/

namespace Container

variable {entries : List (Value × Value)} {v : Value}

/-- The entries of a value that is a mapping, tags aside. -/
def entriesOf (v : Value) : List (Value × Value) :=
  match v.untagged with
  | .mapping entries => entries
  | _ => []

/-- `onEntries f` applies `f` to the entries below the tags, and keeps the tags. Recursion on the
tags. -/
theorem untagged_onEntries (f : List (Value × Value) → List (Value × Value)) :
    ∀ v : Value, v.untagged = .mapping entries → (onEntries f v).untagged = .mapping (f entries)
  | .mapping es, h => by
    obtain rfl : es = entries := by simpa [Value.untagged] using h
    rfl
  | .tagged _ v, h => untagged_onEntries f v h
  | .null, h | .bool _, h | .int _, h | .float _, h | .string _, h | .sequence _, h => by
    simp [Value.untagged] at h

/-- A section with an entry set: what is no mapping is an empty one, and a mapping under a tag stays
as it is. -/
def changedSection (key : String) (value : Value) (old : Option Value) : Value :=
  withEntry key value ((old.filter Value.isMapping).getD (.mapping []))

/-- `modifyEntry` at a name that was just inserted changes the inserted value. -/
theorem modifyEntry_insertEntry (name : String) (f : Value → Value) (value : Value)
    (entries : List (Value × Value)) :
    modifyEntry name f (Value.insertEntry name value entries)
      = Value.insertEntry name (f value) entries := by
  induction entries with
  | nil => simp [Value.insertEntry, modifyEntry, Value.isKey]
  | cons e rest ih =>
    obtain ⟨k, v⟩ := e
    by_cases hkey : Value.isKey name k = true <;> simp [Value.insertEntry, modifyEntry, hkey, ih]

/-- `modifyEntry` at a name that is there is an insertion at that name. -/
theorem modifyEntry_of_find? {name : String} (f : Value → Value)
    (h : Value.find? name entries = some v) :
    modifyEntry name f entries = Value.insertEntry name (f v) entries := by
  induction entries with
  | nil => simp [Value.find?] at h
  | cons e rest ih =>
    obtain ⟨k, w⟩ := e
    by_cases hkey : Value.isKey name k = true
    · obtain rfl : w = v := by simpa [Value.find?, hkey] using h
      simp [modifyEntry, Value.insertEntry, hkey]
    · have hrest : Value.find? name rest = some v := by simpa [Value.find?, hkey] using h
      simp [modifyEntry, Value.insertEntry, hkey, ih hrest]

/-- `withEntry key` in `withSection name` sets the section: an insertion of `changedSection key`. -/
theorem modifyEntry_withSection (name key : String) (value : Value)
    (entries : List (Value × Value)) :
    modifyEntry name (withEntry key value) (withSection name entries)
      = Value.insertEntry name (changedSection key value (Value.find? name entries)) entries := by
  rw [withSection, changedSection]
  cases hold : Value.find? name entries with
  | none => simp [modifyEntry_insertEntry]
  | some old =>
    by_cases hmapping : old.isMapping = true
    · simp [hmapping, modifyEntry_of_find? _ hold, Option.filter]
    · simp [hmapping, modifyEntry_insertEntry, Option.filter]

/-- `setIn name key value` inserts, at `name`, the section there with `key` set, and leaves the
other entries. -/
theorem untagged_setIn (name key : String) (value : Value) (h : v.untagged = .mapping entries) :
    (setIn name key value v).untagged
      = .mapping (Value.insertEntry name
          (changedSection key value (Value.find? name entries)) entries) := by
  rw [setIn, untagged_onEntries _ v h, modifyEntry_withSection]

/-- `withName container` writes into a section of a storage component, which is not one of
`Configuration.known`, if at all. -/
theorem untagged_withName (container : String) (h : v.untagged = .mapping entries) :
    ∃ entries', (withName container v).untagged = .mapping entries' ∧
      (entries' = entries ∨ ∃ name ∉ Configuration.known, ∃ value,
        entries' = Value.insertEntry name value entries) := by
  rw [withName]
  split
  · exact ⟨_, untagged_setIn _ _ _ h, .inr ⟨"azstorage", by decide, _, rfl⟩⟩
  · split
    · exact ⟨_, untagged_setIn _ _ _ h, .inr ⟨"s3storage", by decide, _, rfl⟩⟩
    · exact ⟨entries, h, .inl rfl⟩

/-- What has entries below its tags `isMapping`. -/
theorem isMapping_of_untagged (h : v.untagged = .mapping entries) : v.isMapping = true := by
  rw [Value.isMapping, h]

/-- `entriesOf` looks through the tags. -/
theorem entriesOf_of_untagged (h : v.untagged = .mapping entries) : entriesOf v = entries := by
  rw [entriesOf, h]

/-- The document that the rewriting starts from has the entries of the account. -/
theorem untagged_start (account : Value) :
    (if account.isMapping then account else .mapping []).untagged
      = .mapping (entriesOf account) := by
  cases hv : account.untagged with
  | mapping entries => rw [isMapping_of_untagged hv, if_pos rfl, entriesOf_of_untagged hv, hv]
  | _ =>
    have hmapping : account.isMapping = false := by rw [Value.isMapping, hv]
    rw [hmapping, entriesOf, hv]
    rfl

/-- The section on the file cache of a container. -/
def cacheSection (account : Value) (container cacheRoot : String) : Value :=
  changedSection "path" (.string (Path.join cacheRoot container))
    (Value.find? "file_cache" (entriesOf account))

/-- **The document of a container** has the entries of the account's, with `file_cache` and
`foreground` set, and perhaps a section that is not read. -/
theorem untagged_document (account : Value) (container cacheRoot : String) :
    ∃ entries, (document account container cacheRoot).untagged
        = .mapping (Value.insertEntry "foreground" (.bool false) entries) ∧
      (entries = Value.insertEntry "file_cache" (cacheSection account container cacheRoot)
          (entriesOf account) ∨
        ∃ name ∉ Configuration.known, ∃ value,
          entries = Value.insertEntry name value
            (Value.insertEntry "file_cache" (cacheSection account container cacheRoot)
              (entriesOf account))) := by
  obtain ⟨entries, hnamed, hentries⟩ := untagged_withName container
    (untagged_setIn "file_cache" "path" (.string (Path.join cacheRoot container))
      (untagged_start account))
  exact ⟨entries, untagged_onEntries _ _ hnamed, hentries⟩

/-- The fields of a container's document are those of the account with two of them set. They cannot
be read where one of these is `disguised`. -/
theorem fields?_document (account : Value) (container cacheRoot : String) :
    Section.fields? Configuration.known (document account container cacheRoot)
      = if Section.disguised "foreground" (entriesOf account) ||
            Section.disguised "file_cache" (entriesOf account) then none
        else (Section.gather? Configuration.known (entriesOf account)).map fun fields =>
          Section.setField "foreground" (.bool false)
            (Section.setField "file_cache" (cacheSection account container cacheRoot) fields) := by
  obtain ⟨entries, hdocument, hentries⟩ := untagged_document account container cacheRoot
  -- the name of the container changes nothing that is read
  have hgather : Section.gather? Configuration.known entries
      = Section.gather? Configuration.known (Value.insertEntry "file_cache"
          (cacheSection account container cacheRoot) (entriesOf account)) := by
    rcases hentries with rfl | ⟨name, hname, value, rfl⟩
    · rfl
    · rw [Section.gather?_insertEntry_unknown hname]
  have hdisguised : Section.disguised "foreground" entries
      = Section.disguised "foreground" (entriesOf account) := by
    rcases hentries with rfl | ⟨name, -, value, rfl⟩ <;> simp only [Section.disguised_insertEntry]
  rw [Section.fields?, hdocument]
  dsimp only
  rw [Section.gather?_insertEntry (by decide), hdisguised, hgather,
    Section.gather?_insertEntry (by decide)]
  cases Section.disguised "foreground" (entriesOf account) with
  | true => rfl
  | false =>
    cases Section.disguised "file_cache" (entriesOf account) with
    | true => rfl
    | false =>
      simp only [Bool.false_eq_true, Bool.or_self, if_false, Option.map_map]
      rfl

/-! ## What is read of it -/

/-- The entries of the section on the file cache. -/
def cacheEntries (account : Value) : List (Value × Value) :=
  entriesOf ((Value.find? "file_cache" (entriesOf account)).getD .null)

/-- That the section on the file cache is a mapping without a tag on it, or no mapping. -/
def PlainCache (account : Value) : Prop :=
  ∀ v, Value.find? "file_cache" (entriesOf account) = some v → v.isMapping = true →
    ∃ entries, v = .mapping entries

/-- That no entry which is set for a container stands under a tag. -/
structure Rewritable (account : Value) : Prop where
  foreground : Section.disguised "foreground" (entriesOf account) = false
  cache : Section.disguised "file_cache" (entriesOf account) = false
  cachePath : Section.disguised "path" (cacheEntries account) = false

variable {account : Value} {config : Configuration}

/-- `entriesOf v = []` for what is no mapping. -/
theorem entriesOf_of_not_isMapping (h : v.isMapping = false) : entriesOf v = [] := by
  unfold entriesOf
  split
  · next hv => exact absurd (isMapping_of_untagged hv) (by simp [h])
  · rfl

/-- `cacheSection` is the section of the account with `path` set. -/
theorem cacheSection_eq (h : PlainCache account) (container cacheRoot : String) :
    cacheSection account container cacheRoot
      = .mapping (Value.insertEntry "path" (.string (Path.join cacheRoot container))
          (cacheEntries account)) := by
  rw [cacheSection, cacheEntries]
  cases hold : Value.find? "file_cache" (entriesOf account) with
  | none => rfl
  | some v =>
    by_cases hmapping : v.isMapping = true
    · obtain ⟨entries, rfl⟩ := h v hold hmapping
      rfl
    · have hentries := entriesOf_of_not_isMapping (Bool.eq_false_iff.2 hmapping)
      rw [changedSection, Option.getD_some, hentries]
      simp [Option.filter, hmapping, withEntry]

/-- `Section.cache?` of a section with `path` set is read with that path, unless `path` is
`disguised`. -/
theorem cache?_insertEntry {cache : CacheOptions} (h : Section.cache? (.mapping entries) = some cache)
    (path : String) :
    Section.cache? (.mapping (Value.insertEntry "path" (.string path) entries))
      = if Section.disguised "path" entries then none else some { cache with path := path } := by
  have hknown : "path" ∈ ["path", "max-size-mb"] := by decide
  have hfields : ∀ es, Section.fields? ["path", "max-size-mb"] (.mapping es)
      = Section.gather? ["path", "max-size-mb"] es := fun _ => rfl
  simp only [Section.cache?, hfields, Option.bind_eq_bind, Option.bind_eq_some_iff,
    Option.pure_def, Option.some.injEq] at h
  obtain ⟨fields, hgather, old, -, size, hsize, rfl⟩ := h
  rw [Section.cache?, hfields, Section.gather?_insertEntry hknown, hgather]
  -- a disguised `path` stays beside the new one, and a field given twice is refused
  cases Section.disguised "path" entries with
  | true => rfl
  | false =>
    have hpath : Section.read? (Section.setField "path" (.string path) fields) "path"
        Value.asString? "" = some path := Section.read?_setField_self _ _ _ _
    have hother : Section.read? (Section.setField "path" (.string path) fields) "max-size-mb"
        Section.number? (.zero false) = some size := by
      rw [Section.read?_setField_of_ne (by decide), hsize]
    simp [hpath, hother]

/-- `Section.fields?` of a document gathers its entries. -/
theorem gather?_entriesOf {known : List String} {fields : Section.Fields}
    (h : Section.fields? known v = some fields) :
    Section.gather? known (entriesOf v) = some fields := by
  unfold Section.fields? at h
  rw [entriesOf]
  split at h
  · next hv => rw [hv]; exact h
  · next hv => rw [hv]; exact h
  · exact absurd h (by simp)

/-- `Section.cache?` of the account's entries is its cache configuration. -/
theorem cache?_cacheEntries (h : Configuration.ofValue? account = some config)
    (hplain : PlainCache account)
    (hdisguised : Section.disguised "file_cache" (entriesOf account) = false) :
    Section.cache? (.mapping (cacheEntries account)) = some config.cache := by
  obtain ⟨fields, hfields, hreads, -⟩ := Configuration.ofValue?_eq_some_iff.1 h
  have hread := hreads.cache
  rw [Section.read?, Section.find?_of_gather? (by decide) (gather?_entriesOf hfields) hdisguised]
    at hread
  rw [cacheEntries]
  cases hold : Value.find? "file_cache" (entriesOf account) with
  | none =>
    rw [hold] at hread
    exact hread
  | some v =>
    rw [hold] at hread
    have hcache : Section.cache? v = some config.cache := hread
    rw [Option.getD_some]
    by_cases hmapping : v.isMapping = true
    · obtain ⟨entries, rfl⟩ := hplain v hold hmapping
      exact hcache
    · -- what is no mapping is read only when it says nothing
      obtain ⟨known, hknown⟩ : ∃ known, known = ["path", "max-size-mb"] := ⟨_, rfl⟩
      rw [Section.cache?, ← hknown] at hcache ⊢
      obtain ⟨fields, hnull, -⟩ := Option.bind_eq_some_iff.1 hcache
      have hentries : Section.fields? known (.mapping (entriesOf v)) = some fields :=
        gather?_entriesOf hnull
      rw [hentries, ← hnull]
      exact hcache

/-- The configuration of an account, as a container has it. -/
def configurationFor (config : Configuration) (container cacheRoot : String) : Configuration :=
  { config with
    cache := { config.cache with path := Path.join cacheRoot container }
    foreground := false
    document := document config.document container cacheRoot }

/-- The cache section of a container is the one of the account with the path of the container, and
is not read when a key of the account disguises `path`. -/
theorem cache?_cacheSection (h : Configuration.ofValue? account = some config)
    (hplain : PlainCache account)
    (hdisguised : Section.disguised "file_cache" (entriesOf account) = false)
    (container cacheRoot : String) :
    Section.cache? (cacheSection account container cacheRoot)
      = if Section.disguised "path" (cacheEntries account) then none
        else some { config.cache with path := Path.join cacheRoot container } := by
  rw [cacheSection_eq hplain, cache?_insertEntry (cache?_cacheEntries h hplain hdisguised)]

/-- For a `Rewritable` account the document of a container is read, as `configurationFor` it. -/
theorem ofValue?_of_rewritable (h : Configuration.ofValue? account = some config)
    (hplain : PlainCache account) (hrewritable : Rewritable account)
    (container cacheRoot : String) :
    Configuration.ofValue? (document account container cacheRoot)
      = some (configurationFor config container cacheRoot) := by
  obtain ⟨fields, hfields, hreads, rfl⟩ := Configuration.ofValue?_eq_some_iff.1 h
  have hset : Section.fields? Configuration.known (document config.document container cacheRoot)
      = some (Section.setField "foreground" (.bool false) (Section.setField "file_cache"
          (cacheSection config.document container cacheRoot) fields)) := by
    rw [fields?_document, gather?_entriesOf hfields, hrewritable.foreground, hrewritable.cache]
    rfl
  have hcache := cache?_cacheSection h hplain hrewritable.cache container cacheRoot
  rw [hrewritable.cachePath, if_neg (by decide)] at hcache
  exact Configuration.ofValue?_eq_some_iff.2 ⟨_, hset, hreads.set hcache false _, rfl⟩

/-- The converse: when the document of a container is read, the account is `Rewritable`. -/
theorem rewritable_of_ofValue? (h : Configuration.ofValue? account = some config)
    (hplain : PlainCache account) {container cacheRoot : String} {read : Configuration}
    (hread : Configuration.ofValue? (document account container cacheRoot) = some read) :
    Rewritable account := by
  obtain ⟨fields, hfields, -, -⟩ := Configuration.ofValue?_eq_some_iff.1 h
  obtain ⟨fields', hfields', hreads, -⟩ := Configuration.ofValue?_eq_some_iff.1 hread
  rw [fields?_document, gather?_entriesOf hfields, Option.map_some] at hfields'
  split at hfields'
  · exact absurd hfields' (by simp)
  · next hdisguised =>
    simp only [Bool.or_eq_true, not_or, Bool.not_eq_true] at hdisguised
    obtain rfl := Option.some.inj hfields'
    -- the rewritten document was read, so its cache section was: a second `path` there would have
    -- been refused
    have hcache := hreads.cache
    rw [Section.read?_setField_of_ne (by decide), Section.read?_setField_self,
      cache?_cacheSection h hplain hdisguised.2] at hcache
    refine ⟨hdisguised.1, hdisguised.2, Bool.eq_false_iff.2 fun hpath => ?_⟩
    rw [if_pos hpath] at hcache
    exact absurd hcache (by simp)

/-- **What is read for a container** is `configurationFor` it: what was read for the account, with a
cache directory of its own and in the background. Nothing is read when an entry that is set stands
under a tag. -/
theorem ofValue?_document (h : Configuration.ofValue? account = some config)
    (hplain : PlainCache account) {container cacheRoot : String} {read : Configuration} :
    Configuration.ofValue? (document account container cacheRoot) = some read ↔
      Rewritable account ∧ read = configurationFor config container cacheRoot := by
  constructor
  · intro hread
    have hrewritable := rewritable_of_ofValue? h hplain hread
    rw [ofValue?_of_rewritable h hplain hrewritable] at hread
    exact ⟨hrewritable, (Option.some.inj hread).symm⟩
  · rintro ⟨hrewritable, rfl⟩
    exact ofValue?_of_rewritable h hplain hrewritable container cacheRoot

end Container

end MountKeeper
