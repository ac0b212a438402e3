import MountKeeper.Proofs.Configuration.Document

/-! # What a container has of its own

The document that is made for a container has to name the container and a cache directory of its
own. Both stand in sections, and a section is set only if it is no mapping under a tag: such a
section passes for a mapping that need not be made, and is not opened when the entry is written.

* `Container.get?_changedSection`: the entry of a section that was set.
* `Container.get?_document_cache`, `Container.get?_document_storage`: the sections of a container's
  document that are set for it.
* `Container.Own`: what a container's document has to say of the container.
* `Container.own_iff`: so it is for every container exactly when none of the sections that are set
  is a mapping under a tag. -/

namespace MountKeeper

open Yaml (Value)

/-! ## Entries of sections -/

namespace Yaml.Value

/-- The entry `key` of the section `name`, tags aside. -/
def getIn? (v : Value) (name key : String) : Option Value :=
  (v.get? name).bind (·.get? key)

variable {v : Value} {entries : List (Value × Value)}

/-- `v.get? name` looks among the entries of the mapping that `v` is, tags aside. -/
theorem get?_of_untagged (h : v.untagged = .mapping entries) (name : String) :
    v.get? name = find? name entries := by
  rw [get?, h]

/-- `v.get? name = none` where `v` is no mapping. -/
theorem get?_of_not_isMapping (h : v.isMapping = false) (name : String) : v.get? name = none := by
  unfold isMapping at h
  unfold get?
  split at h
  · exact absurd h (by simp)
  · rfl

/-- A mapping has entries, tags aside. -/
theorem exists_untagged_of_isMapping (h : v.isMapping = true) :
    ∃ entries, v.untagged = .mapping entries := by
  unfold isMapping at h
  split at h
  · next es hes => exact ⟨es, hes⟩
  · exact absurd h (by simp)

/-- Whether the value is a mapping under a tag. -/
def isCovered : Value → Bool
  | tagged _ v => v.isMapping
  | _ => false

/-- A mapping that is not under a tag is `.mapping entries` as it stands. -/
theorem exists_mapping_of_not_isCovered (h : v.isMapping = true) (hopen : v.isCovered = false) :
    ∃ entries, v = .mapping entries := by
  cases v with
  | mapping entries => exact ⟨entries, rfl⟩
  | tagged t v => exact absurd (show v.isMapping = true from h) (by simpa [isCovered] using hopen)
  | _ => exact absurd h (by simp [isMapping, untagged])

/-- A mapping under a tag is a mapping. -/
theorem isMapping_of_isCovered (h : v.isCovered = true) : v.isMapping = true := by
  cases v with
  | tagged t v => exact h
  | _ => exact absurd h (by simp [isCovered])

end Yaml.Value

namespace Container

variable {v account : Value} {name other key : String}

/-! ## A section that is set -/

/-- **The entry of a section that was set.** `changedSection key value old` has `value` at `key`,
unless `old` is a mapping under a tag, which is left with the entry that it had. -/
theorem get?_changedSection (key : String) (value : Value) (old : Option Value) :
    (changedSection key value old).get? key
      = if old.any Value.isCovered then old.bind (·.get? key) else some value := by
  have hnew : (withEntry key value (.mapping [])).get? key = some value :=
    Value.find?_insertEntry_self key value []
  cases old with
  | none => exact hnew
  | some section_ =>
    -- a tagged mapping counts as a mapping and is kept, but no entry goes in; a section of another
    -- form makes way for a new mapping
    rw [changedSection, Option.any_some, Option.bind_some]
    cases hmapping : section_.isMapping with
    | true =>
      rw [Option.filter_some_pos hmapping, Option.getD_some]
      cases hcovered : section_.isCovered with
      | true =>
        cases section_ with
        | tagged t v => rfl
        | _ => exact absurd hcovered (by simp [Value.isCovered])
      | false =>
        obtain ⟨entries, rfl⟩ := Value.exists_mapping_of_not_isCovered hmapping hcovered
        exact Value.find?_insertEntry_self key value entries
    | false =>
      have hcovered : section_.isCovered = false := by
        refine Bool.eq_false_iff.2 fun h => ?_
        rw [Value.isMapping_of_isCovered h] at hmapping
        exact absurd hmapping (by decide)
      rw [Option.filter_some_neg hmapping, hcovered]
      exact hnew

/-- `setIn name key value v` is a mapping where `v` is one. -/
theorem isMapping_setIn (h : v.isMapping = true) (name key : String) (value : Value) :
    (setIn name key value v).isMapping = true := by
  obtain ⟨entries, hentries⟩ := Value.exists_untagged_of_isMapping h
  exact isMapping_of_untagged (untagged_setIn name key value hentries)

/-- `setIn name key value v` has the changed section at `name`. -/
theorem get?_setIn_self (h : v.isMapping = true) (name key : String) (value : Value) :
    (setIn name key value v).get? name = some (changedSection key value (v.get? name)) := by
  obtain ⟨entries, hentries⟩ := Value.exists_untagged_of_isMapping h
  rw [Value.get?_of_untagged (untagged_setIn name key value hentries),
    Value.get?_of_untagged hentries, Value.find?_insertEntry_self]

/-- `setIn name key value v` has at another name what `v` has there. -/
theorem get?_setIn_of_ne (h : v.isMapping = true) (hne : other ≠ name) (key : String)
    (value : Value) : (setIn name key value v).get? other = v.get? other := by
  obtain ⟨entries, hentries⟩ := Value.exists_untagged_of_isMapping h
  rw [Value.get?_of_untagged (untagged_setIn name key value hentries),
    Value.get?_of_untagged hentries, Value.find?_insertEntry_of_ne hne]

/-- An entry `f x` that differs for two containers is there for each of them if and only if its
section is no mapping under a tag: a tag keeps the entry that was there, which is not `f a` and `f
b` at once. -/
theorem get?_changedSection_iff {α : Type} {f : α → String} {a b : α} (hne : f a ≠ f b)
    (key : String) (old : Option Value) :
    (∀ x, (changedSection key (.string (f x)) old).get? key = some (.string (f x)))
      ↔ old.any Value.isCovered = false := by
  constructor
  · intro hall
    refine Bool.eq_false_iff.2 fun hcovered => hne ?_
    -- under a tag the entry is the old one, which cannot be that of two containers
    have hold : ∀ x, old.bind (·.get? key) = some (.string (f x)) := by
      intro x
      have hx := hall x
      rwa [get?_changedSection, if_pos hcovered] at hx
    have hsame := (hold a).symm.trans (hold b)
    exact Value.string.inj (Option.some.inj hsame)
  · intro hopen x
    rw [get?_changedSection, hopen]
    rfl

/-! ## The sections of a container's document -/

/-- The document that the rewriting starts from. -/
def start (account : Value) : Value :=
  if account.isMapping then account else .mapping []

/-- `start account` is a mapping, whatever `account` is. -/
theorem isMapping_start (account : Value) : (start account).isMapping = true :=
  isMapping_of_untagged (untagged_start account)

/-- `start account` has the entries of `account`: one that is no mapping has none. -/
theorem get?_start (account : Value) (name : String) :
    (start account).get? name = account.get? name := by
  unfold start
  cases hmapping : account.isMapping with
  | true => rfl
  | false => exact (Value.get?_of_not_isMapping hmapping name).symm

/-- `uses v component` is told by two entries of `v`: the list of components, and the section of
this one. -/
theorem uses_congr {v w : Value} {component : String}
    (hlist : v.get? "components" = w.get? "components")
    (hown : v.get? component = w.get? component) : uses v component = uses w component := by
  rw [uses, uses, hlist, hown]

/-- The document with the cache directory of the container. -/
def cached (account : Value) (container cacheRoot : String) : Value :=
  setIn "file_cache" "path" (.string (Path.join cacheRoot container)) (start account)

section

variable (account : Value) (container cacheRoot : String)

/-- `cached account container cacheRoot` is a mapping. -/
theorem isMapping_cached : (cached account container cacheRoot).isMapping = true :=
  isMapping_setIn (isMapping_start account) _ _ _

/-- `cached account container cacheRoot` differs from `account` in the section `file_cache` alone.
-/
theorem get?_cached_of_ne (h : name ≠ "file_cache") :
    (cached account container cacheRoot).get? name = account.get? name := by
  rw [cached, get?_setIn_of_ne (isMapping_start account) h, get?_start]

/-- So it uses the same components, but for `file_cache`. -/
theorem uses_cached {component : String} (h : component ≠ "file_cache") :
    uses (cached account container cacheRoot) component = uses account component :=
  uses_congr (get?_cached_of_ne account container cacheRoot (by decide))
    (get?_cached_of_ne account container cacheRoot h)

end

/-- Where the name of a container goes: a section and its entry. -/
def ownName? (account : Value) : Option (String × String) :=
  if uses account "azstorage" then some ("azstorage", "container")
  else if uses account "s3storage" then some ("s3storage", "bucket-name")
  else none

/-- An account that uses `azstorage` names its containers there. -/
theorem ownName?_of_azure (h : uses account "azstorage" = true) :
    ownName? account = some ("azstorage", "container") := by
  rw [ownName?, if_pos h]

/-- One that uses `s3storage` and not `azstorage` names its buckets there. -/
theorem ownName?_of_s3 (hazure : uses account "azstorage" = false)
    (h : uses account "s3storage" = true) :
    ownName? account = some ("s3storage", "bucket-name") := by
  rw [ownName?, hazure, if_neg (by decide), if_pos h]

/-- The section with a name is neither `file_cache` nor `foreground`, which are set as well. -/
theorem ne_of_ownName? (h : ownName? account = some (name, key)) :
    name ≠ "file_cache" ∧ name ≠ "foreground" := by
  unfold ownName? at h
  split at h
  · obtain ⟨rfl, -⟩ := Prod.mk.inj (Option.some.inj h)
    decide
  · split at h
    · obtain ⟨rfl, -⟩ := Prod.mk.inj (Option.some.inj h)
      decide
    · exact absurd h (by simp)

/-- `withName container` sets the entry that `ownName? account` tells, if there is one. -/
theorem withName_cached (account : Value) (container cacheRoot : String) :
    withName container (cached account container cacheRoot)
      = (ownName? account).elim (cached account container cacheRoot) fun entry =>
          setIn entry.1 entry.2 (.string container) (cached account container cacheRoot) := by
  rw [withName, ownName?, uses_cached _ _ _ (by decide), uses_cached _ _ _ (by decide)]
  split
  · rfl
  · split <;> rfl

section

variable (account : Value) (container cacheRoot : String)

/-- The document with the name is a mapping. -/
theorem isMapping_withName_cached :
    (withName container (cached account container cacheRoot)).isMapping = true := by
  rw [withName_cached]
  cases ownName? account with
  | none => exact isMapping_cached account container cacheRoot
  | some entry => exact isMapping_setIn (isMapping_cached account container cacheRoot) _ _ _

/-- `document account container cacheRoot` is the document with the name, and `foreground` is
inserted among its entries. -/
theorem exists_untagged_document : ∃ entries,
    (withName container (cached account container cacheRoot)).untagged = .mapping entries ∧
      (document account container cacheRoot).untagged
        = .mapping (Value.insertEntry "foreground" (.bool false) entries) := by
  obtain ⟨entries, hentries⟩ :=
    Value.exists_untagged_of_isMapping (isMapping_withName_cached account container cacheRoot)
  exact ⟨entries, hentries, untagged_onEntries _ _ hentries⟩

/-- `document account container cacheRoot` is a mapping. -/
theorem isMapping_document : (document account container cacheRoot).isMapping = true := by
  obtain ⟨entries, -, hdocument⟩ := exists_untagged_document account container cacheRoot
  exact isMapping_of_untagged hdocument

/-- Its entry `foreground` is `false`. -/
theorem get?_document_foreground :
    (document account container cacheRoot).get? "foreground" = some (.bool false) := by
  obtain ⟨entries, -, hdocument⟩ := exists_untagged_document account container cacheRoot
  rw [Value.get?_of_untagged hdocument, Value.find?_insertEntry_self]

/-- Its other entries are those of the document with the name. -/
theorem get?_document_of_ne (h : name ≠ "foreground") :
    (document account container cacheRoot).get? name
      = (withName container (cached account container cacheRoot)).get? name := by
  obtain ⟨entries, hentries, hdocument⟩ := exists_untagged_document account container cacheRoot
  rw [Value.get?_of_untagged hdocument, Value.get?_of_untagged hentries,
    Value.find?_insertEntry_of_ne h]

/-- Its section `file_cache` is that of the account, with the cache directory of the container set
in it. -/
theorem get?_document_cache :
    (document account container cacheRoot).get? "file_cache"
      = some (changedSection "path" (.string (Path.join cacheRoot container))
          (account.get? "file_cache")) := by
  have hcached : (cached account container cacheRoot).get? "file_cache"
      = some (changedSection "path" (.string (Path.join cacheRoot container))
          (account.get? "file_cache")) := by
    rw [cached, get?_setIn_self (isMapping_start account), get?_start]
  rw [get?_document_of_ne _ _ _ (by decide), withName_cached]
  cases hname : ownName? account with
  | none => exact hcached
  | some entry =>
    rw [Option.elim_some, get?_setIn_of_ne (isMapping_cached account container cacheRoot)
      (ne_of_ownName? hname).1.symm, hcached]

variable {account} in
/-- Its storage section is that of the account, with the name of the container set in it. -/
theorem get?_document_storage (h : ownName? account = some (name, key)) :
    (document account container cacheRoot).get? name
      = some (changedSection key (.string container) (account.get? name)) := by
  obtain ⟨hcache, hforeground⟩ := ne_of_ownName? h
  rw [get?_document_of_ne _ _ _ hforeground, withName_cached, h, Option.elim_some,
    get?_setIn_self (isMapping_cached account container cacheRoot),
    get?_cached_of_ne _ _ _ hcache]

end

/-! ## What is a container's own -/

/-- **What a container's document has to say**: it is a mapping with a cache directory for the
container, runs in the background, and names the container to the first of the two storage
components that the document of the account uses. -/
structure Own (account : Value) (container cacheRoot : String) : Prop where
  mapping : (document account container cacheRoot).isMapping = true
  cachePath : (document account container cacheRoot).getIn? "file_cache" "path"
    = some (.string (Path.join cacheRoot container))
  background : (document account container cacheRoot).get? "foreground" = some (.bool false)
  azure : uses account "azstorage" = true →
    (document account container cacheRoot).getIn? "azstorage" "container" = some (.string container)
  s3 : uses account "azstorage" = false → uses account "s3storage" = true →
    (document account container cacheRoot).getIn? "s3storage" "bucket-name"
      = some (.string container)

/-- That no section which is set for a container is a mapping under a tag. -/
structure Open (account : Value) : Prop where
  cache : (account.get? "file_cache").any Value.isCovered = false
  azure : uses account "azstorage" = true →
    (account.get? "azstorage").any Value.isCovered = false
  s3 : uses account "azstorage" = false → uses account "s3storage" = true →
    (account.get? "s3storage").any Value.isCovered = false

/-- `getIn? "file_cache" "path"` is a directory of its own for every container if and only if the
section on the file cache is no mapping under a tag. -/
theorem cachePath_iff (account : Value) :
    (∀ container cacheRoot, (document account container cacheRoot).getIn? "file_cache" "path"
        = some (.string (Path.join cacheRoot container)))
      ↔ (account.get? "file_cache").any Value.isCovered = false := by
  have htwo : Path.join "" "a" ≠ Path.join "" "b" := by decide
  rw [← get?_changedSection_iff (f := fun x : String × String => Path.join x.2 x.1)
    (a := ("a", "")) (b := ("b", "")) htwo "path", Prod.forall]
  simp only [Value.getIn?, get?_document_cache, Option.bind_some]

/-- `getIn? name key` is the name of every container if and only if the section `name` is no mapping
under a tag. -/
theorem name_iff (h : ownName? account = some (name, key)) :
    (∀ container cacheRoot, (document account container cacheRoot).getIn? name key
        = some (.string container))
      ↔ (account.get? name).any Value.isCovered = false := by
  rw [← get?_changedSection_iff (f := fun x : String => x) (a := "a") (b := "b") (by decide) key]
  simp only [Value.getIn?, get?_document_storage _ _ h, Option.bind_some]
  exact forall_congr' fun container => forall_const String

/-- **Every container has its own cache directory and name** if and only if no section that is set
is a mapping under a tag. This is `cachePath_iff` and `name_iff` put together: the rest of `Own`
holds of every account. -/
theorem own_iff (account : Value) :
    (∀ container cacheRoot, Own account container cacheRoot) ↔ Open account := by
  constructor
  · intro hown
    refine ⟨?_, fun hazure => ?_, fun hazure hs3 => ?_⟩
    · refine (cachePath_iff account).1 fun container cacheRoot => ?_
      exact (hown container cacheRoot).cachePath
    · refine (name_iff (ownName?_of_azure hazure)).1 fun container cacheRoot => ?_
      exact (hown container cacheRoot).azure hazure
    · refine (name_iff (ownName?_of_s3 hazure hs3)).1 fun container cacheRoot => ?_
      exact (hown container cacheRoot).s3 hazure hs3
  · intro hopen container cacheRoot
    refine ⟨isMapping_document _ _ _, ?_, get?_document_foreground _ _ _, fun hazure => ?_,
      fun hazure hs3 => ?_⟩
    · exact (cachePath_iff account).2 hopen.cache container cacheRoot
    · exact (name_iff (ownName?_of_azure hazure)).2 (hopen.azure hazure) container cacheRoot
    · exact (name_iff (ownName?_of_s3 hazure hs3)).2 (hopen.s3 hazure hs3) container cacheRoot

/-- With `!tag {path: x}` as its section on the file cache, the container `photos` has the cache
directory `x` of the account. -/
theorem not_own_taggedCache :
    ¬ Own (.mapping [(.string "file_cache",
        .tagged "!tag" (.mapping [(.string "path", .string "x")]))]) "photos" "/cache" := by
  intro hown
  have hpath := hown.cachePath
  rw [Value.getIn?, get?_document_cache, Option.bind_some, get?_changedSection,
    if_pos (by decide)] at hpath
  exact absurd (Value.string.inj (Option.some.inj hpath)) (by decide)

end Container

end MountKeeper
