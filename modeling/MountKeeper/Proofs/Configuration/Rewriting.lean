import MountKeeper.Proofs.Configuration.OwnEntries
import Mathlib.Data.List.Forall2

/-! # Documents that are rewritten

The document of a container is that of the account with a few entries set. What a container's
document was made from is not seen in it any more when it is made into that of another container.

* `Container.Setting` is an entry that is set, to a value that depends on the one that was there;
  `Setting.applyAll` sets some of them, one after the other.
* `Setting.applyAll_applyAll`: settings that override others leave nothing of them. The settings of
  two containers override each other (`Container.overrides_settings`).
* `Container.document_eq`: the document of a container is made by its settings.
* `Container.Spares` says what a rewriting leaves alone; `Container.lastRewritingCounts` that every
  rewriting does, and that the last one counts. -/

namespace MountKeeper

open Yaml (Value)

/-! ## Entries that are set -/

namespace Yaml.Value

variable {name other : String} {entries : List (Value × Value)}

/-- A key is one name only: `isKey name k` excludes `isKey other k`. -/
theorem isKey_of_ne {k : Value} (hne : name ≠ other) (h : isKey name k = true) :
    isKey other k = false := by
  refine isKey_of_asString?_ne ?_
  rw [asString?_of_isKey h]
  exact fun he => hne (Option.some.inj he)

/-- `insertEntry name v` and `insertEntry other w` may be exchanged, where the first entry is there
already: it is set in its place, before or behind the other. -/
theorem insertEntry_comm (hne : name ≠ other) (h : (find? name entries).isSome) (v w : Value) :
    insertEntry name v (insertEntry other w entries)
      = insertEntry other w (insertEntry name v entries) := by
  induction entries with
  | nil => exact absurd h (by simp [find?])
  | cons e rest ih =>
    obtain ⟨k, u⟩ := e
    by_cases hname : isKey name k = true
    · have hother := isKey_of_ne hne hname
      simp [insertEntry, hname, hother]
    · have hrest : (find? name rest).isSome := by
        rwa [find?, if_neg hname] at h
      by_cases hother : isKey other k = true
      · simp [insertEntry, hname, hother]
      · simp [insertEntry, hname, hother, ih hrest]

/-- `insertEntry name v` leaves the entries of other kinds as they are, in their order. -/
theorem filter_insertEntry {p : Value × Value → Bool}
    (hp : ∀ k v, isKey name k = true → p (k, v) = false) (v : Value)
    (entries : List (Value × Value)) :
    (insertEntry name v entries).filter p = entries.filter p := by
  induction entries with
  | nil =>
    have hnew := hp (string name) v (by simp [isKey])
    simp [insertEntry, hnew]
  | cons e rest ih =>
    obtain ⟨k, u⟩ := e
    by_cases hname : isKey name k = true
    · simp [insertEntry, hname, hp k u hname, hp k v hname]
    · simp [insertEntry, hname, List.filter_cons, ih]

/-- The tags of a value, outermost first. -/
def tags : Value → List String
  | tagged t v => t :: v.tags
  | _ => []

end Yaml.Value

namespace Container

variable {account v : Value} {entries : List (Value × Value)} {name key : String}

/-! ## Settings -/

/-- An entry that is set, to a value that depends on the one that was there. -/
structure Setting where
  name : String
  value : Option Value → Value

namespace Setting

/-- Entries with a setting. -/
def apply (x : Setting) (entries : List (Value × Value)) : List (Value × Value) :=
  Value.insertEntry x.name (x.value (Value.find? x.name entries)) entries

/-- Entries with some settings, one after the other. -/
def applyAll : List Setting → List (Value × Value) → List (Value × Value)
  | [], entries => entries
  | x :: rest, entries => applyAll rest (x.apply entries)

/-- The first setting leaves nothing of the second one, behind which it is made. -/
structure Overrides (x y : Setting) : Prop where
  name : x.name = y.name
  value : ∀ old, x.value (some (y.value old)) = x.value old

variable {x y : Setting} {xs ys : List Setting}

/-- `x.apply entries` has at its name the value that the setting makes of the one before. -/
theorem find?_apply_self (x : Setting) (entries : List (Value × Value)) :
    Value.find? x.name (x.apply entries) = some (x.value (Value.find? x.name entries)) :=
  Value.find?_insertEntry_self _ _ _

/-- `x.apply entries` has at another name what was there. -/
theorem find?_apply_of_ne (hne : name ≠ x.name) (entries : List (Value × Value)) :
    Value.find? name (x.apply entries) = Value.find? name entries :=
  Value.find?_insertEntry_of_ne hne _ _

/-- `x.apply (y.apply entries) = x.apply entries` where `x` overrides `y`. -/
theorem Overrides.apply_apply (h : x.Overrides y) (entries : List (Value × Value)) :
    x.apply (y.apply entries) = x.apply entries := by
  have hold := y.find?_apply_self entries
  rw [apply, h.name, hold, h.value, apply, Value.insertEntry_insertEntry, apply, h.name]

/-- `x.apply` and `y.apply` commute where the entry of `x` is there: then it keeps its place. -/
theorem apply_comm (hne : x.name ≠ y.name) (hthere : (Value.find? x.name entries).isSome) :
    x.apply (y.apply entries) = y.apply (x.apply entries) := by
  rw [apply, find?_apply_of_ne hne, apply, Value.insertEntry_comm hne hthere,
    ← find?_apply_of_ne (Ne.symm hne) entries]
  rfl

/-- `x.apply` commutes with `applyAll ys` where the entry of `x` is there. Induction on `ys`. -/
theorem apply_applyAll (hne : ∀ y ∈ ys, x.name ≠ y.name)
    (hthere : (Value.find? x.name entries).isSome) :
    x.apply (applyAll ys entries) = applyAll ys (x.apply entries) := by
  induction ys generalizing entries with
  | nil => rfl
  | cons y rest ih =>
    have hy : x.name ≠ y.name := hne y List.mem_cons_self
    have hstill : (Value.find? x.name (y.apply entries)).isSome := by
      rwa [find?_apply_of_ne hy]
    rw [applyAll, ih (fun z hz => hne z (List.mem_cons_of_mem _ hz)) hstill, apply_comm hy hthere,
      applyAll]

/-- **Settings that override others**, each one of its own, leave nothing of them: `applyAll xs
(applyAll ys entries) = applyAll xs entries`. The induction is on the pairs: the first setting is
brought to the one that it overrides. -/
theorem applyAll_applyAll (h : List.Forall₂ Overrides xs ys) (hnames : (ys.map Setting.name).Nodup)
    (entries : List (Value × Value)) :
    applyAll xs (applyAll ys entries) = applyAll xs entries := by
  -- by induction on the settings: the first of the second row goes to the front, where it meets the
  -- one that it overrides
  induction h generalizing entries with
  | nil => rfl
  | @cons x y xs ys hfirst _ ih =>
    rw [List.map_cons, List.nodup_cons] at hnames
    have hothers : ∀ z ∈ ys, x.name ≠ z.name := by
      intro z hz he
      exact hnames.1 (hfirst.name ▸ he ▸ List.mem_map_of_mem hz)
    have hthere : (Value.find? x.name (y.apply entries)).isSome := by
      rw [hfirst.name, find?_apply_self]
      rfl
    rw [applyAll, applyAll, apply_applyAll hothers hthere, hfirst.apply_apply, ih hnames.2,
      applyAll]

/-- `applyAll xs` leaves the entries of other kinds as they are, in their order. -/
theorem filter_applyAll {p : Value × Value → Bool}
    (hp : ∀ x ∈ xs, ∀ k v, Value.isKey x.name k = true → p (k, v) = false)
    (entries : List (Value × Value)) : (applyAll xs entries).filter p = entries.filter p := by
  induction xs generalizing entries with
  | nil => rfl
  | cons x rest ih =>
    rw [applyAll, ih (fun z hz => hp z (List.mem_cons_of_mem _ hz)), apply,
      Value.filter_insertEntry (hp x List.mem_cons_self)]

end Setting

/-! ## Sections -/

/-- `onEntries f v` has the tags of `v`. -/
theorem tags_onEntries (f : List (Value × Value) → List (Value × Value)) :
    ∀ v : Value, (onEntries f v).tags = v.tags
  | .tagged t v => congrArg (t :: ·) (tags_onEntries f v)
  | .mapping _ | .null | .bool _ | .int _ | .float _ | .string _ | .sequence _ => rfl

/-- `onEntries g` behind `onEntries f` is `onEntries` of the one and then the other. -/
theorem onEntries_onEntries (f g : List (Value × Value) → List (Value × Value)) :
    ∀ v : Value, onEntries g (onEntries f v) = onEntries (fun entries => g (f entries)) v
  | .tagged t v => congrArg (Value.tagged t) (onEntries_onEntries f g v)
  | .mapping _ | .null | .bool _ | .int _ | .float _ | .string _ | .sequence _ => rfl

/-- `withEntry key value v` is a mapping where `v` is one. -/
theorem isMapping_withEntry (key : String) (value : Value) (h : v.isMapping = true) :
    (withEntry key value v).isMapping = true := by
  cases v with
  | mapping entries => rfl
  | _ => exact h

/-- `withEntry key` twice is `withEntry key` with the second value. -/
theorem withEntry_withEntry (key : String) (old new v : Value) :
    withEntry key new (withEntry key old v) = withEntry key new v := by
  cases v with
  | mapping entries =>
    rw [withEntry, withEntry, withEntry, Value.insertEntry_insertEntry]
  | _ => rfl

/-- What an entry of a section is set in is a mapping: the section, or an empty one in its place. -/
theorem isMapping_openedSection (old : Option Value) :
    ((old.filter Value.isMapping).getD (.mapping [])).isMapping = true := by
  cases hold : old.filter Value.isMapping with
  | none => rfl
  | some v => exact (Option.filter_eq_some_iff.1 hold).2

/-- `changedSection key value old` is a mapping. -/
theorem isMapping_changedSection (key : String) (value : Value) (old : Option Value) :
    (changedSection key value old).isMapping = true :=
  isMapping_withEntry key value (isMapping_openedSection old)

/-- `changedSection key` twice is `changedSection key` with the second value. -/
theorem changedSection_changedSection (key : String) (first second : Value) (old : Option Value) :
    changedSection key second (some (changedSection key first old))
      = changedSection key second old := by
  have hmapping := isMapping_changedSection key first old
  rw [changedSection, Option.filter_some_pos hmapping, Option.getD_some, changedSection,
    withEntry_withEntry, changedSection]

/-- `changedSection key` of a mapping keeps its other entries in their order, and its tags. -/
theorem changedSection_of_isMapping (key : String) (value : Value) (h : v.isMapping = true) :
    (entriesOf (changedSection key value (some v))).filter (fun e => !Value.isKey key e.1)
        = (entriesOf v).filter (fun e => !Value.isKey key e.1) ∧
      (changedSection key value (some v)).tags = v.tags := by
  rw [changedSection, Option.filter_some_pos h, Option.getD_some]
  cases v with
  | mapping entries =>
    exact ⟨Value.filter_insertEntry (fun k v hk => by simp [hk]) value entries, rfl⟩
  | _ => exact ⟨rfl, rfl⟩

/-! ## The settings of a container -/

/-- The sections that are set for a container, each with the entry that is set in it. -/
def ownSections (account : Value) : List (String × String) :=
  ("file_cache", "path") :: (ownName? account).toList

/-- The names of the entries that are set for a container. -/
def ownNames (account : Value) : List String :=
  (ownSections account).map Prod.fst ++ ["foreground"]

/-- A setting of an entry in a section. -/
def settingIn (section_ key : String) (value : Value) : Setting :=
  ⟨section_, changedSection key value⟩

/-- What is set for a container. -/
def settings (account : Value) (container cacheRoot : String) : List Setting :=
  settingIn "file_cache" "path" (.string (Path.join cacheRoot container))
    :: (ownName? account).toList.map (fun entry => settingIn entry.1 entry.2 (.string container))
    ++ [⟨"foreground", fun _ => .bool false⟩]

/-- The settings of a container are of the entries in `ownNames account`. -/
theorem map_name_settings (account : Value) (container cacheRoot : String) :
    (settings account container cacheRoot).map Setting.name = ownNames account := by
  simp [settings, ownNames, ownSections, settingIn]

/-- The `ownNames` of an account, which are set for each container, are different ones. -/
theorem nodup_ownNames (account : Value) : (ownNames account).Nodup := by
  rw [ownNames, ownSections]
  cases h : ownName? account with
  | none => decide
  | some entry =>
    obtain ⟨hcache, hforeground⟩ := ne_of_ownName? h
    simp [hforeground, Ne.symm hcache]

/-- The settings of a container override those of any other one: they are of the same entries, since
these depend on the account alone. -/
theorem overrides_settings (account : Value) (container container' cacheRoot cacheRoot' : String) :
    List.Forall₂ Setting.Overrides (settings account container' cacheRoot')
      (settings account container cacheRoot) := by
  have hin : ∀ section_ key value value',
      (settingIn section_ key value').Overrides (settingIn section_ key value) :=
    fun section_ key value value' => ⟨rfl, changedSection_changedSection key value value'⟩
  have hlast : List.Forall₂ Setting.Overrides [⟨"foreground", fun _ => .bool false⟩]
      [⟨"foreground", fun _ => .bool false⟩] := .cons ⟨rfl, fun _ => rfl⟩ .nil
  refine .cons (hin _ _ _ _) ?_
  cases ownName? account with
  | none => exact hlast
  | some entry => exact .cons (hin _ _ _ _) hlast

/-- `setIn section_ key value` is a setting of the entries. -/
theorem setIn_eq (section_ key : String) (value document : Value) :
    setIn section_ key value document
      = onEntries (settingIn section_ key value).apply document := by
  have hchange : (fun entries => modifyEntry section_ (withEntry key value)
      (withSection section_ entries)) = (settingIn section_ key value).apply :=
    funext fun entries => modifyEntry_withSection section_ key value entries
  rw [setIn, hchange]

/-- **The document of a container** is that of the account with the `settings` of the container. -/
theorem document_eq (account : Value) (container cacheRoot : String) :
    document account container cacheRoot
      = onEntries (Setting.applyAll (settings account container cacheRoot)) (start account) := by
  have hdocument : document account container cacheRoot
      = onEntries (Value.insertEntry "foreground" (.bool false))
          (withName container (cached account container cacheRoot)) := rfl
  rw [hdocument, withName_cached, cached, setIn_eq, settings]
  cases ownName? account with
  | none => exact onEntries_onEntries _ _ _
  | some entry =>
    rw [Option.elim_some, setIn_eq, onEntries_onEntries, onEntries_onEntries]
    rfl

/-! ## What a rewriting leaves alone -/

/-- **What the rewriting of an account's document leaves alone**: everything but the entries that
are set, and in a section that is set everything but the one entry. -/
structure Spares (account rewritten : Value) : Prop where
  /-- The document keeps its tags. -/
  tags : account.isMapping = true → rewritten.tags = account.tags
  /-- The entries under other names keep their values and their order. -/
  others : (entriesOf rewritten).filter (fun e => !(ownNames account).any (Value.isKey · e.1))
    = (entriesOf account).filter fun e => !(ownNames account).any (Value.isKey · e.1)
  /-- In a section that was a mapping, so do the entries under other names than the one that is
  set. -/
  sections : ∀ entry ∈ ownSections account, ∀ old,
    account.get? entry.1 = some old → old.isMapping = true →
      ∃ new, rewritten.get? entry.1 = some new ∧ new.tags = old.tags ∧
        (entriesOf new).filter (fun e => !Value.isKey entry.2 e.1)
          = (entriesOf old).filter fun e => !Value.isKey entry.2 e.1

/-- `start account = account` where the account is a mapping. -/
theorem start_of_isMapping (h : account.isMapping = true) : start account = account := by
  rw [start, if_pos h]

section

variable (account : Value) (container cacheRoot : String)

/-- `entriesOf (document …)` are those of the account with the `settings` of the container. -/
theorem entriesOf_document : entriesOf (document account container cacheRoot)
    = Setting.applyAll (settings account container cacheRoot) (entriesOf account) := by
  rw [document_eq]
  exact entriesOf_of_untagged (untagged_onEntries _ _ (untagged_start account))

/-- A section of `ownSections` is changed at its entry. -/
theorem get?_document_of_mem {entry : String × String} (h : entry ∈ ownSections account) :
    ∃ value, (document account container cacheRoot).get? entry.1
      = some (changedSection entry.2 value (account.get? entry.1)) := by
  rcases List.mem_cons.1 h with rfl | h
  · exact ⟨_, get?_document_cache account container cacheRoot⟩
  · exact ⟨_, get?_document_storage container cacheRoot (Option.mem_toList.1 h)⟩

/-- `document account container cacheRoot` spares what is not set for a container, at the top and in
the sections. -/
theorem spares_document : Spares account (document account container cacheRoot) where
  tags h := by
    rw [document_eq, tags_onEntries, start_of_isMapping h]
  others := by
    rw [entriesOf_document]
    refine Setting.filter_applyAll (fun x hx k v hk => ?_) _
    have hname : x.name ∈ ownNames account := by
      rw [← map_name_settings account container cacheRoot]
      exact List.mem_map_of_mem hx
    rw [Bool.not_eq_false']
    exact List.any_eq_true.2 ⟨x.name, hname, hk⟩
  sections entry hentry old hold hmapping := by
    obtain ⟨value, hnew⟩ := get?_document_of_mem account container cacheRoot hentry
    rw [hold] at hnew
    obtain ⟨hothers, htags⟩ := changedSection_of_isMapping entry.2 value hmapping
    exact ⟨_, hnew, htags, hothers⟩

/-- An entry that is not one of `ownNames` is that of the account. -/
theorem get?_document_of_not_mem (h : name ∉ ownNames account) :
    (document account container cacheRoot).get? name = account.get? name := by
  simp only [ownNames, ownSections, List.map_cons, List.mem_append, List.mem_cons, List.mem_map,
    Option.mem_toList, List.not_mem_nil, or_false, not_or, not_exists, not_and] at h
  obtain ⟨⟨hcache, hstorage⟩, hforeground⟩ := h
  rw [get?_document_of_ne _ _ _ hforeground, withName_cached]
  cases hname : ownName? account with
  | none => exact get?_cached_of_ne account container cacheRoot hcache
  | some entry =>
    have hother : name ≠ entry.1 := fun he => hstorage entry hname he.symm
    rw [Option.elim_some, get?_setIn_of_ne (isMapping_cached account container cacheRoot) hother,
      get?_cached_of_ne account container cacheRoot hcache]

/-- `uses` of a component is the same for the document of a container and that of the account. -/
theorem uses_document {component : String} (hcache : component ≠ "file_cache")
    (hforeground : component ≠ "foreground")
    (hused : ∀ key, ownName? account = some (component, key) → uses account component = true) :
    uses (document account container cacheRoot) component = uses account component := by
  have hlist : (document account container cacheRoot).get? "components"
      = account.get? "components" := by
    refine get?_document_of_not_mem account container cacheRoot ?_
    unfold ownNames ownSections ownName?
    split
    · decide
    · split <;> decide
  by_cases hname : ∃ key, ownName? account = some (component, key)
  · -- its section is there in both
    obtain ⟨key, hname⟩ := hname
    rw [hused key hname, uses, get?_document_storage container cacheRoot hname]
    exact Bool.or_true _
  · refine uses_congr hlist (get?_document_of_not_mem account container cacheRoot ?_)
    intro hmem
    simp only [ownNames, ownSections, List.map_cons, List.mem_append, List.mem_cons, List.mem_map,
      Option.mem_toList, List.not_mem_nil, or_false] at hmem
    rcases hmem with (he | ⟨entry, hentry, rfl⟩) | he
    · exact hcache he
    · exact hname ⟨entry.2, hentry⟩
    · exact hforeground he

/-- `ownName?` of the document is that of the account, so that the next rewriting writes the name to
the same place. -/
theorem ownName?_document : ownName? (document account container cacheRoot) = ownName? account := by
  -- an account that names no storage gets no name entry, so rewriting cannot make it name one
  have hazure : uses (document account container cacheRoot) "azstorage"
      = uses account "azstorage" := by
    refine uses_document account container cacheRoot (by decide) (by decide) fun key h => ?_
    unfold ownName? at h
    split at h
    · assumption
    · split at h <;> simp at h
  have hs3 : uses (document account container cacheRoot) "s3storage"
      = uses account "s3storage" := by
    refine uses_document account container cacheRoot (by decide) (by decide) fun key h => ?_
    unfold ownName? at h
    split at h
    · simp at h
    · split at h
      · assumption
      · simp at h
  rw [ownName?, ownName?, hazure, hs3]

end

/-- **Rewriting a document.** Of two rewritings for containers the last one counts, down to the
order of the entries, and every rewriting leaves alone what is not set for a container:
`applyAll_applyAll` at the settings of the two, and `spares_document`. -/
theorem lastRewritingCounts (account : Value) :
    (∀ container container' cacheRoot cacheRoot',
      document (document account container cacheRoot) container' cacheRoot'
        = document account container' cacheRoot') ∧
      ∀ container cacheRoot, Spares account (document account container cacheRoot) := by
  refine ⟨fun container container' cacheRoot cacheRoot' => ?_, spares_document account⟩
  -- which entries are written depends on the account alone, and the first rewriting leaves that as
  -- it is
  have hsettings : settings (document account container cacheRoot) container' cacheRoot'
      = settings account container' cacheRoot' := by
    rw [settings, ownName?_document, settings]
  have hoverride := overrides_settings account container container' cacheRoot cacheRoot'
  have hnames : ((settings account container cacheRoot).map Setting.name).Nodup := by
    rw [map_name_settings]
    exact nodup_ownNames account
  calc document (document account container cacheRoot) container' cacheRoot'
      = onEntries (Setting.applyAll (settings account container' cacheRoot'))
          (document account container cacheRoot) := by
        rw [document_eq, hsettings, start_of_isMapping (isMapping_document _ _ _)]
    _ = onEntries (fun entries => Setting.applyAll (settings account container' cacheRoot')
          (Setting.applyAll (settings account container cacheRoot) entries)) (start account) := by
        rw [document_eq account container cacheRoot, onEntries_onEntries]
    _ = document account container' cacheRoot' := by
        rw [document_eq account container' cacheRoot',
          funext (Setting.applyAll_applyAll hoverride hnames)]

end Container

end MountKeeper
