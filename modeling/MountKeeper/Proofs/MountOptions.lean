import MountKeeper.MountOptions
import MountKeeper.Proofs.Configuration.Document

/-! # How a mount is resolved

* `MountOptions.resolve_eq_ok_iff`: a request is resolved when the configuration file can be found
  and read, and the options and the time to wait can be read; `MountOptions.merged` is the outcome.
* `MountOptions.Coherent` is what holds of every resolved mount. -/

namespace MountKeeper

open Yaml (Value)

/-- What a computation and the one behind it have to give for both to succeed. -/
theorem exceptBind_eq_ok_iff {ε α β : Type} {x : Except ε α} {f : α → Except ε β} {b : β} :
    x.bind f = .ok b ↔ ∃ a, x = .ok a ∧ f a = .ok b := by
  cases x <;> simp [Except.bind]

/-- Inversion of `x.map f`. -/
theorem exceptMap_eq_ok_iff {ε α β : Type} {x : Except ε α} {f : α → β} {b : β} :
    x.map f = .ok b ↔ ∃ a, x = .ok a ∧ f a = b := by
  cases x <;> simp [Except.map]

/-- Inversion of `x.mapError f`: only the error is changed. -/
theorem exceptMapError_eq_ok_iff {ε δ α : Type} {x : Except ε α} {f : ε → δ} {a : α} :
    x.mapError f = .ok a ↔ x = .ok a := by
  cases x with
  | ok b =>
    change Except.ok b = Except.ok a ↔ _
    rw [Except.ok.injEq, Except.ok.injEq]
  | error e => exact iff_of_false (fun h => nomatch h) (fun h => nomatch h)

/-! ## The document -/

namespace Configuration

/-- What a text says is what its document says. -/
theorem ofValue?_of_parse {text : String} {c : Configuration} (h : parse text = .ok c) :
    ofValue? c.document = some c := by
  unfold parse at h
  split at h
  · exact absurd h (by simp)
  · next v _ =>
    split at h
    · -- a document that says nothing is read as the defaults
      obtain rfl := Except.ok.inj h
      rfl
    · split at h
      · next c' hc' =>
        obtain rfl := Except.ok.inj h
        obtain ⟨_, _, _, hdocument⟩ := ofValue?_eq_some_iff.1 hc'
        rw [hdocument, hc']
      · exact absurd h (by simp)

/-- What is loaded from a disk was parsed from some text. -/
theorem parse_of_load {disk : Disk} {path : String} {c : Configuration}
    (h : load disk path = .ok c) : ∃ text, parse text = .ok c := by
  unfold load at h
  split at h
  · exact absurd h (by simp)
  · next text _ =>
    split at h
    · exact absurd h (by simp)
    · next hparse => exact ⟨text, by rw [hparse, Except.ok.inj h]⟩

end Configuration

/-! ## Resolving -/

namespace MountOptions

variable {env : Surroundings} {disk : Disk} {request : MountRequest} {options : MountOptions}

/-- The configuration of the file that was found; the defaults when there is none. -/
def loaded (disk : Disk) : Option String → Except Failure Configuration
  | some path => Configuration.load disk path
  | none => .ok {}

/-- How long to wait for a background mount: what was asked for wins over what the file says. -/
def waiting (request : MountRequest) (c : Configuration) : Except Failure Duration :=
  match request.waitForMount with
  | some wait => .ok wait
  | none => c.waitForMount.map (·.getD defaultWait)

/-- What was asked for together with what the configuration says. -/
def merged (env : Surroundings) (request : MountRequest) (path : Option String)
    (c : Configuration) (fuseOptions : List FuseOption) (wait : Duration) : MountOptions where
  mountPath := Path.expand env request.mountPath
  configPath := path
  foreground := request.foreground || c.foreground
  nonempty := c.nonempty || fuseOptions.contains .nonEmpty
  fuseOptions := fuseOptions
  workDir := chosenWorkDir env request c
  waitForMount := wait
  remount := request.remount
  config := withCacheDir env c

/-- A configuration file that was asked for is found when it is there. -/
theorem findConfig_of_isFile {typed : String} (h : request.configFile = some typed)
    (hfile : disk.isFile (Path.expand env typed) = true) :
    findConfig env disk request = .ok (some (Path.expand env typed)) := by
  rw [findConfig, h]
  dsimp only
  rw [if_pos hfile]

/-- When no time to wait was asked for, the file gives it. -/
theorem waiting_of_none (h : request.waitForMount = none) (c : Configuration) :
    waiting request c = c.waitForMount.map (·.getD defaultWait) := by
  rw [waiting, h]

/-- A cache directory that is filled in leaves the document as it was read. -/
@[simp] theorem document_withCacheDir (c : Configuration) :
    (withCacheDir env c).document = c.document := by
  simp only [withCacheDir]

/-- The cache directory is made absolute. -/
theorem cachePath_withCacheDir {c : Configuration} (h : c.cache.path ≠ "") :
    (withCacheDir env c).cache.path = Path.expand env c.cache.path := by
  simp only [withCacheDir, if_neg h]

/-- Resolving, one thing after the other. -/
theorem resolve_eq (h : Text.isBlankText request.mountPath = false) :
    resolve env disk request = (findConfig env disk request).bind fun path =>
      (loaded disk path).bind fun c =>
        ((FuseOption.readAll request.fuseOptions).mapError Failure.ofSession).bind
          fun fuseOptions => (waiting request c).map (merged env request path c fuseOptions) := by
  unfold resolve waiting
  simp only [h, bind, Except.bind, pure, Except.pure]
  cases findConfig env disk request with
  | error e => rfl
  | ok path =>
    -- without a configuration file nothing is loaded, and nothing but the request can name a wait
    cases path with
    | none =>
      cases (FuseOption.readAll request.fuseOptions).mapError Failure.ofSession with
      | error e => rfl
      | ok fuseOptions => cases request.waitForMount <;> rfl
    | some path =>
      simp only [loaded]
      cases Configuration.load disk path with
      | error e => rfl
      | ok c =>
        cases (FuseOption.readAll request.fuseOptions).mapError Failure.ofSession with
        | error e => rfl
        | ok fuseOptions =>
          cases request.waitForMount with
          | some wait => rfl
          | none => cases hwait : c.waitForMount <;> simp [hwait, Except.map, merged]

/-- **A request is resolved** when the configuration file can be found and read, and the options and
the time to wait can be read. -/
theorem resolve_eq_ok_iff :
    resolve env disk request = .ok options ↔
      Text.isBlankText request.mountPath = false ∧
      ∃ path c fuseOptions wait, findConfig env disk request = .ok path ∧
        loaded disk path = .ok c ∧ FuseOption.readAll request.fuseOptions = .ok fuseOptions ∧
        waiting request c = .ok wait ∧ merged env request path c fuseOptions wait = options := by
  by_cases hblank : Text.isBlankText request.mountPath = true
  · have hrefused : resolve env disk request
        = .error (.ofSession (.validation "mount path not provided")) := by
      rw [resolve, hblank]
      rfl
    simp [hrefused, hblank]
  · rw [Bool.not_eq_true] at hblank
    rw [resolve_eq hblank]
    simp only [exceptBind_eq_ok_iff, exceptMap_eq_ok_iff, exceptMapError_eq_ok_iff, hblank,
      true_and]
    constructor
    · rintro ⟨path, hpath, c, hc, fuseOptions, hoptions, wait, hwait, hmerged⟩
      exact ⟨path, c, fuseOptions, wait, hpath, hc, hoptions, hwait, hmerged⟩
    · rintro ⟨path, c, fuseOptions, wait, hpath, hc, hoptions, hwait, hmerged⟩
      exact ⟨path, hpath, c, hc, fuseOptions, hoptions, wait, hwait, hmerged⟩

/-- What is loaded is what its document says. -/
theorem ofValue?_of_loaded {path : Option String} {c : Configuration}
    (h : loaded disk path = .ok c) : Configuration.ofValue? c.document = some c := by
  cases path with
  | none =>
    obtain rfl : {} = c := Except.ok.inj h
    rfl
  | some path =>
    obtain ⟨text, hparse⟩ := Configuration.parse_of_load h
    exact Configuration.ofValue?_of_parse hparse

/-- What holds of everything that a mount needs, wherever it came from: the mount path is what some
typed path means, and the configuration is the one that its document says, but for the cache
directory. -/
structure Coherent (env : Surroundings) (options : MountOptions) : Prop where
  mountPath : ∃ typed, options.mountPath = Path.expand env typed
  nonempty : options.nonempty
    = (options.config.nonempty || options.fuseOptions.contains .nonEmpty)
  config : ∃ c, Configuration.ofValue? c.document = some c ∧ options.config = withCacheDir env c

/-- **Every resolved mount** is coherent. -/
theorem coherent_of_resolve (h : resolve env disk request = .ok options) : Coherent env options := by
  obtain ⟨-, path, c, fuseOptions, wait, -, hloaded, -, -, rfl⟩ := resolve_eq_ok_iff.1 h
  exact ⟨⟨request.mountPath, rfl⟩, rfl, ⟨c, ofValue?_of_loaded hloaded, rfl⟩⟩

/-- The cache directory is what some typed path means. -/
theorem Coherent.cachePath (h : Coherent env options) :
    ∃ typed, options.config.cache.path = Path.expand env typed := by
  obtain ⟨c, -, hconfig⟩ := h.config
  exact ⟨_, by rw [hconfig]; rfl⟩

end MountOptions

end MountKeeper
