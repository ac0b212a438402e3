import MountKeeper.MountAll
import MountKeeper.Proofs.CommandLine.MountWords
import MountKeeper.Proofs.Disk.Change
import MountKeeper.Proofs.Expansion
import MountKeeper.Proofs.MountOptions

/-! # What is handed on to the mount of a container

A container is mounted by this program itself, run with arguments of its own and with a
configuration file that was written for it. What the mount of the account was resolved to arrives
there in part as written options, in part in that file, and in part not at all.

* `MountAll.ofWords_arguments`: the arguments are read as the request that they were made from.
* `MountAll.resolve_asked_iff`: what that request is resolved to.
* `MountAll.handsOn_iff`: the settings arrive exactly when the working directory is the one that the
  document of the account gives and the other conditions of `MountAll.Transferable` hold.
* `MountAll.Unconfigured` is an account without a configuration file: with the default working
  directory everything arrives, with another one the working directory stays behind. -/

namespace MountKeeper

open Yaml (Value)

/-! ## Mappings that are read back -/

namespace Yaml.Node

variable {o : Outline} {node : Reader} {fuel : Nat} {entries' : List (Value × Value)}

/-- `entries` at a key that is new: it is read together with its value. -/
theorem entries_of_key {p q r : Progress} {k v : Value}
    (hend : o.events[p.place]? ≠ some .mappingEnd) (hkey : node p = some (k, q))
    (hnew : entries'.any (fun e => e.1.same k) = false) (hvalue : node q = some (v, r)) :
    entries o node (fuel + 1) entries' p = entries o node fuel ((k, v) :: entries') r := by
  rw [entries]
  split
  · next h => exact absurd h hend
  · rw [hkey]
    dsimp only
    rw [hnew, hvalue]
    rfl

/-- `entries` at `.mappingEnd`: the mapping has what was read, in order. -/
theorem entries_of_end {p : Progress} (hevent : o.events[p.place]? = some .mappingEnd) :
    entries o node (fuel + 1) entries' p
      = some (entries'.reverse, { p with place := p.place + 1 }) := by
  rw [entries, hevent]

end Yaml.Node

namespace MountAll

open CommandLine (Command)

section

variable {env : Surroundings} {disk disk' : Disk} {request : MountRequest}
  {parent child : MountOptions} {container : String}

/-- A container with a plain name whose configuration file was written and is read back, and an
account whose section on the file cache has no tag. -/
structure Prepared (env : Surroundings) (parent : MountOptions) (container : String)
    (disk : Disk) : Prop where
  plain : Path.Plain container
  trimmed : Text.Trimmed container.toList
  cache : Container.PlainCache parent.config.document
  written : disk.readText (Path.expand env (configPath parent container))
    = .ok (configText parent container)
  readsBack : Value.ofText? (configText parent container)
    = some (Container.document parent.config.document container parent.config.cache.path)

/-- That the settings of a mount have arrived at the mount of a container. -/
structure HandedOn (parent : MountOptions) (container : String) (child : MountOptions) : Prop where
  mountPath : child.mountPath = Path.join parent.mountPath container
  cachePath : child.config.cache.path = Path.join parent.config.cache.path container
  foreground : child.foreground = false
  fuseOptions : child.fuseOptions = parent.fuseOptions
  nonempty : child.nonempty = parent.nonempty
  workDir : child.workDir = parent.workDir

/-- When the settings of a mount can arrive: nothing but the document of the account decides on the
working directory, its time to wait can be read, neither path is a bare drive letter, and no entry
that is set stands under a tag. -/
structure Transferable (env : Surroundings) (parent : MountOptions) : Prop where
  workDir : parent.workDir
    = Path.expand env (parent.config.workDir.getD MountOptions.defaultWorkDir)
  wait : ∃ wait, parent.config.waitForMount = .ok wait
  mountPath : Path.isAbsolute parent.mountPath = true
  cachePath : Path.isAbsolute parent.config.cache.path = true
  rewritable : Container.Rewritable parent.config.document

/-! ## The arguments -/

/-- The request that the arguments of a container are made from. -/
def asked (parent : MountOptions) (container : String) : MountRequest :=
  Command.containerRequest (Path.join parent.mountPath container) (configPath parent container)
    parent.fuseOptions

/-- **The arguments** are read as the request that they were made from: `.mount (asked parent
container)`. -/
theorem ofWords_arguments (hrooted : Path.Rooted parent.mountPath) (h : Path.Plain container) :
    Command.ofWords (arguments parent container (Path.join parent.mountPath container))
      = .ok (.mount (asked parent container), false) := by
  have hdash : (Path.join parent.mountPath container).toList.head? ≠ some '-' := by
    obtain ⟨c, hhead, hc⟩ := Path.head?_join hrooted h
    rw [hhead]
    rintro he
    obtain rfl := Option.some.inj he
    exact absurd hc (by decide)
  exact Command.ofWords_mount (Path.slash_mem_join hrooted h) hdash

/-! ## The configuration file -/

/-- `config_{container}.yaml` can be the name of a file, and ends in no blank. -/
theorem plain_configName (h : Path.Plain container) :
    Path.Plain s!"config_{container}.yaml" ∧
      ∀ c ∈ (s!"config_{container}.yaml").toList.getLast?, Text.isBlank c = false := by
  have hchars : (s!"config_{container}.yaml").toList
      = "config_".toList ++ container.toList ++ ".yaml".toList := by
    simp [String.toList_append, toString]
  have hlast : (s!"config_{container}.yaml").toList.getLast? = some 'l' := by
    rw [hchars, List.getLast?_append]
    rfl
  have hslash : '/' ∉ (s!"config_{container}.yaml").toList := by
    rw [hchars, List.mem_append, List.mem_append, not_or, not_or]
    exact ⟨⟨by decide, h.no_slash⟩, by decide⟩
  refine ⟨Path.plain_of_getLast? hlast (by decide) hslash, fun c hc => ?_⟩
  obtain rfl : 'l' = c := Option.some.inj (hlast.symm.trans hc)
  decide

/-- **The file that is written for a container** is the one that its mount reads, when the working
directory is absolute: the child expands `configPath parent container`. -/
theorem readText_of_written (hworkDir : Path.isAbsolute parent.workDir = true)
    (h : Path.Plain container)
    (hwritten : disk.writeText (configPath parent container) (configText parent container)
      = .ok disk') :
    disk'.readText (Path.expand env (configPath parent container))
      = .ok (configText parent container) := by
  obtain ⟨hplain, hlast⟩ := plain_configName h
  rw [configPath, Path.expand_join_of_absolute hworkDir hplain hlast]
  exact Disk.readText_of_find (Disk.changedIn_writeText hplain hwritten).2

/-- What is `loaded` of the file for a container: `configurationFor` it, when the document of the
account is `Rewritable`. -/
theorem loaded_iff (hparent : parent.Coherent env) (h : Prepared env parent container disk')
    {read : Configuration} :
    MountOptions.loaded disk' (some (Path.expand env (configPath parent container))) = .ok read ↔
      Container.Rewritable parent.config.document ∧
        read = Container.configurationFor parent.config container parent.config.cache.path := by
  obtain ⟨c, hc, hconfig⟩ := hparent.config
  have hmapping : (Container.document parent.config.document container
      parent.config.cache.path).isNull = false := by
    obtain ⟨entries, hentries, -⟩ := Container.untagged_document parent.config.document container
      parent.config.cache.path
    rw [Value.isNull, hentries]
  -- the parent's configuration differs from the file's in its cache directory only, and that is not
  -- copied
  have hfor : Container.configurationFor parent.config container parent.config.cache.path
      = Container.configurationFor c container parent.config.cache.path := by
    simp only [hconfig, Container.configurationFor, MountOptions.withCacheDir]
  have hdocument : parent.config.document = c.document := by
    rw [hconfig, MountOptions.document_withCacheDir]
  have hread : Configuration.ofValue?
        (Container.document c.document container parent.config.cache.path) = some read ↔
      Container.Rewritable c.document ∧
        read = Container.configurationFor c container parent.config.cache.path :=
    Container.ofValue?_document hc (hdocument ▸ h.cache)
  rw [hfor, hdocument, ← hread, MountOptions.loaded, Configuration.load, h.written]
  dsimp only
  rw [Configuration.parse, h.readsBack]
  dsimp only
  rw [hmapping, hdocument]
  cases Configuration.ofValue? (Container.document c.document container parent.config.cache.path)
    <;> simp

/-! ## The mount of a container -/

/-- What the mount of a container is resolved to. -/
def resolved (env : Surroundings) (parent : MountOptions) (container : String)
    (wait : Option Duration) : MountOptions :=
  MountOptions.merged env (asked parent container)
    (some (Path.expand env (configPath parent container)))
    (Container.configurationFor parent.config container parent.config.cache.path)
    parent.fuseOptions (wait.getD MountOptions.defaultWait)

/-- The mount path of a coherent parent is rooted, because the current directory is. -/
theorem rooted_mountPath (henv : Path.isAbsolute env.currentDir = true)
    (hparent : parent.Coherent env) : Path.Rooted parent.mountPath := by
  obtain ⟨typed, htyped⟩ := hparent.mountPath
  rw [htyped]
  exact Path.rooted_expand henv typed

/-- The cache path of a coherent parent is rooted, because the current directory is. -/
theorem rooted_cachePath (henv : Path.isAbsolute env.currentDir = true)
    (hparent : parent.Coherent env) : Path.Rooted parent.config.cache.path := by
  obtain ⟨typed, htyped⟩ := hparent.cachePath
  rw [htyped]
  exact Path.rooted_expand henv typed

/-- **What the request is resolved to**: `asked parent container` is `resolved env parent container
wait`, when its document can be read and so can the time to wait. -/
theorem resolve_asked_iff (henv : Path.isAbsolute env.currentDir = true)
    (hparent : parent.Coherent env) (h : Prepared env parent container disk') :
    MountOptions.resolve env disk' (asked parent container) = .ok child ↔
      Container.Rewritable parent.config.document ∧
        ∃ wait, parent.config.waitForMount = .ok wait ∧
          child = resolved env parent container wait := by
  have hblank : Text.isBlankText (Path.join parent.mountPath container) = false := by
    have hslash := Path.slash_mem_join (rooted_mountPath henv hparent) h.plain
    exact List.all_eq_false.2 ⟨'/', hslash, by decide⟩
  -- the file is named on the command line and was written before, so no other place is looked at
  have hfound : MountOptions.findConfig env disk' (asked parent container)
      = .ok (some (Path.expand env (configPath parent container))) :=
    MountOptions.findConfig_of_isFile rfl (Disk.isFile_of_readText h.written)
  have hoptions : FuseOption.readAll (asked parent container).fuseOptions
      = .ok parent.fuseOptions := FuseOption.readAll_display parent.fuseOptions
  rw [MountOptions.resolve_eq_ok_iff]
  constructor
  · rintro ⟨-, path, c, fuseOptions, wait, hpath, hloaded, hread, hwait, rfl⟩
    obtain rfl := Except.ok.inj (hfound.symm.trans hpath)
    obtain rfl := Except.ok.inj (hoptions.symm.trans hread)
    obtain ⟨hrewritable, rfl⟩ := (loaded_iff hparent h).1 hloaded
    rw [MountOptions.waiting_of_none rfl] at hwait
    obtain ⟨found, hfound, rfl⟩ := exceptMap_eq_ok_iff.1 hwait
    exact ⟨hrewritable, found, hfound, rfl⟩
  · rintro ⟨hrewritable, wait, hwait, rfl⟩
    refine ⟨hblank, _, _, _, _, hfound, (loaded_iff hparent h).2 ⟨hrewritable, rfl⟩, hoptions,
      ?_, rfl⟩
    rw [MountOptions.waiting_of_none rfl]
    exact exceptMap_eq_ok_iff.2 ⟨wait, hwait, rfl⟩

/-- `(resolved …).mountPath` is the path of the container below that of the parent, expanded. -/
theorem resolved_mountPath (wait : Option Duration) :
    (resolved env parent container wait).mountPath
      = Path.expand env (Path.join parent.mountPath container) := rfl

/-- The cache directory of a container is that of the account with the container below it, expanded.
-/
theorem resolved_cachePath (h : Path.Plain container) (wait : Option Duration) :
    (resolved env parent container wait).config.cache.path
      = Path.expand env (Path.join parent.config.cache.path container) :=
  MountOptions.cachePath_withCacheDir (Path.join_ne_empty h)

/-- Which settings have arrived, `HandedOn`, depends on the working directory and on drive letters
only. -/
theorem handedOn_resolved_iff (henv : Path.isAbsolute env.currentDir = true)
    (hparent : parent.Coherent env) (h : Path.Plain container)
    (htrimmed : Text.Trimmed container.toList) (wait : Option Duration) :
    HandedOn parent container (resolved env parent container wait) ↔
      parent.workDir = Path.expand env (parent.config.workDir.getD MountOptions.defaultWorkDir) ∧
        Path.isAbsolute parent.mountPath = true ∧
        Path.isAbsolute parent.config.cache.path = true := by
  have hlast : ∀ c ∈ container.toList.getLast?, Text.isBlank c = false := fun c hc =>
    Text.isBlank_of_getLast?_trim (htrimmed.symm ▸ hc)
  -- a path below the parent's comes out of the child's reading unchanged only if it was absolute
  have hmount := Path.expand_join_eq_iff henv (rooted_mountPath henv hparent) h hlast
  have hcache := Path.expand_join_eq_iff henv (rooted_cachePath henv hparent) h hlast
  constructor
  · intro handed
    refine ⟨handed.workDir.symm, hmount.1 ?_, hcache.1 ?_⟩
    · rw [← resolved_mountPath wait, handed.mountPath]
    · rw [← resolved_cachePath h wait, handed.cachePath]
  · rintro ⟨hworkDir, hmountPath, hcachePath⟩
    exact {
      mountPath := by rw [resolved_mountPath, hmount.2 hmountPath]
      cachePath := by rw [resolved_cachePath h wait, hcache.2 hcachePath]
      foreground := rfl
      fuseOptions := by simp only [resolved, MountOptions.merged]
      nonempty := hparent.nonempty.symm
      workDir := hworkDir.symm }

/-! ## What arrives -/

/-- **What is handed on to the mount of a container.** The arguments of a container are a mount that
is resolved with the paths of the container, in the background, and with the options and the working
directory of the account, exactly when the account is `Transferable`: the working directory is the
one that its document gives, the time to wait can be read, neither path is a bare drive letter, and
no entry that is set stands under a tag. -/
theorem handsOn_iff (henv : Path.isAbsolute env.currentDir = true)
    (hresolve : MountOptions.resolve env disk request = .ok parent)
    (h : Prepared env parent container disk') :
    (∃ asked child,
      Command.ofWords (arguments parent container (Path.join parent.mountPath container))
          = .ok (.mount asked, false) ∧
        MountOptions.resolve env disk' asked = .ok child ∧ HandedOn parent container child) ↔
      Transferable env parent := by
  have hparent := MountOptions.coherent_of_resolve hresolve
  have hwords := ofWords_arguments (rooted_mountPath henv hparent) h.plain
  constructor
  · rintro ⟨request, child, hread, hchild, handed⟩
    -- the words are read in one way, so the child's request is the one that was spelled
    obtain rfl : asked parent container = request := by
      simpa using hwords.symm.trans hread
    obtain ⟨hrewritable, wait, hwait, rfl⟩ := (resolve_asked_iff henv hparent h).1 hchild
    obtain ⟨hworkDir, hmountPath, hcachePath⟩ :=
      (handedOn_resolved_iff henv hparent h.plain h.trimmed wait).1 handed
    exact ⟨hworkDir, ⟨wait, hwait⟩, hmountPath, hcachePath, hrewritable⟩
  · rintro ⟨hworkDir, ⟨wait, hwait⟩, hmountPath, hcachePath, hrewritable⟩
    exact ⟨asked parent container, resolved env parent container wait, hwords,
      (resolve_asked_iff henv hparent h).2 ⟨hrewritable, wait, hwait, rfl⟩,
      (handedOn_resolved_iff henv hparent h.plain h.trimmed wait).2
        ⟨hworkDir, hmountPath, hcachePath⟩⟩

end

/-! ### An account without a configuration file -/

namespace Unconfigured

/-- Where the account is mounted from. -/
def env : Surroundings := ⟨"/home/u", "/"⟩

/-- The account, mounted with or without a working directory of its own. -/
def request (workDir : Option String) : MountRequest where
  mountPath := "/mnt"
  workDir := workDir

/-- What the mount of the account is resolved to. -/
def options (workDir : Option String) : MountOptions :=
  MountOptions.merged env (request workDir) none {} [] MountOptions.defaultWait

/-- The configuration file of the container. -/
def text : String :=
  "file_cache:\n  path: /home/u/.cloudfuse/file_cache/c\nforeground: false\n"

/-- What the configuration file of the container says. -/
def document : Value :=
  .mapping [
    (.string "file_cache", .mapping [(.string "path", .string "/home/u/.cloudfuse/file_cache/c")]),
    (.string "foreground", .bool false)]

/-- The structure of the configuration file. -/
def outline : Yaml.Outline where
  events := #[.mappingStart {}, .scalar {} "file_cache" true, .mappingStart {},
    .scalar {} "path" true, .scalar {} "/home/u/.cloudfuse/file_cache/c" true, .mappingEnd,
    .scalar {} "foreground" true, .scalar {} "false" true, .mappingEnd]
  targets := []

/-- A disk with both working directories. -/
def disk : Disk where
  nodes := [(["home"], .directory), (["home", "u"], .directory),
    (["home", "u", ".cloudfuse"], .directory), (["w"], .directory)]

variable (workDir : Option String)

/-- The request resolves to `options workDir`: the parent of the example exists. -/
theorem resolve_request : MountOptions.resolve env {} (request workDir) = .ok (options workDir) := by
  have hfound : MountOptions.findConfig env {} (request workDir) = .ok none := by
    show Except.ok (if Disk.isFile {} (Path.expand env MountOptions.defaultConfigFile) then _
      else none) = _
    rw [if_neg (by decide +kernel)]
  have htyped : Text.isBlankText "/mnt" = false := by decide
  exact MountOptions.resolve_eq_ok_iff.2 ⟨htyped, none, {}, [], _, hfound, rfl, rfl, rfl, rfl⟩

/-- The cache of `options workDir` is in its default place. -/
theorem cachePath_options : (options workDir).config.cache.path = "/home/u/.cloudfuse/file_cache" := by
  show (options none).config.cache.path = _
  decide +kernel

/-- The document written for container `c` is `document`. -/
theorem document_options :
    Container.document (options workDir).config.document "c" (options workDir).config.cache.path
      = document := by
  have hpath : Path.join "/home/u/.cloudfuse/file_cache" "c" = "/home/u/.cloudfuse/file_cache/c" := by
    decide +kernel
  rw [cachePath_options]
  show Container.document .null _ _ = _
  simp [Container.document, Container.setIn, Container.onEntries, Container.withSection,
    Container.modifyEntry, Container.withEntry, Container.withName, Container.uses,
    Value.isMapping, Value.untagged, Value.find?, Value.insertEntry, Value.get?, Value.isKey,
    document, hpath]

/-- The text written for container `c` is `text`. -/
theorem configText_options : configText (options workDir) "c" = text := by
  rw [configText, document_options]
  decide +kernel

/-- The structure of the configuration file is read as `document`. -/
theorem value?_outline :
    Yaml.Node.value? outline Yaml.Node.depthLimit ⟨0, 0⟩ = some (document, ⟨9, 0⟩) := by
  have hcache : Yaml.Node.value? outline 127 ⟨1, 0⟩ = some (.string "file_cache", ⟨2, 0⟩) := rfl
  have hpath : Yaml.Node.value? outline 127 ⟨2, 0⟩
      = some (.mapping [(.string "path", .string "/home/u/.cloudfuse/file_cache/c")], ⟨6, 0⟩) := rfl
  have hforeground : Yaml.Node.value? outline 127 ⟨6, 0⟩
      = some (.string "foreground", ⟨7, 0⟩) := rfl
  have hfalse : Yaml.Node.value? outline 127 ⟨7, 0⟩ = some (.bool false, ⟨8, 0⟩) := rfl
  show Option.map _ (Yaml.Node.entries outline (Yaml.Node.value? outline 127) 10 [] ⟨1, 0⟩) = _
  rw [Yaml.Node.entries_of_key (by decide) hcache rfl hpath,
    Yaml.Node.entries_of_key (by decide) hforeground (by simp [Value.same]) hfalse,
    Yaml.Node.entries_of_end rfl]
  rfl

/-- `text` is read back as `document`. -/
theorem ofText?_text : Value.ofText? text = some document := by
  have hevents : (Yaml.Token.ofChars? text.toList).bind Yaml.Event.ofTokens?
      = some outline.events.toList := by decide +kernel
  have houtline : Yaml.Outline.ofEvents? outline.events.toList = some outline := rfl
  rw [Value.ofText?, hevents]
  show ((Yaml.Outline.ofEvents? outline.events.toList).bind fun o => _) = _
  rw [houtline, Option.bind_some, value?_outline]
  rfl

/-- The container `c` is `Prepared` when its configuration file was written. -/
theorem prepared {d : Disk} (hworkDir : Path.isAbsolute (options workDir).workDir = true)
    (h : disk.writeText (configPath (options workDir) "c") (configText (options workDir) "c")
      = .ok d) : Prepared env (options workDir) "c" d := by
  have hplain : Path.Plain "c" := ⟨by decide, by decide, by decide, by decide⟩
  have hnone : Value.find? "file_cache"
      (Container.entriesOf (options workDir).config.document) = none := rfl
  exact {
    plain := hplain
    trimmed := by decide
    cache := fun v hv => absurd (hnone.symm.trans hv) (by simp)
    written := readText_of_written hworkDir hplain h
    readsBack := by rw [configText_options, document_options, ofText?_text] }

/-- The configuration file can be written at a free place: `writeText` makes a file of `text`. -/
theorem writeText_eq_ok (place : Place)
    (hplace : disk.resolve (configPath (options workDir) "c") = .ok place)
    (hparent : disk.checkParent place = .ok ()) (hnode : disk.nodeAt place = none)
    (hfile : Path.wantsDirectory (configPath (options workDir) "c") = false) :
    disk.writeText (configPath (options workDir) "c") (configText (options workDir) "c")
      = .ok (disk.setNode place (.file text.toUTF8)) := by
  rw [Disk.writeText, Disk.writeFile, hplace, configText_options]
  simp only [bind, Except.bind, hparent, hnode, hfile]
  rfl

/-- `options none` is `Transferable`: without a working directory of its own, the parent hands
everything on. -/
theorem transferable_default : Transferable env (options none) where
  workDir := rfl
  wait := ⟨none, rfl⟩
  mountPath := by decide +kernel
  cachePath := by decide +kernel
  rewritable := ⟨rfl, rfl, rfl⟩

/-- With the default working directory, all settings are `HandedOn`. -/
theorem handsOn_default :
    Path.isAbsolute env.currentDir = true ∧
      MountOptions.resolve env {} (request none) = .ok (options none) ∧
      ∃ d, disk.writeText (configPath (options none) "c") (configText (options none) "c") = .ok d ∧
        Prepared env (options none) "c" d ∧
        ∃ asked child,
          Command.ofWords (arguments (options none) "c" (Path.join (options none).mountPath "c"))
              = .ok (.mount asked, false) ∧
            MountOptions.resolve env d asked = .ok child ∧ HandedOn (options none) "c" child := by
  have hwritten := writeText_eq_ok none ["home", "u", ".cloudfuse", "config_c.yaml"]
    (by decide +kernel) rfl rfl (by decide +kernel)
  have hprepared := prepared none (by decide +kernel) hwritten
  exact ⟨by decide, resolve_request none, _, hwritten, hprepared,
    (handsOn_iff (by decide) (resolve_request none) hprepared).2 transferable_default⟩

/-- A working directory that was asked for stays behind: the mount of the container, whose
configuration file is in `/w`, has its records in the home directory. -/
theorem not_handsOn_chosen :
    MountOptions.resolve env {} (request (some "/w")) = .ok (options (some "/w")) ∧
      (options (some "/w")).workDir = "/w" ∧
      ∃ d, disk.writeText (configPath (options (some "/w")) "c")
          (configText (options (some "/w")) "c") = .ok d ∧
        Prepared env (options (some "/w")) "c" d ∧
        ∃ asked child,
          Command.ofWords
              (arguments (options (some "/w")) "c" (Path.join (options (some "/w")).mountPath "c"))
              = .ok (.mount asked, false) ∧
            MountOptions.resolve env d asked = .ok child ∧
            child.workDir = "/home/u/.cloudfuse" ∧ ¬HandedOn (options (some "/w")) "c" child := by
  have hwritten := writeText_eq_ok (some "/w") ["w", "config_c.yaml"] (by decide +kernel) rfl rfl
    (by decide +kernel)
  have hprepared := prepared (some "/w") (by decide +kernel) hwritten
  have henv : Path.isAbsolute env.currentDir = true := by decide
  have hparent := MountOptions.coherent_of_resolve (resolve_request (some "/w"))
  have hasked : (options (some "/w")).workDir = "/w" := by decide +kernel
  have hchild : (resolved env (options (some "/w")) "c" none).workDir = "/home/u/.cloudfuse" := by
    decide +kernel
  refine ⟨resolve_request (some "/w"), hasked, _, hwritten, hprepared, _, _,
    ofWords_arguments (rooted_mountPath henv hparent) hprepared.plain,
    (resolve_asked_iff henv hparent hprepared).2 ⟨⟨rfl, rfl, rfl⟩, none, rfl, rfl⟩, hchild,
    fun handed => ?_⟩
  have hsame := handed.workDir
  rw [hchild, hasked] at hsame
  exact absurd hsame (by decide)

end Unconfigured

end MountAll

end MountKeeper
