import MountKeeper.Disk.Basic
import MountKeeper.Yaml.Document

/-! # Configuration

The configuration file is a YAML document. The sections that this library acts on are typed; the
whole document is kept beside them.

* `Configuration` is what a file says, with its sections `LogOptions`, `MonitorOptions`,
  `CacheOptions` and `ContainerFilter`.
* `Configuration.ofValue?` reads a document's value, `Configuration.parse` a text and
  `Configuration.load` a file.
* `Configuration.waitForMount` is the time to wait for a background mount, if the file gives one. -/

namespace MountKeeper

open Yaml (Value)

/-- The section on logging. -/
structure LogOptions where
  /-- `base` writes to a file and `silent` logs nothing; anything else logs to the error stream. -/
  kind : String := "syslog"
  /-- The name of the level. -/
  level : String := "LOG_WARNING"
  /-- The file of the `base` kind. -/
  filePath : String := "~/.cloudfuse/cloudfuse.log"
  deriving DecidableEq, Repr, Inhabited

/-- The section on the health monitor. -/
structure MonitorOptions where
  /-- Whether a monitor is started with a mount. -/
  enabled : Bool := false
  /-- The names of the checks that are switched off. -/
  disableList : List String := []
  /-- Seconds between polls of the statistics, zero for the monitor's own default. -/
  statsPollInterval : UInt32 := 0
  /-- Seconds between checks of the process, zero for the monitor's own default. -/
  processInterval : UInt32 := 0
  /-- The directory of the monitor's reports. -/
  outputPath : String := ""
  deriving DecidableEq, Repr

/-- The section on the file cache. -/
structure CacheOptions where
  /-- The directory of the cache. -/
  path : String := ""
  /-- The size limit in MiB. -/
  maxSizeMb : Binary64 := .zero false
  deriving DecidableEq, Repr

/-- The section on which storage containers are mounted together. -/
structure ContainerFilter where
  /-- When not empty, only these are mounted. -/
  allow : List String := []
  /-- These are not mounted when nothing is listed as allowed. -/
  deny : List String := []
  deriving DecidableEq, Repr

/-- The time to wait for a background mount, as it was written. -/
inductive WaitSetting where
  | seconds (n : Nat)
  | text (s : String)
  deriving DecidableEq, Repr

/-- What a configuration file says. -/
structure Configuration where
  logging : LogOptions := {}
  monitor : MonitorOptions := {}
  cache : CacheOptions := {}
  containers : ContainerFilter := {}
  /-- Whether a mount stays in the foreground. -/
  foreground : Bool := false
  /-- Whether a mount directory may hold files. -/
  nonempty : Bool := false
  /-- The working directory. -/
  workDir : Option String := none
  /-- The time to wait for a background mount. -/
  wait : Option WaitSetting := none
  /-- The whole document. -/
  document : Value := .null
  deriving Repr

/-! ## Sections -/

namespace Section

/-- The known entries of a section. -/
abbrev Fields := List (String × Value)

/-- Gathers the known entries of a mapping. Every key has to be a string, and no known one may stand
twice. -/
def gather? (known : List String) : List (Value × Value) → Option Fields
  | [] => some []
  | (k, v) :: rest =>
    match k.asString?, gather? known rest with
    | some name, some fields =>
      if known.contains name then
        if fields.any (·.1 == name) then none else some ((name, v) :: fields)
      else some fields
    | _, _ => none

/-- The known entries of a section; nothing at all is an empty section. -/
def fields? (known : List String) (v : Value) : Option Fields :=
  match v.untagged with
  | .mapping entries => gather? known entries
  | .null => some []
  | _ => none

/-- Reads an entry when it is there, and takes the default otherwise. -/
def read? {α : Type} (fields : Fields) (name : String) (read : Value → Option α) (default : α) :
    Option α :=
  match fields.find? (·.1 == name) with
  | some (_, v) => read v
  | none => some default

/-- A truth value. -/
def bool? (v : Value) : Option Bool :=
  match v.untagged with
  | .bool b => some b
  | _ => none

/-- A whole number of 32 bits without a sign. -/
def word? (v : Value) : Option UInt32 :=
  match v.untagged with
  | .int n => if 0 ≤ n ∧ n < 0x100000000 then some (UInt32.ofNat n.toNat) else none
  | _ => none

/-- A number. -/
def number? (v : Value) : Option Binary64 :=
  match v.untagged with
  | .int n => some (Binary64.ofRatio (n < 0) n.natAbs 1)
  | .float x => some x
  | _ => none

/-- A list of strings; nothing at all is an empty list. -/
def strings? (v : Value) : Option (List String) :=
  match v.untagged with
  | .sequence items => items.mapM Value.asString?
  | .null => some []
  | _ => none

/-- A string, or nothing. -/
def optionalString? (v : Value) : Option (Option String) :=
  match v with
  | .null => some none
  | v => v.asString?.map some

/-- A time to wait: a whole number of seconds or a text, or nothing. -/
def wait? : Value → Option (Option WaitSetting)
  | .null => some none
  | .int n => if 0 ≤ n then some (some (.seconds n.toNat)) else none
  | .string s => some (some (.text s))
  | _ => none

/-- The section on logging. -/
def logging? (v : Value) : Option LogOptions := do
  let fields ← fields? ["type", "level", "file-path"] v
  let standard : LogOptions := {}
  pure {
    kind := ← read? fields "type" Value.asString? standard.kind
    level := ← read? fields "level" Value.asString? standard.level
    filePath := ← read? fields "file-path" Value.asString? standard.filePath }

/-- The section on the health monitor. -/
def monitor? (v : Value) : Option MonitorOptions := do
  let fields ← fields? ["enable-monitoring", "monitor-disable-list", "stats-poll-interval-sec",
    "process-monitor-interval-sec", "output-path"] v
  pure {
    enabled := ← read? fields "enable-monitoring" bool? false
    disableList := ← read? fields "monitor-disable-list" strings? []
    statsPollInterval := ← read? fields "stats-poll-interval-sec" word? 0
    processInterval := ← read? fields "process-monitor-interval-sec" word? 0
    outputPath := ← read? fields "output-path" Value.asString? "" }

/-- The section on the file cache. -/
def cache? (v : Value) : Option CacheOptions := do
  let fields ← fields? ["path", "max-size-mb"] v
  pure {
    path := ← read? fields "path" Value.asString? ""
    maxSizeMb := ← read? fields "max-size-mb" number? (.zero false) }

/-- The section on containers. -/
def containers? (v : Value) : Option ContainerFilter := do
  let fields ← fields? ["container-allowlist", "container-denylist"] v
  pure {
    allow := ← read? fields "container-allowlist" strings? []
    deny := ← read? fields "container-denylist" strings? [] }

end Section

namespace Configuration

/-! ## Reading -/

/-- Reads the value of a document. -/
def ofValue? (v : Value) : Option Configuration := do
  let fields ← Section.fields? ["logging", "health_monitor", "file_cache", "mountall",
    "foreground", "nonempty", "default-working-dir", "wait-for-mount"] v
  pure {
    logging := ← Section.read? fields "logging" Section.logging? {}
    monitor := ← Section.read? fields "health_monitor" Section.monitor? {}
    cache := ← Section.read? fields "file_cache" Section.cache? {}
    containers := ← Section.read? fields "mountall" Section.containers? {}
    foreground := ← Section.read? fields "foreground" Section.bool? false
    nonempty := ← Section.read? fields "nonempty" Section.bool? false
    workDir := ← Section.read? fields "default-working-dir" Section.optionalString? none
    wait := ← Section.read? fields "wait-for-mount" Section.wait? none
    document := v }

/-- Stands for the reasons why a document cannot be read. -/
def unreadable : SessionError :=
  .config "<yaml>"

/-- Reads a text. A document that says nothing gives the defaults. -/
def parse (text : String) : Except SessionError Configuration :=
  match Value.ofText? text with
  | none => .error unreadable
  | some v =>
    if v.isNull then .ok {}
    else match ofValue? v with
      | some c => .ok c
      | none => .error unreadable

/-- Reads a file. -/
def load (disk : Disk) (path : String) : Except Failure Configuration :=
  match disk.readText path with
  | .error e => .error ((Failure.ofOs e).within s!"failed to read config file {path}")
  | .ok text =>
    match parse text with
    | .error e => .error ((Failure.ofSession e).within s!"failed to parse {path}")
    | .ok c => .ok c

/-- The time to wait for a background mount, if one is given. -/
def waitForMount (c : Configuration) : Except Failure (Option Duration) :=
  match c.wait with
  | none => .ok none
  | some (.seconds n) => .ok (some (.ofSeconds n))
  | some (.text s) =>
    match Duration.parse s with
    | .ok d => .ok (some d)
    | .error .outOfRange => .error ⟨[], .overflow⟩
    | .error e => .error (.ofSession (.config ("wait-for-mount: " ++ e.message)))

end Configuration

end MountKeeper
