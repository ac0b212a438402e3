import MountKeeper.Log
import MountKeeper.Proofs.Act
import MountKeeper.Proofs.Configuration.Document

/-! # The log behind a history of reloads

A log starts with options of its own and then follows configuration files, each of which may be
missing, malformed, without a level that is known, or in order. The options in force and the level
change together or not at all.

* `LogOptions.SaidIn` is what a document says about the log, with defaults for what it leaves out.
* `Log.Reload` is an attempt to follow a file, `Reload.pair?` what it sets when it succeeds;
  `Reload.runOn_act` is one attempt, `Log.pair_behind` by induction a history of them.
* `Log.Governed`: the options and the level are always those of the last attempt that succeeded.
  `Log.governed_of_start` has it for every log that was started. -/

namespace MountKeeper

open Yaml (Value)

/-! ## What a document says about the log -/

namespace Section

variable {known : List String} {name : String} {v : Value} {fields : Fields} {α : Type}

/-- The value of the first entry with a name in a mapping, tags aside. -/
def valueOf? (name : String) (v : Value) : Option Value :=
  entryIn? name (Container.entriesOf v)

/-- `read? fields name` is what the entry of `name` says, or the default where there is none. -/
theorem read?_eq (hname : name ∈ known) (h : fields? known v = some fields)
    (read : Value → Option α) (default : α) :
    read? fields name read default = (valueOf? name v).elim (some default) read := by
  rw [read?, find?_gather? hname (Container.gather?_entriesOf h), valueOf?]
  cases entryIn? name (Container.entriesOf v) <;> rfl

/-- A null value has no entries. -/
theorem valueOf?_of_isNull (h : v.isNull = true) (name : String) : valueOf? name v = none := by
  unfold Value.isNull at h
  rw [valueOf?, Container.entriesOf]
  split at h
  · next hv => simp [hv, entryIn?]
  · cases h

end Section

/-- That a section says so about the log. What it leaves out has its default. -/
structure LogOptions.SaidIn (section_ : Value) (o : LogOptions) : Prop where
  kind : (Section.valueOf? "type" section_).elim (some "syslog") Value.asString? = some o.kind
  level : (Section.valueOf? "level" section_).elim (some "LOG_WARNING") Value.asString?
    = some o.level
  filePath : (Section.valueOf? "file-path" section_).elim (some "~/.cloudfuse/cloudfuse.log")
    Value.asString? = some o.filePath

namespace LogOptions

/-- A null document says nothing about the log. -/
theorem saidIn_of_isNull {v : Value} (h : v.isNull = true) : SaidIn v {} where
  kind := by rw [Section.valueOf?_of_isNull h]; rfl
  level := by rw [Section.valueOf?_of_isNull h]; rfl
  filePath := by rw [Section.valueOf?_of_isNull h]; rfl

/-- The options that `Section.logging?` reads of a section are what it says: `SaidIn`. -/
theorem saidIn_of_logging? {v : Value} {o : LogOptions} (h : Section.logging? v = some o) :
    SaidIn v o := by
  simp only [Section.logging?, Option.bind_eq_bind, Option.bind_eq_some_iff, Option.pure_def,
    Option.some.injEq] at h
  obtain ⟨fields, hfields, kind, hkind, level, hlevel, filePath, hpath, rfl⟩ := h
  rw [Section.read?_eq (by decide) hfields] at hkind hlevel hpath
  exact ⟨hkind, hlevel, hpath⟩

end LogOptions

/-- The section on logging of a document, null when it has none. -/
def Yaml.Value.loggingSection (document : Value) : Value :=
  (Section.valueOf? "logging" document).getD .null

/-- **The options of a configuration** are what the section on logging of its document says: `SaidIn
document.loggingSection`. -/
theorem Configuration.saidIn_of_parse {text : String} {c : Configuration}
    (h : Configuration.parse text = .ok c) :
    ∃ document, Value.ofText? text = some document ∧
      LogOptions.SaidIn document.loggingSection c.logging := by
  unfold Configuration.parse at h
  split at h
  · cases h
  · next v hv =>
    refine ⟨v, hv, ?_⟩
    split at h
    · next hnull =>
      -- an empty text is read as the defaults
      obtain rfl := Except.ok.inj h
      rw [Value.loggingSection, Section.valueOf?_of_isNull hnull]
      exact LogOptions.saidIn_of_isNull rfl
    · split at h
      · next c' hc =>
        obtain rfl := Except.ok.inj h
        obtain ⟨fields, hfields, hreads, -⟩ := ofValue?_eq_some_iff.1 hc
        have hlogging := hreads.logging
        rw [Section.read?_eq (by decide) hfields] at hlogging
        rw [Value.loggingSection]
        cases hentry : Section.valueOf? "logging" v with
        | none =>
          rw [hentry] at hlogging
          rw [← Option.some.inj hlogging]
          exact LogOptions.saidIn_of_isNull rfl
        | some s =>
          rw [hentry] at hlogging
          exact LogOptions.saidIn_of_logging? hlogging
      · cases h

/-! ## Levels -/

/-- `most` is at least the second of its levels. -/
theorem LogLevel.rank_le_most (a b : LogLevel) : b.rank ≤ (a.most b).rank := by
  unfold LogLevel.most
  split <;> omega

namespace Log

/-- `effective options level verbose = .off` for `kind = "silent"`. -/
theorem effective_of_silent {options : LogOptions} (h : options.kind = "silent") (level : LogLevel)
    (verbose : Bool) : effective options level verbose = .off := by
  have hsilent : isSilent options = true := beq_iff_eq.2 h
  rw [effective, if_pos hsilent]

/-- With `verbose`, debugging is logged at least, unless `kind = "silent"`. -/
theorem debug_le_effective {options : LogOptions} {verbose : Bool} (hdetailed : verbose = true)
    (h : options.kind ≠ "silent") (level : LogLevel) :
    LogLevel.debug.rank ≤ (effective options level verbose).rank := by
  have hloud : ¬ isSilent options = true := fun hs => h (beq_iff_eq.1 hs)
  rw [effective, if_neg hloud, if_pos hdetailed]
  exact LogLevel.rank_le_most _ _

/-! ## Reloads -/

/-- An attempt to follow a configuration file, with the disk as it was then. -/
structure Reload where
  disk : Disk
  path : String

namespace Reload

/-- The attempt. -/
def act (r : Reload) : Act Log LogLevel :=
  reload r.disk r.path

/-- The options and the level that an attempt sets, if it succeeds: its file can be read, and the
level that this names is known. -/
def pair? (verbose : Bool) (r : Reload) : Option (LogOptions × LogLevel) :=
  match Configuration.load r.disk r.path with
  | .error _ => none
  | .ok c =>
    match LogLevel.parse c.logging.level with
    | .error _ => none
    | .ok named => some (c.logging, effective c.logging named verbose)

variable {verbose : Bool} {r : Reload} {log : Log}

/-- `r.pair? = none`: an attempt that sets nothing fails, and leaves the log as it is. -/
theorem runOn_act_of_none (h : r.pair? log.verbose = none) :
    ∃ f, r.act.runOn log = (.error f, log) := by
  show ∃ f, reload r.disk r.path log = (.error f, log)
  unfold pair? at h
  unfold reload reloaded follow
  cases hload : Configuration.load r.disk r.path with
  | error f => exact ⟨f, rfl⟩
  | ok c =>
    simp only [hload] at h
    cases hparse : LogLevel.parse c.logging.level with
    | error e => exact ⟨.ofSession e, by simp only [hparse]; rfl⟩
    | ok named =>
      simp only [hparse] at h
      cases h

/-- `r.pair? = some (o, level)`: the attempt succeeds, sets both and answers with the level. -/
theorem runOn_act_of_some {o : LogOptions} {level : LogLevel}
    (h : r.pair? log.verbose = some (o, level)) :
    r.act.runOn log = (.ok level, { log with options := o, level := level }) := by
  show reload r.disk r.path log = _
  unfold pair? at h
  unfold reload reloaded follow
  -- where the text cannot be read or names no level there is no pair, which `h` excludes
  cases hload : Configuration.load r.disk r.path with
  | error f =>
    simp only [hload] at h
    cases h
  | ok c =>
    simp only [hload] at h
    cases hparse : LogLevel.parse c.logging.level with
    | error e =>
      simp only [hparse] at h
      cases h
    | ok named =>
      simp only [hparse, Option.some.injEq, Prod.mk.injEq] at h
      obtain ⟨rfl, rfl⟩ := h
      simp only [hparse]
      rfl

/-- **What an attempt sets**, `r.pair?`, is what its file says, with the level that is named there.
-/
theorem said_of_pair? {o : LogOptions} {level : LogLevel} (h : r.pair? verbose = some (o, level)) :
    (∃ text document, r.disk.readText r.path = .ok text ∧ Value.ofText? text = some document ∧
      o.SaidIn document.loggingSection) ∧
    ∃ named, LogLevel.parse o.level = .ok named ∧ level = effective o named verbose := by
  unfold pair? at h
  split at h
  · cases h
  · next c hload =>
    split at h
    · cases h
    · next named hparse =>
      obtain ⟨rfl, rfl⟩ := Prod.mk.inj (Option.some.inj h)
      refine ⟨?_, named, hparse, rfl⟩
      unfold Configuration.load at hload
      split at hload
      · cases hload
      · next text htext =>
        split at hload
        · cases hload
        · next c' hread =>
          obtain rfl := Except.ok.inj hload
          obtain ⟨document, hdocument, hsaid⟩ := Configuration.saidIn_of_parse hread
          exact ⟨text, document, htext, hdocument, hsaid⟩

end Reload

/-! ## Histories -/

/-- The log behind a history of attempts. -/
def behind (history : List Reload) (log : Log) : Log :=
  history.foldl (fun log r => (r.act.runOn log).2) log

/-- The options in force and the level. -/
def pair (log : Log) : LogOptions × LogLevel :=
  (log.options, log.level)

/-- `behind (r :: history) log`: the first reload, and then the others. -/
theorem behind_cons (r : Reload) (history : List Reload) (log : Log) :
    behind (r :: history) log = behind history (r.act.runOn log).2 := rfl

/-- **One attempt** changes the options and the level together, to `r.pair?`, or neither. -/
theorem step (r : Reload) (log : Log) :
    (r.act.runOn log).2.verbose = log.verbose ∧
      (r.act.runOn log).2.pair = (r.pair? log.verbose).getD log.pair := by
  cases h : r.pair? log.verbose with
  | none =>
    obtain ⟨f, hrun⟩ := Reload.runOn_act_of_none h
    rw [hrun]
    exact ⟨rfl, rfl⟩
  | some p =>
    rw [Reload.runOn_act_of_some h]
    exact ⟨rfl, rfl⟩

/-- **A history of attempts** leaves what the last one that succeeded has set. Induction on the
history, with `Reload.step` at each attempt. -/
theorem pair_behind (history : List Reload) (log : Log) :
    (behind history log).verbose = log.verbose ∧
      (behind history log).pair
        = (history.filterMap (Reload.pair? log.verbose)).getLast?.getD log.pair := by
  -- by induction on the history: what the first attempt leaves is what counts for the others when
  -- none of them succeeds
  induction history generalizing log with
  | nil => exact ⟨rfl, rfl⟩
  | cons r rest ih =>
    obtain ⟨hverbose, hpair⟩ := step r log
    obtain ⟨hverbose', hpair'⟩ := ih (r.act.runOn log).2
    rw [behind_cons]
    refine ⟨hverbose'.trans hverbose, hpair'.trans ?_⟩
    rw [hverbose, hpair]
    cases h : r.pair? log.verbose with
    | none =>
      rw [List.filterMap_cons_none h]
      rfl
    | some p =>
      rw [List.filterMap_cons_some h, List.getLast?_cons]
      rfl

/-- The level is the one that the options in force lead to. -/
def Settled (log : Log) : Prop :=
  log.level = effective log.options (namedLevel log.options) log.verbose

/-- A log is settled when it is made. -/
theorem settled_ofOptions (options : LogOptions) (verbose : Bool) :
    (ofOptions options verbose).Settled := rfl

/-- Options and level are `Settled` behind an attempt. A name that is not known, for which a start
has warnings, is none that an attempt sets. -/
theorem settled_act {log : Log} (h : log.Settled) (r : Reload) : (r.act.runOn log).2.Settled := by
  cases hpair : r.pair? log.verbose with
  | none =>
    obtain ⟨f, hrun⟩ := Reload.runOn_act_of_none hpair
    rw [hrun]
    exact h
  | some p =>
    obtain ⟨o, level⟩ := p
    -- the level that the options name is known, so that nothing has to stand for it
    obtain ⟨-, named, hnamed, hlevel⟩ := Reload.said_of_pair? hpair
    rw [Reload.runOn_act_of_some hpair]
    show level = effective o (namedLevel o) log.verbose
    rw [hlevel, namedLevel, hnamed]

/-- A log stays settled through any history. Induction on the history, with `settled_act` at each
step. -/
theorem settled_behind {log : Log} (h : log.Settled) (history : List Reload) :
    (behind history log).Settled := by
  induction history generalizing log with
  | nil => exact h
  | cons r rest ih => exact ih (settled_act h r)

/-! ## Logs that were started -/

/-- A log that was started with options, with or without a wish for detail, is governed by the
attempts to follow files, whatever these files are. -/
structure Governed (options : LogOptions) (verbose : Bool) (log : Log) : Prop where
  /-- The options and the level are those of the last attempt that succeeded, or of the start. -/
  last : ∀ history, (behind history log).pair
    = (history.filterMap (Reload.pair? verbose)).getLast?.getD
        (options, effective options (namedLevel options) verbose)
  /-- An attempt that sets nothing fails, and leaves the log as it is. -/
  refuses : ∀ history (r : Reload), r.pair? verbose = none →
    ∃ f, r.act.runOn (behind history log) = (.error f, behind history log)
  /-- An attempt that sets something succeeds, and answers with the level that it sets. -/
  follows : ∀ history (r : Reload) o level, r.pair? verbose = some (o, level) →
    ∃ log', r.act.runOn (behind history log) = (.ok level, log') ∧ log'.pair = (o, level)
  /-- It sets what the section on logging of its file says. -/
  said : ∀ (r : Reload) o level, r.pair? verbose = some (o, level) →
    ∃ text document, r.disk.readText r.path = .ok text ∧ Value.ofText? text = some document ∧
      o.SaidIn document.loggingSection
  /-- The level is always the one that the options lead to; an unknown name stands for warnings. -/
  level : ∀ history, (behind history log).level
    = effective (behind history log).options (namedLevel (behind history log).options) verbose
  /-- Nothing is logged when silent. -/
  silent : ∀ history, (behind history log).options.kind = "silent" →
    (behind history log).level = .off
  /-- With a wish for detail, debugging is logged at least, unless silent. -/
  detailed : verbose = true → ∀ history, (behind history log).options.kind ≠ "silent" →
    LogLevel.debug.rank ≤ (behind history log).level.rank

/-- A log that was just made is governed by its own options. -/
theorem governed_ofOptions (options : LogOptions) (verbose : Bool) :
    Governed options verbose (ofOptions options verbose) := by
  have hverbose : ∀ history, (behind history (ofOptions options verbose)).verbose = verbose :=
    fun history => (pair_behind history _).1
  have hlevel : ∀ history, (behind history (ofOptions options verbose)).level
      = effective (behind history (ofOptions options verbose)).options
        (namedLevel (behind history (ofOptions options verbose)).options) verbose := by
    intro history
    -- every log that `ofOptions` begins is settled, and reloading keeps it so
    have hsettled := settled_behind (settled_ofOptions options verbose) history
    rwa [Settled, hverbose] at hsettled
  exact {
    last := fun history => (pair_behind history _).2
    refuses := fun history r h => Reload.runOn_act_of_none (by rwa [hverbose])
    follows := fun history r o level h =>
      ⟨_, Reload.runOn_act_of_some (by rwa [hverbose]), rfl⟩
    said := fun r o level h => (Reload.said_of_pair? h).1
    level := hlevel
    silent := fun history h => (hlevel history).trans (effective_of_silent h _ _)
    detailed := fun hdetailed history h => by
      rw [hlevel]
      exact debug_le_effective hdetailed h _ }

/-- A log that was started is `ofOptions options verbose`. -/
theorem eq_ofOptions_of_start {env : Surroundings} {options : LogOptions} {verbose : Bool}
    {disk disk' : Disk} {log : Log}
    (h : (start env options verbose).runOn disk = (.ok log, disk')) :
    log = ofOptions options verbose := by
  unfold start at h
  rw [Act.runOn_bind] at h
  rcases hprepare : (prepareFile env options).runOn disk with ⟨f | u, d⟩
  · rw [hprepare] at h
    cases h
  · rw [hprepare] at h
    cases h
    rfl

/-- **Every log that was started** is `Governed` by the attempts to follow files. -/
theorem governed_of_start {env : Surroundings} {options : LogOptions} {verbose : Bool}
    {disk disk' : Disk} {log : Log}
    (h : (start env options verbose).runOn disk = (.ok log, disk')) :
    Governed options verbose log := by
  rw [eq_ofOptions_of_start h]
  exact governed_ofOptions options verbose

/-- Options with a file and with a level that is not known. -/
def loud : LogOptions where
  kind := "base"
  level := "LOUD"
  filePath := "/logs/out.log"

/-- With `loud`, a log starts for warnings, or here, with a wish for detail, for debugging. -/
theorem governed_loud :
    (∃ disk, (start ⟨"/root", "/"⟩ loud true).runOn {} = (.ok ⟨loud, true, .debug⟩, disk)) ∧
      Governed loud true ⟨loud, true, .debug⟩ := by
  have hstart : (start ⟨"/root", "/"⟩ loud true).runOn {} = (.ok ⟨loud, true, .debug⟩, _) :=
    Act.runOn_of_toOption (by decide +kernel)
  exact ⟨⟨_, hstart⟩, governed_of_start hstart⟩

end Log

end MountKeeper
