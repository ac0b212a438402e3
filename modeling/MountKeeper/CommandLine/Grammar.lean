import MountKeeper.Text.Basic

/-! # The grammar of the command line

The first words of a command line name a command, level by level; the others are settings and a
path.

* `Setting` are the settings, with the spelling of each and what it takes.
* `Level` are the commands and the groups of commands, with the settings and the place that each
  has and the levels below it. -/

namespace MountKeeper.CommandLine

/-! ## Settings -/

/-- What is given with a setting. -/
inductive Taking where
  /-- Nothing. -/
  | nothing
  /-- A text, once. -/
  | text
  /-- Texts with commas between them, any number of times. -/
  | texts
  /-- A duration, once. -/
  | duration
  /-- A 32-bit number, once. -/
  | word
  deriving DecidableEq, Repr

/-- A setting. -/
inductive Setting where
  | help | version | verbose
  | configFile | foreground | fuseOptions | waitForMount | workDir
  | remountSystem | remountUser | remountSystemUser
  | lazily | disableRemountSystem | disableRemountUser
  | pid | statsPollInterval | processInterval | outputPath
  | mountPath | user
  deriving DecidableEq, Repr

namespace Setting

/-- The name behind two dashes. -/
def long? : Setting → Option String
  | help => some "help"
  | version => some "version"
  | verbose => some "verbose"
  | configFile => some "config-file"
  | foreground => some "foreground"
  | fuseOptions => none
  | waitForMount => some "wait-for-mount"
  | workDir => some "default-working-dir"
  | remountSystem => some "enable-remount-system"
  | remountUser => some "enable-remount-user"
  | remountSystemUser => some "remount-system-user"
  | lazily => some "lazy"
  | disableRemountSystem => some "disable-remount-system"
  | disableRemountUser => some "disable-remount-user"
  | pid => some "pid"
  | statsPollInterval => some "stats-poll-interval-sec"
  | processInterval => some "process-monitor-interval-sec"
  | outputPath => some "output-path"
  | mountPath => some "mount-path"
  | user => some "user"

/-- The letter behind a single dash. -/
def letter? : Setting → Option Char
  | help => some 'h'
  | version => some 'V'
  | verbose => some 'v'
  | fuseOptions => some 'o'
  | lazily => some 'z'
  | _ => none

/-- What is given with a setting. -/
def taking : Setting → Taking
  | help | version | verbose | foreground | remountSystem | remountUser | lazily
  | disableRemountSystem | disableRemountUser => .nothing
  | configFile | workDir | remountSystemUser | pid | outputPath | mountPath | user => .text
  | fuseOptions => .texts
  | waitForMount => .duration
  | statsPollInterval | processInterval => .word

/-- The settings of a mount. -/
def ofMounts : List Setting :=
  [configFile, foreground, fuseOptions, waitForMount, workDir, remountSystem, remountUser,
    remountSystemUser]

end Setting

/-! ## Levels -/

/-- Whether a path is given at a level. -/
inductive PlaceRule where
  | none | optional | required
  deriving DecidableEq, Repr

/-- A command or a group of commands. -/
inductive Level where
  | top
  | mount | mountAll | mountList
  | unmount | unmountAll
  | monitor | monitorStop | monitorStopAll
  | service | serviceInstall | serviceUninstall
  deriving DecidableEq, Repr

/-- What a word means at a level. -/
inductive Turn where
  /-- It is no name of a level. -/
  | stays
  /-- It asks for help. -/
  | helps
  /-- It names a level. -/
  | enters (level : Level)
  deriving DecidableEq, Repr

namespace Level

/-- The levels below a level, by name. -/
def below : Level → List (String × Level)
  | top => [("mount", mount), ("unmount", unmount), ("health-monitor", monitor),
      ("service", service)]
  | mount => [("all", mountAll), ("list", mountList)]
  | unmount => [("all", unmountAll)]
  | monitor => [("stop", monitorStop)]
  | monitorStop => [("all", monitorStopAll)]
  | service => [("install", serviceInstall), ("uninstall", serviceUninstall)]
  | _ => []

/-- The settings of a level, those of all levels aside. -/
def ownSettings : Level → List Setting
  | top => [.version]
  | mount | mountAll => Setting.ofMounts
  | unmount => [.lazily, .disableRemountSystem, .disableRemountUser, .workDir]
  | unmountAll => [.lazily]
  | monitor => [.pid, .configFile, .statsPollInterval, .processInterval, .outputPath]
  | monitorStop => [.pid]
  | serviceInstall => [.mountPath, .configFile, .user]
  | serviceUninstall => [.mountPath]
  | mountList | monitorStopAll | service => []

/-- The settings of a level. -/
def settings (l : Level) : List Setting :=
  [.help, .verbose] ++ l.ownSettings

/-- Whether a path is given at a level. -/
def place : Level → PlaceRule
  | mount | unmount => .optional
  | mountAll => .required
  | _ => .none

/-- Whether a level is a group only, so that a name has to follow. -/
def isGroup : Level → Bool
  | top | service => true
  | _ => false

/-- Whether a level is a command of its own as well as a group: once a setting or a path is given
to it, no name of a level can follow. -/
def isCommandAndGroup : Level → Bool
  | mount | unmount | monitor | monitorStop => true
  | _ => false

/-- The setting of a level with a name. -/
def long? (l : Level) (name : String) : Option Setting :=
  l.settings.find? fun s => s.long? == some name

/-- The setting of a level with a letter. -/
def letter? (l : Level) (c : Char) : Option Setting :=
  l.settings.find? fun s => s.letter? == some c

/-- What a word means at a level. -/
def turn (l : Level) (word : String) : Turn :=
  match l.below.lookup word with
  | some sub => .enters sub
  | none => if word = "help" && !l.below.isEmpty then .helps else .stays

end Level

end MountKeeper.CommandLine
