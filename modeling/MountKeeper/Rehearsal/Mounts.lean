import MountKeeper.Launcher.Client
import MountKeeper.Rehearsal.Host

/-! # Mounts and launcher of a rehearsal

* `Host.mountTable` and `Host.unmounter` are the mounts of the host.
* `Host.mountLauncher` is the launcher of the host behind its wire format. -/

namespace MountKeeper.Rehearsal

namespace Host

/-! ## Mounts -/

/-- The mounts of the host. -/
def mountTable : MountTable Host where
  list := do
    let h ← Act.look
    if h.mounts.broken then Act.failText "mount table unavailable"
    else return h.mounts.paths
  isDisconnected key := do return (← Act.look).mounts.disconnected.contains key

/-- Takes every mount with the key of a path away. -/
def dropMounts (key : SessionKey) (paths : List String) : List String :=
  paths.filter fun p => SessionKey.ofPath p != key

/-- The unmounter of the host. -/
def unmounter : Unmounter Host where
  unmount path lazily := do
    let key := SessionKey.ofPath path
    note s!"unmount {key.text} lazy={lazily}"
    let h ← Act.look
    if h.mounts.failing.contains key then
      Act.refuse (.externalTool "fusermount3" "exit status: 1" "Device or resource busy")
    else Act.change fun h =>
      { h with mounts := { h.mounts with paths := dropMounts key h.mounts.paths } }

/-! ## The launcher -/

/-- The launcher's answer to a request, and what becomes of it. -/
def respond (l : LauncherState) : Launcher.Request → List UInt8 × LauncherState
  | .start className name _ _ =>
    if l.failStart.contains name then (Launcher.response Launcher.refusal ["2"], l)
    else (Launcher.response Launcher.success [],
      { l with running := l.running ++ [(className, name)] })
  | .stop className name _ =>
    if l.failStop.contains name then (Launcher.response Launcher.refusal ["5", "busy"], l)
    else (Launcher.response Launcher.success [],
      { l with running := l.running.filter (· != (className, name)) })
  | .list => (Launcher.response Launcher.success (l.running.flatMap fun p => [p.1, p.2]), l)

/-- What the journal says of a request. -/
def requestText? : Launcher.Request → Option String
  | .start className name dir config => some s!"launcher start {className} {name} {dir} {config}"
  | .stop className name dir => some s!"launcher stop {className} {name} {dir}"
  | .list => none

/-- One exchange with the launcher. -/
def exchange (message : List UInt8) : Act Host (List UInt8) := do
  let h ← Act.look
  if h.launcher.down then Act.failText "launcher pipe unavailable"
  else match Launcher.Request.decode message with
    | .error e => Act.refuse e
    | .ok request =>
      match requestText? request with
      | some text => note text
      | none => pure ()
      let (answer, l) := respond h.launcher request
      Act.change fun h => { h with launcher := l }
      return answer

/-- The launcher of the host, behind its wire format. -/
def mountLauncher : MountLauncher Host := .ofExchange exchange

end Host

end MountKeeper.Rehearsal
