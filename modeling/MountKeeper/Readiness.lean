import MountKeeper.Disk.Basic
import MountKeeper.ExitStatus

/-! # Waiting for a daemon

A mount in the background is served by a daemon. The process that started it waits until the daemon
says that it is ready, has ended, or has been given enough time. What the daemon writes to its error
stream until then goes to a scratch file, from which the reason of a failed start is read.

* `Readiness.await` goes through what is found at each look; the first decisive one counts.
* `Readiness.reason` is the reason in the text of a scratch file.
* `Readiness.waitFor` waits and removes the scratch file. -/

namespace MountKeeper.Readiness

/-- What is found when the daemon is looked at. -/
structure Look where
  /-- Whether it has said that it is ready. -/
  ready : Bool
  /-- How it ended, if it has, or the failure to find that out. -/
  ended : Except Failure (Option ExitStatus)
  /-- Whether it has been given enough time. -/
  late : Bool

/-- What stands before a reason. -/
def mark : String := "Error: "

/-- What the reason of a failed mount starts with. -/
def mountContext : String := "failed to mount: "

/-- The text behind the last mark, or the whole text, without the context of a failed mount. Blanks
at the ends of the whole text do not count. -/
def reason (stderr : String) : String :=
  let text := Text.trim stderr.toList
  let last := (Text.afterLast? mark.toList text).getD text
  String.ofList ((Text.dropFront? mountContext.toList last).getD last)

/-- The failure of a daemon that has ended before it was ready. -/
def failure (pid : String) (status : ExitStatus) (stderr : String) : Failure :=
  if reason stderr = "" then .ofText s!"daemon exited with {status.waited pid}"
  else .ofText (reason stderr)

/-- Goes through what is found at each look: being ready wins over having ended, and that over
being late. -/
def await (pid stderr : String) : List Look → Except Failure Unit
  | [] => .ok ()
  | look :: rest =>
    if look.ready then .ok ()
    else match look.ended with
      | .error f => .error f
      | .ok (some status) => .error (failure pid status stderr)
      | .ok none => if look.late then .ok () else await pid stderr rest

/-- Waits for a daemon whose errors go to a scratch file. The file is removed in any case. -/
def waitFor (pid scratch : String) (looks : List Look) : Act Disk Unit := fun disk =>
  let stderr := match disk.readText scratch with
    | .ok text => text
    | .error _ => ""
  let disk' := match disk.removeFile scratch with
    | .ok d => d
    | .error _ => disk
  (await pid stderr looks, disk')

end MountKeeper.Readiness
