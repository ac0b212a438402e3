import MountKeeper.MountTable
import MountKeeper.Process

/-! # Unmounting with a tool

A mount is taken away by the first unmount tool that is installed. A tool that runs and fails ends
the attempt; only a tool that cannot be found makes room for the next one.

* `UnmountTools.tryInOrder` is that search; `UnmountTools.unmounter` is the unmounter over it. -/

namespace MountKeeper.UnmountTools

variable {σ : Type}

/-- The tools that are tried when no others are named. -/
def standard : List String := ["fusermount3", "fusermount"]

/-- The arguments for a path. -/
def arguments (path : String) (lazily : Bool) : List String :=
  (if lazily then ["-z"] else []) ++ ["-u", path]

/-- Runs the tools in order up to the first that can be found. `missing` is the failure of the tool
before them. -/
def tryInOrder (runner : CommandRunner σ) (args : List String) (missing : Failure) :
    List String → Act σ Unit
  | [] => Act.fail missing
  | tool :: rest => do
    match ← Act.attempt (runner.run tool args) with
    | .ok _ => pure ()
    | .error f => if f.isToolNotFound then tryInOrder runner args f rest else Act.fail f

/-- Unmounts with the first tool of a list that can be found. -/
def unmounter (runner : CommandRunner σ) (tools : List String := standard) : Unmounter σ where
  unmount path lazily :=
    Act.inContext s!"failed to unmount {path}" <|
      tryInOrder runner (arguments path lazily) (.ofText "no unmount tool configured") tools

end MountKeeper.UnmountTools
