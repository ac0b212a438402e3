import MountKeeper.Launcher.Wire
import MountKeeper.MountTable

/-! # The mount launcher

A launcher starts, stops and lists instances on request.

* `MountLauncher` is what the lifecycle needs of it.
* `MountLauncher.ofExchange` is a launcher behind an exchange of messages.
* `MountLauncher.table` and `MountLauncher.unmounter` take its instances for mounts. -/

namespace MountKeeper

/-- Starts, stops and lists instances. -/
structure MountLauncher (σ : Type) where
  /-- Starts an instance with a mount directory and a configuration file. -/
  start : String → String → String → Act σ Unit
  /-- Stops an instance with its mount directory. -/
  stop : String → String → Act σ Unit
  /-- The class and the name of every running instance. -/
  list : Act σ (List (String × String))

namespace MountLauncher

variable {σ : Type}

/-- Asks for something and checks the answer. -/
def request (exchange : List UInt8 → Act σ (List UInt8)) (r : Launcher.Request) : Act σ Unit := do
  let answer ← exchange r.encode
  match Launcher.payload r.opcode answer with
  | .ok _ => pure ()
  | .error e => Act.refuse e

/-- The launcher behind an exchange of one message for another. -/
def ofExchange (exchange : List UInt8 → Act σ (List UInt8)) : MountLauncher σ where
  start name dir config := request exchange (.start Launcher.ownClass name dir config)
  stop name dir := request exchange (.stop Launcher.ownClass name dir)
  list := do
    let answer ← exchange Launcher.Request.list.encode
    match Launcher.pairs answer with
    | .ok ps => pure ps
    | .error e => Act.refuse e

/-- The names of the instances of our class. -/
def ownInstances (pairs : List (String × String)) : List String :=
  (pairs.filter fun p => p.1 == Launcher.ownClass).map (·.2)

/-- The instances of our class as a mount table. -/
def table (l : MountLauncher σ) : MountTable σ where
  list := do return ownInstances (← l.list)
  isDisconnected _ := pure false

/-- Unmounting stops the instance of the path's key. -/
def unmounter (l : MountLauncher σ) : Unmounter σ where
  unmount path _ := l.stop (SessionKey.canonical path) (SessionKey.canonical path)

end MountLauncher

end MountKeeper
