import MountKeeper.Configuration

/-! # Storage containers

An account holds several containers, each of which is mounted with a configuration of its own.

* `Container.chosen` are the containers of a list that a filter lets through.
* `Container.document` is the configuration document for one container, made from the document of
  the account: it names the container, has a cache directory of its own, and runs in the
  background. -/

namespace MountKeeper.Container

open Yaml (Value)

/-! ## Choice -/

/-- Whether a filter lets a container through: when some are allowed those, else those that are not
denied. -/
def passes (f : ContainerFilter) (container : String) : Bool :=
  if f.allow.isEmpty then !f.deny.contains container else f.allow.contains container

/-- The containers that a filter lets through, in order. -/
def chosen (f : ContainerFilter) (containers : List String) : List String :=
  containers.filter (passes f)

/-! ## Documents -/

/-- A value with the entries of its mapping changed, tags aside. -/
def onEntries (f : List (Value × Value) → List (Value × Value)) : Value → Value
  | .mapping entries => .mapping (f entries)
  | .tagged t v => .tagged t (onEntries f v)
  | v => v

/-- The entries of a document with a mapping under `section`, which is made unless there is one. -/
def withSection (section_ : String) (entries : List (Value × Value)) : List (Value × Value) :=
  if (Value.find? section_ entries).any Value.isMapping then entries
  else Value.insertEntry section_ (.mapping []) entries

/-- A mapping with an entry set. A mapping with a tag is left as it is. -/
def withEntry (key : String) (value : Value) : Value → Value
  | .mapping entries => .mapping (Value.insertEntry key value entries)
  | v => v

/-- Entries with a change to the value of one of them. -/
def modifyEntry (key : String) (f : Value → Value) : List (Value × Value) → List (Value × Value)
  | [] => []
  | (k, v) :: rest =>
    if Value.isKey key k then (k, f v) :: rest else (k, v) :: modifyEntry key f rest

/-- A document with an entry of a section set. -/
def setIn (section_ key : String) (value : Value) (document : Value) : Value :=
  onEntries
    (fun entries => modifyEntry section_ (withEntry key value) (withSection section_ entries))
    document

/-- Whether a document uses a component: it lists it or has a section for it. -/
def uses (document : Value) (component : String) : Bool :=
  (((document.get? "components").bind Value.asSequence?).getD []).any
      (fun c => c.asString? == some component)
    || (document.get? component).isSome

/-- A document with the name of the container where its storage component looks for it. -/
def withName (container : String) (document : Value) : Value :=
  if uses document "azstorage" then setIn "azstorage" "container" (.string container) document
  else if uses document "s3storage" then
    setIn "s3storage" "bucket-name" (.string container) document
  else document

/-- The configuration document of a container. A document that is no mapping counts as empty. -/
def document (account : Value) (container cacheRoot : String) : Value :=
  let start := if account.isMapping then account else .mapping []
  let cached := setIn "file_cache" "path" (.string (Path.join cacheRoot container)) start
  onEntries (Value.insertEntry "foreground" (.bool false)) (withName container cached)

end MountKeeper.Container
