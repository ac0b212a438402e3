import MountKeeper.Failure

/-! # Acts on a host

An `Act σ α` runs on a host of type `σ`, changes it, and answers with an `α` or fails. A failing
act keeps what it has changed so far.

* `fail`, `refuse` and `failText` end an act; `inContext` adds a context to its failure; `attempt`
  turns the failure into an answer.
* A `Part σ τ` is a part of a host; `Act.on` runs an act on that part of a larger host. -/

namespace MountKeeper

/-- A computation on a host that may fail and keeps what it changed. -/
abbrev Act (σ α : Type) := ExceptT Failure (StateM σ) α

namespace Act

variable {σ τ α : Type}

/-- The answer and the host an act leaves behind. -/
def runOn (a : Act σ α) (s : σ) : Except Failure α × σ :=
  StateT.run (m := Id) (ExceptT.run a) s

/-- Fails. -/
def fail (f : Failure) : Act σ α :=
  throw f

/-- Fails with a session error. -/
def refuse (e : SessionError) : Act σ α :=
  fail (.ofSession e)

/-- Fails with a plain text. -/
def failText (text : String) : Act σ α :=
  fail (.ofText text)

/-- Answers with a result that is already there. -/
def ofExcept (r : Except Failure α) : Act σ α :=
  match r with
  | .ok a => pure a
  | .error f => fail f

/-- Answers with the result of a file operation. -/
def ofOs (r : Except OsError α) : Act σ α :=
  match r with
  | .ok a => pure a
  | .error e => fail (.ofOs e)

/-- Runs an act and answers with its result, failure included. -/
def attempt (a : Act σ α) : Act σ (Except Failure α) :=
  fun s => match a.runOn s with
    | (r, s') => (.ok r, s')

/-- Adds a context to the failure of an act. -/
def inContext (context : String) (a : Act σ α) : Act σ α :=
  fun s => match a.runOn s with
    | (.ok x, s') => (.ok x, s')
    | (.error f, s') => (.error (f.within context), s')

/-- The host as it is. -/
def look : Act σ σ :=
  fun s => (.ok s, s)

/-- Changes the host. -/
def change (f : σ → σ) : Act σ Unit :=
  fun s => (.ok (), f s)

end Act

/-! ## Parts of a host -/

/-- A part of a host that can be read and replaced. -/
structure Part (σ τ : Type) where
  /-- The part as it is. -/
  get : σ → τ
  /-- The host with another value for the part. -/
  put : τ → σ → σ

/-- Runs an act on a part of a larger host. -/
def Act.on {σ τ α : Type} (a : Act τ α) (part : Part σ τ) : Act σ α :=
  fun s => match a.runOn (part.get s) with
    | (r, t) => (r, part.put t s)

end MountKeeper
