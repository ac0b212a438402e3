import MountKeeper.Act

/-! # Stores of named values

A `KeyStore` holds string values under the keys of one flat set. -/

namespace MountKeeper

/-- The values under a key, by name. -/
abbrev Values := List (String × String)

namespace Values

/-- The value of a name. -/
def get? (name : String) : Values → Option String
  | [] => none
  | (n, v) :: rest => if n = name then some v else get? name rest

/-- The values with one name set. -/
def set (name value : String) : Values → Values
  | [] => [(name, value)]
  | (n, v) :: rest => if n = name then (name, value) :: rest else (n, v) :: set name value rest

/-- The values with all names of another set of values set. -/
def merge (old new : Values) : Values :=
  new.foldl (fun vs (n, v) => set n v vs) old

/-- `set name value` puts `value` at `name`. -/
theorem get?_set_self (name value : String) (vs : Values) :
    get? name (set name value vs) = some value := by
  induction vs with
  | nil => simp [set, get?]
  | cons e rest ih =>
    obtain ⟨n, v⟩ := e
    by_cases h : n = name <;> simp [set, get?, h, ih]

/-- `set name value` leaves the other names. -/
theorem get?_set_of_ne {name other : String} (h : other ≠ name) (value : String) (vs : Values) :
    get? other (set name value vs) = get? other vs := by
  induction vs with
  | nil => simp [set, get?, Ne.symm h]
  | cons e rest ih =>
    obtain ⟨n, v⟩ := e
    by_cases hn : n = name
    · subst hn; simp [set, get?, Ne.symm h]
    · simp [set, get?, hn, ih]

end Values

/-- A flat set of keys, each with string values. -/
structure KeyStore (σ : Type) where
  /-- The values under a key, if it exists. -/
  read : String → Act σ (Option Values)
  /-- Sets values under a key, which is made if needed. -/
  write : String → Values → Act σ Unit
  /-- Deletes a key and says whether it existed. -/
  delete : String → Act σ Bool
  /-- All keys. -/
  keys : Act σ (List String)

end MountKeeper
