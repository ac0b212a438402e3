import MountKeeper.Binary64.Shortest

/-! # Values of documents

The values that a configuration document can hold.

* `Value` are the values; mappings keep the order of their entries.
* `Value.same` is equality of values: the order of a mapping's entries does not count.
* `Value.untagged` looks through tags; `Value.get?` and `Value.insertEntry` read and write the
  entries of a mapping. -/

namespace MountKeeper.Yaml

/-- A value of a document. -/
inductive Value where
  | null
  | bool (b : Bool)
  | int (n : Int)
  | float (x : Binary64)
  | string (s : String)
  | sequence (items : List Value)
  | mapping (entries : List (Value × Value))
  /-- A value with an application's tag, which is written with an exclamation mark in front. -/
  | tagged (tag : String) (value : Value)
  deriving Repr, Inhabited

namespace Value

/-! ## Equality -/

mutual

/-- Equality of values. -/
def same : Value → Value → Bool
  | null, null => true
  | bool a, bool b => a == b
  | int a, int b => a == b
  | float a, float b => a.sameNumber b
  | string a, string b => a == b
  | sequence a, sequence b => sameItems a b
  | mapping a, mapping b => a.length == b.length && entriesWithin a b
  | tagged s a, tagged t b => s == t && same a b
  | _, _ => false

/-- Equality of items, in order. -/
def sameItems : List Value → List Value → Bool
  | [], [] => true
  | a :: as, b :: bs => same a b && sameItems as bs
  | _, _ => false

/-- Whether every entry of the first list is one of the second. -/
def entriesWithin : List (Value × Value) → List (Value × Value) → Bool
  | [], _ => true
  | (k, v) :: rest, b => entryIn k v b && entriesWithin rest b

/-- Whether an entry is one of a list. -/
def entryIn (k v : Value) : List (Value × Value) → Bool
  | [] => false
  | (l, w) :: rest => (same k l && same v w) || entryIn k v rest

end

/-! ## Looking into values -/

/-- The value behind all tags. -/
def untagged : Value → Value
  | tagged _ v => v.untagged
  | v => v

/-- Whether the value is null, tags aside. -/
def isNull (v : Value) : Bool :=
  match v.untagged with
  | null => true
  | _ => false

/-- Whether the value is a mapping, tags aside. -/
def isMapping (v : Value) : Bool :=
  match v.untagged with
  | mapping _ => true
  | _ => false

/-- The string of a value, tags aside. -/
def asString? (v : Value) : Option String :=
  match v.untagged with
  | string s => some s
  | _ => none

/-- The items of a value that is a sequence, tags aside. -/
def asSequence? (v : Value) : Option (List Value) :=
  match v.untagged with
  | sequence items => some items
  | _ => none

/-- Whether a key is the string `name`. -/
def isKey (name : String) : Value → Bool
  | string s => s == name
  | _ => false

/-- The value of the first entry whose key is the string `name`. -/
def find? (name : String) : List (Value × Value) → Option Value
  | [] => none
  | (k, v) :: rest => if isKey name k then some v else find? name rest

/-- The entry `name` of a value that is a mapping, tags aside. -/
def get? (v : Value) (name : String) : Option Value :=
  match v.untagged with
  | mapping entries => find? name entries
  | _ => none

/-- A mapping's entries with `name` set to a value, in its old place or at the end. -/
def insertEntry (name : String) (value : Value) : List (Value × Value) → List (Value × Value)
  | [] => [(string name, value)]
  | (k, v) :: rest =>
    if isKey name k then (k, value) :: rest else (k, v) :: insertEntry name value rest

/-- `insertEntry name value` puts `value` at `name`. -/
@[simp] theorem find?_insertEntry_self (name : String) (value : Value)
    (entries : List (Value × Value)) :
    find? name (insertEntry name value entries) = some value := by
  induction entries with
  | nil => simp [insertEntry, find?, isKey]
  | cons e rest ih =>
    obtain ⟨k, v⟩ := e
    by_cases h : isKey name k <;> simp [insertEntry, find?, h, ih]

/-- `insertEntry name value` leaves the other names. -/
theorem find?_insertEntry_of_ne {name other : String} (h : other ≠ name) (value : Value)
    (entries : List (Value × Value)) :
    find? other (insertEntry name value entries) = find? other entries := by
  induction entries with
  | nil => simp [insertEntry, find?, isKey, Ne.symm h]
  | cons e rest ih =>
    obtain ⟨k, v⟩ := e
    by_cases hk : isKey name k
    · have : isKey other k = false := by
        cases k <;> simp_all [isKey, Ne.symm h]
      simp [insertEntry, find?, hk, this]
    · simp [insertEntry, find?, hk, ih]

/-- Setting an entry twice is setting it to the second value. -/
@[simp] theorem insertEntry_insertEntry (name : String) (v w : Value)
    (entries : List (Value × Value)) :
    insertEntry name w (insertEntry name v entries) = insertEntry name w entries := by
  induction entries with
  | nil => simp [insertEntry, isKey]
  | cons e rest ih =>
    obtain ⟨k, u⟩ := e
    by_cases h : isKey name k <;> simp [insertEntry, h, ih]

end Value

end MountKeeper.Yaml
