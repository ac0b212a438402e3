import MountKeeper.Configuration

/-! # Entries of a section that are set

Setting an entry of a mapping looks for the key as it stands, while reading a section looks through
the tags of its keys. A name under a tag is therefore not replaced, and stands twice afterwards.

* `Section.entryIn?` is the entry that a field is read from; `Section.disguised` says that a name
  stands under a tag.
* `Section.gather?_insertEntry`: the fields of a section with a known entry set are its fields with
  that field set, unless the name is disguised; `Section.gather?_insertEntry_unknown`: an entry that
  is not known changes no field. -/

namespace MountKeeper

open Yaml (Value)

/-! ## Keys -/

namespace Yaml.Value

/-- A key that is `name` has the text `name`. -/
theorem asString?_of_isKey {name : String} {k : Value} (h : isKey name k = true) :
    k.asString? = some name := by
  cases k with
  | string s =>
    rw [show s = name by simpa [isKey] using h]
    rfl
  | _ => simp [isKey] at h

/-- A key whose text is not `name` is not the key `name`. -/
theorem isKey_of_asString?_ne {name : String} {k : Value} (h : k.asString? ≠ some name) :
    isKey name k = false :=
  Bool.eq_false_iff.2 fun hkey => h (asString?_of_isKey hkey)

end Yaml.Value

namespace Section

variable {known : List String} {name other : String} {entries : List (Value × Value)}

/-- Whether a name stands among the keys under a tag. -/
def disguised (name : String) (entries : List (Value × Value)) : Bool :=
  entries.any fun e => e.1.asString? == some name && !Value.isKey name e.1

/-- An empty section hides no name. -/
@[simp] theorem disguised_nil : disguised name [] = false := rfl

/-- `disguised name` of a list, entry by entry: a key with the text of `name` that is not the plain
key `name`. -/
theorem disguised_cons (k v : Value) :
    disguised name ((k, v) :: entries)
      = ((k.asString? == some name && !Value.isKey name k) || disguised name entries) := rfl

/-! ## Fields -/

/-- The fields with another value for one of them, in its old place or at the end. -/
def setField (name : String) (value : Value) : Fields → Fields
  | [] => [(name, value)]
  | (n, v) :: rest => if n = name then (n, value) :: rest else (n, v) :: setField name value rest

/-- `setField name` has the fields that were there, and `name`. -/
theorem any_setField (value : Value) (fields : Fields) :
    (setField name value fields).any (·.1 == other)
      = (name == other || fields.any (·.1 == other)) := by
  induction fields with
  | nil => simp [setField]
  | cons f rest ih =>
    obtain ⟨n, v⟩ := f
    by_cases hn : n = name
    · simp [setField, hn]
    · rw [setField, if_neg hn, List.any_cons, List.any_cons, ih]
      exact Bool.or_left_comm ..

/-- `setField name value` sets `name`. -/
theorem find?_setField_self (value : Value) (fields : Fields) :
    (setField name value fields).find? (·.1 == name) = some (name, value) := by
  induction fields with
  | nil => simp [setField]
  | cons f rest ih =>
    obtain ⟨n, v⟩ := f
    by_cases hn : n = name <;> simp [setField, hn, ih]

/-- `setField name value` leaves the other names. -/
theorem find?_setField_of_ne (h : other ≠ name) (value : Value) (fields : Fields) :
    (setField name value fields).find? (·.1 == other) = fields.find? (·.1 == other) := by
  induction fields with
  | nil => simp [setField, Ne.symm h]
  | cons f rest ih =>
    obtain ⟨n, v⟩ := f
    by_cases hn : n = name
    · subst hn
      simp [setField, Ne.symm h]
    · simp [setField, hn, List.find?_cons, ih]

variable {α : Type}

/-- `read?` at the field that was set reads its value. -/
theorem read?_setField_self (value : Value) (fields : Fields) (read : Value → Option α)
    (default : α) : read? (setField name value fields) name read default = read value := by
  rw [read?, find?_setField_self]

/-- `read?` at every other field reads as before. -/
theorem read?_setField_of_ne (h : other ≠ name) (value : Value) (fields : Fields)
    (read : Value → Option α) (default : α) :
    read? (setField name value fields) other read default = read? fields other read default := by
  rw [read?, read?, find?_setField_of_ne h]

/-! ## Gathering -/

/-- The fields with one more in front, which must not be there yet if it is known. -/
def addField (known : List String) (name : String) (value : Value) (fields : Fields) :
    Option Fields :=
  if known.contains name then
    if fields.any (·.1 == name) then none else some ((name, value) :: fields)
  else some fields

/-- `gather?` reads a first entry by the text of its key, and refuses a section with a key that has
none. -/
theorem gather?_cons (k v : Value) :
    gather? known ((k, v) :: entries)
      = k.asString?.bind fun n => (gather? known entries).bind (addField known n v) := by
  rw [gather?]
  cases k.asString? with
  | none => rfl
  | some n => cases gather? known entries <;> rfl

/-- A name that is not known is passed over. -/
theorem addField_unknown (h : name ∉ known) (v : Value) : addField known name v = some := by
  funext fields
  simp [addField, h]

/-- A known name that is there already is refused. -/
theorem addField_of_any (h : name ∈ known) {fields : Fields}
    (hany : fields.any (·.1 == name) = true) (v : Value) : addField known name v fields = none := by
  rw [addField, if_pos (List.contains_iff_mem.2 h), if_pos hany]

/-- `addField` in front, where it is not refused, is what `setField name` changes. -/
theorem addField_self (v value : Value) (fields : Fields) (h : name ∈ known) :
    addField known name value fields
      = (addField known name v fields).map (setField name value) := by
  simp only [addField, if_pos (List.contains_iff_mem.2 h)]
  by_cases hany : fields.any (·.1 == name) = true
  · rw [if_pos hany, if_pos hany]
    rfl
  · rw [if_neg hany, if_neg hany]
    simp [setField]

/-- `addField known other` and `setField name` commute for different names. -/
theorem addField_setField (h : other ≠ name) (v value : Value) (fields : Fields) :
    addField known other v (setField name value fields)
      = (addField known other v fields).map (setField name value) := by
  have hany : (setField name value fields).any (·.1 == other) = fields.any (·.1 == other) := by
    rw [any_setField, beq_false_of_ne (Ne.symm h), Bool.false_or]
  simp only [addField, hany]
  split
  · split
    · rfl
    · simp [setField, h]
  · rfl

/-- `addField known other` changes no field but `other`. -/
theorem find?_addField (h : other ≠ name) {v : Value} {fields fields' : Fields}
    (hadd : addField known other v fields = some fields') :
    fields'.find? (·.1 == name) = fields.find? (·.1 == name) := by
  rw [addField] at hadd
  split at hadd
  · split at hadd
    · exact absurd hadd (by simp)
    · rw [← Option.some.inj hadd, List.find?_cons, beq_false_of_ne h]
  · rw [← Option.some.inj hadd]

/-- `addField known other` adds `other` and no other known name. -/
theorem any_addField (hname : name ∈ known) {v : Value} {fields fields' : Fields}
    (h : addField known other v fields = some fields') :
    fields'.any (·.1 == name) = (other == name || fields.any (·.1 == name)) := by
  by_cases hother : other ∈ known
  · rw [addField, if_pos (List.contains_iff_mem.2 hother)] at h
    split at h
    · exact absurd h (by simp)
    · rw [← Option.some.inj h]
      rfl
  · rw [addField_unknown hother] at h
    have hne : other ≠ name := fun he => hother (he ▸ hname)
    rw [← Option.some.inj h, beq_false_of_ne hne, Bool.false_or]

/-- A known name among the texts of the keys is one of the fields that `gather?` reads. -/
theorem any_of_gather? (hname : name ∈ known) {fields : Fields}
    (h : gather? known entries = some fields) {k v : Value} (hmem : (k, v) ∈ entries)
    (hk : k.asString? = some name) : fields.any (·.1 == name) = true := by
  induction entries generalizing fields with
  | nil => exact absurd hmem List.not_mem_nil
  | cons e rest ih =>
    obtain ⟨l, w⟩ := e
    rw [gather?_cons] at h
    obtain ⟨n, hn, h⟩ := Option.bind_eq_some_iff.1 h
    obtain ⟨fields', hrest, hadd⟩ := Option.bind_eq_some_iff.1 h
    rw [any_addField hname hadd]
    rcases List.mem_cons.1 hmem with heq | hmem
    · obtain ⟨rfl, rfl⟩ := Prod.mk.inj heq
      obtain rfl : n = name := Option.some.inj (hn.symm.trans hk)
      simp
    · rw [ih hrest hmem, Bool.or_true]

/-- The value of the first entry with a name, where the tags of the keys are left aside. -/
def entryIn? (name : String) (entries : List (Value × Value)) : Option Value :=
  (entries.find? fun e => e.1.asString? == some name).map (·.2)

/-- A field of `gather?` is the entry of its name, whatever tags its key has. -/
theorem find?_gather? (hname : name ∈ known) {fields : Fields}
    (h : gather? known entries = some fields) :
    fields.find? (·.1 == name) = (entryIn? name entries).map fun v => (name, v) := by
  induction entries generalizing fields with
  | nil =>
    obtain rfl : [] = fields := Option.some.inj h
    rfl
  | cons e rest ih =>
    obtain ⟨k, v⟩ := e
    rw [gather?_cons] at h
    obtain ⟨n, hn, h⟩ := Option.bind_eq_some_iff.1 h
    obtain ⟨fields', hrest, hadd⟩ := Option.bind_eq_some_iff.1 h
    by_cases hk : n = name
    · -- the entry names the field: a second one of its name makes the gathering fail, so it is the
      -- one found
      subst hk
      rw [addField, if_pos (List.contains_iff_mem.2 hname)] at hadd
      split at hadd
      · exact absurd hadd (by simp)
      · rw [← Option.some.inj hadd]
        simp [entryIn?, hn]
    · rw [find?_addField hk hadd, ih hrest, entryIn?, entryIn?,
        List.find?_cons_of_neg (by simp [hn, hk])]

/-- `Value.find? name`, which does not look through tags, finds what `entryIn? name` finds, unless
the name is `disguised`. -/
theorem find?_eq_entryIn? (h : disguised name entries = false) :
    Value.find? name entries = entryIn? name entries := by
  induction entries with
  | nil => rfl
  | cons e rest ih =>
    obtain ⟨k, v⟩ := e
    rw [disguised_cons, Bool.or_eq_false_iff] at h
    by_cases hk : k.asString? = some name
    · have hkey : Value.isKey name k = true := by simpa [hk] using h.1
      simp [Value.find?, entryIn?, hkey, hk]
    · rw [Value.find?, Value.isKey_of_asString?_ne hk, ih h.2, entryIn?, entryIn?,
        List.find?_cons_of_neg (by simpa using hk)]
      rfl

/-- A field of `gather?` is what `Value.find? name` finds, unless the name is `disguised`. -/
theorem find?_of_gather? (hname : name ∈ known) {fields : Fields}
    (h : gather? known entries = some fields) (hplain : disguised name entries = false) :
    fields.find? (·.1 == name) = (Value.find? name entries).map fun v => (name, v) := by
  rw [find?_gather? hname h, find?_eq_entryIn? hplain]

/-- A `disguised` name is one of the fields. -/
theorem any_of_disguised (hname : name ∈ known) {fields : Fields}
    (h : gather? known entries = some fields) (hdisguised : disguised name entries = true) :
    fields.any (·.1 == name) = true := by
  obtain ⟨⟨k, v⟩, hmem, hk⟩ := List.any_eq_true.1 hdisguised
  rw [Bool.and_eq_true, beq_iff_eq] at hk
  exact any_of_gather? hname h hmem hk.1

/-! ## Setting an entry -/

/-- **A known entry that is set** changes its field and no other: `setField name value`. A disguised
name would stand twice then, and the section cannot be read. -/
theorem gather?_insertEntry (h : name ∈ known) (value : Value) (entries : List (Value × Value)) :
    gather? known (Value.insertEntry name value entries)
      = if disguised name entries then none
        else (gather? known entries).map (setField name value) := by
  induction entries with
  | nil => simp [Value.insertEntry, gather?, Value.asString?, Value.untagged, h, setField]
  | cons e rest ih =>
    obtain ⟨k, v⟩ := e
    by_cases hkey : Value.isKey name k = true
    · -- the key itself is there: what follows must not have the name once more
      rw [Value.insertEntry, if_pos hkey, gather?_cons, gather?_cons, disguised_cons,
        Value.asString?_of_isKey hkey, hkey, Option.bind_some, Option.bind_some]
      simp only [Bool.not_true, Bool.and_false, Bool.false_or]
      cases hrest : gather? known rest with
      | none => simp
      | some fields =>
        rw [Option.bind_some, Option.bind_some]
        split
        · next hdisguised => exact addField_of_any h (any_of_disguised h hrest hdisguised) value
        · exact addField_self v value fields h
    · rw [Value.insertEntry, if_neg hkey, gather?_cons, gather?_cons, disguised_cons, ih]
      cases hn : k.asString? with
      | none => simp
      | some n =>
        by_cases hname : n = name
        · -- the name stands here under a tag, and is added to the fields behind it
          subst hname
          have hset : ∀ fields, addField known n v (setField n value fields) = none :=
            fun fields => addField_of_any h (by simp [any_setField]) v
          simp only [hkey, beq_self_eq_true, Bool.not_false, Bool.and_self, Bool.true_or, if_true,
            Option.bind_some]
          split
          · rfl
          · cases gather? known rest with
            | none => rfl
            | some fields => exact hset fields
        · rw [Option.some_beq_some, beq_false_of_ne hname, Bool.false_and, Bool.false_or]
          split
          · rfl
          · cases gather? known rest with
            | none => rfl
            | some fields => exact addField_setField hname v value fields

/-- **An entry that is not known** changes no field. -/
theorem gather?_insertEntry_unknown (h : name ∉ known) (value : Value)
    (entries : List (Value × Value)) :
    gather? known (Value.insertEntry name value entries) = gather? known entries := by
  induction entries with
  | nil => simp [Value.insertEntry, gather?, Value.asString?, Value.untagged, h]
  | cons e rest ih =>
    obtain ⟨k, v⟩ := e
    by_cases hkey : Value.isKey name k = true
    · rw [Value.insertEntry, if_pos hkey, gather?_cons, gather?_cons,
        Value.asString?_of_isKey hkey, Option.bind_some, Option.bind_some, addField_unknown h,
        addField_unknown h]
    · rw [Value.insertEntry, if_neg hkey, gather?_cons, gather?_cons, ih]

/-- `insertEntry name` puts no name under a tag. -/
theorem disguised_insertEntry (value : Value) (entries : List (Value × Value)) :
    disguised other (Value.insertEntry name value entries) = disguised other entries := by
  induction entries with
  | nil =>
    rw [Value.insertEntry, disguised_cons, disguised_nil, Bool.or_false]
    simp [Value.asString?, Value.untagged, Value.isKey]
  | cons e rest ih =>
    obtain ⟨k, v⟩ := e
    rw [Value.insertEntry]
    split
    · rw [disguised_cons, disguised_cons]
    · rw [disguised_cons, disguised_cons, ih]

end Section

end MountKeeper
