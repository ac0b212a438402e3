import MountKeeper.FuseOption
import MountKeeper.Proofs.Path
import MountKeeper.Proofs.Text.Numeral

/-! # Mount options that are written and read

* `FuseOption.readItem_display`: the written form of an option is read as the option.
* `FuseOption.splitOn_intercalate_display`: a list of written options falls apart at its commas.
* `FuseOption.readAll_display`: written options are read in order, with nothing left out.
* `FuseOption.readAll_intercalate`, `FuseOption.readAll_append`: values are read as the one text that
  they are joined to, and one after the other. `FuseOption.readAll_composes` puts this together. -/

namespace MountKeeper.FuseOption

/-! ## The characters of an option -/

/-- The characters of a written option: those of its name and digits. -/
def Legible (c : Char) : Prop :=
  c ≠ ',' ∧ Text.isBlank c = false

instance (c : Char) : Decidable (Legible c) :=
  inferInstanceAs (Decidable (_ ∧ _))

/-- A digit is `Legible`. -/
theorem legible_of_isDigit {c : Char} (h : c.isDigit = true) : Legible c := by
  refine ⟨?_, Numeral.isBlank_of_isDigit h⟩
  rintro rfl
  exact absurd h (by decide)

/-- A fixed text is gone through character by character, so that `decide` need not go over all
characters that there are. -/
theorem legible_of_all {s : String} (h : (s.toList.all fun c => decide (Legible c)) = true) :
    ∀ c ∈ s.toList, Legible c :=
  fun c hc => of_decide_eq_true (List.all_eq_true.mp h c hc)

/-- An option with a value is `Legible`, as its front is legible and its value is digits. -/
theorem legible_valued {front digits : String} (hfront : ∀ c ∈ front.toList, Legible c)
    (hdigits : ∀ c ∈ digits.toList, c.isDigit = true) :
    ∀ c ∈ (front ++ digits).toList, Legible c := by
  intro c hc
  rw [String.toList_append, List.mem_append] at hc
  rcases hc with hc | hc
  · exact hfront c hc
  · exact legible_of_isDigit (hdigits c hc)

/-- Every option is written in `Legible` characters. -/
theorem legible_display (o : FuseOption) : ∀ c ∈ o.display.toList, Legible c := by
  cases o with
  | allowOther | allowRoot | readOnly | nonEmpty | directIo => exact legible_of_all (by decide)
  | umask mask =>
    exact legible_valued (legible_of_all (by decide)) fun _ => Numeral.isDigit_of_mem_octal
  | uid n | gid n | attrTimeout n | entryTimeout n | negativeTimeout n =>
    exact legible_valued (legible_of_all (by decide)) fun _ => Numeral.isDigit_of_mem_decimal

/-- `o.display` has no comma, so that commas may stand between options. -/
theorem comma_notMem_display (o : FuseOption) : ',' ∉ o.display.toList :=
  fun h => (legible_display o ',' h).1 rfl

/-- `o.display` is `Trimmed`. -/
theorem trimmed_display (o : FuseOption) : Text.Trimmed o.display.toList :=
  Text.trimmed_of_forall fun c hc => (legible_display o c hc).2

/-- `o.display` starts with a character that is no dash. -/
theorem display_eq_cons (o : FuseOption) : ∃ c cs, o.display.toList = c :: cs ∧ c ≠ '-' := by
  have hvalued : ∀ (front digits : String) (c : Char) (cs : List Char), front.toList = c :: cs →
      c ≠ '-' → ∃ c cs, (front ++ digits).toList = c :: cs ∧ c ≠ '-' := by
    intro front digits c cs hfront hne
    exact ⟨c, cs ++ digits.toList, by rw [String.toList_append, hfront, List.cons_append], hne⟩
  cases o with
  | allowOther | allowRoot | readOnly | nonEmpty | directIo => exact ⟨_, _, rfl, by decide⟩
  | umask mask => exact hvalued "umask=" _ 'u' _ rfl (by decide)
  | uid n => exact hvalued "uid=" _ 'u' _ rfl (by decide)
  | gid n => exact hvalued "gid=" _ 'g' _ rfl (by decide)
  | attrTimeout n => exact hvalued "attr_timeout=" _ 'a' _ rfl (by decide)
  | entryTimeout n => exact hvalued "entry_timeout=" _ 'e' _ rfl (by decide)
  | negativeTimeout n => exact hvalued "negative_timeout=" _ 'n' _ rfl (by decide)

/-! ## Reading -/

/-- An item with a value is not one of the `ignored` ones, which have none. -/
theorem not_ignored_of_cutAt? {cs name value : List Char}
    (h : Text.cutAt? '=' cs = some (name, value)) :
    (cs.isEmpty || ignored.contains (String.ofList cs)) = false := by
  have hignored : ∀ item ∈ ignored, '=' ∉ item.toList := by decide
  have hcs := (Text.cutAt?_eq_some h).1
  have hitem : String.ofList cs ∉ ignored := fun hmem => hignored _ hmem (by simp [hcs])
  have hne : cs ≠ [] := by simp [hcs]
  simp [hitem, hne]

/-- `name=value` is cut behind its name. -/
theorem cutAt?_valued {front name : String} (h : front.toList = name.toList ++ ['='])
    (hname : '=' ∉ name.toList) (value : String) :
    Text.cutAt? '=' (front ++ value).toList = some (name.toList, value.toList) := by
  rw [String.toList_append, h, List.append_assoc, List.singleton_append, Path.cutAt?_append hname]

/-- `umask=value` with a value that is an octal numeral is read as `umask mask`. -/
theorem readTrimmed_umask {cs : List Char} {value : String} {mask : UInt32}
    (hcut : Text.cutAt? '=' cs = some ("umask".toList, value.toList))
    (hread : Numeral.readWord? 8 value = some mask) :
    readTrimmed cs = .ok (some (umask mask)) := by
  simp only [readTrimmed, not_ignored_of_cutAt? hcut, hcut]
  simp [hread]

/-- A name and a decimal number are read as the option of that name, `numbered? name n`. -/
theorem readTrimmed_decimal (front name : String) (n : UInt32) {o : FuseOption}
    (hname : numbered? name n = some o) (hfront : front.toList = name.toList ++ ['='])
    (hcut : '=' ∉ name.toList) (hmask : name ≠ "umask") :
    readTrimmed (front ++ Numeral.decimal n.toNat).toList = .ok (some o) := by
  have hvalued := cutAt?_valued hfront hcut (Numeral.decimal n.toNat)
  simp only [readTrimmed, not_ignored_of_cutAt? hvalued, hvalued]
  simp [hmask, Numeral.readWord?_decimal, hname]

/-- **The written form of an option** is read as the option: `readItem` undoes `display`. -/
theorem readItem_display (o : FuseOption) : readItem o.display.toList = .ok (some o) := by
  rw [readItem, trimmed_display o]
  cases o with
  -- the flags are closed texts; an option with a value is read by its prefix and its numeral
  | allowOther | allowRoot | readOnly | nonEmpty | directIo => rfl
  | umask mask =>
    exact readTrimmed_umask (cutAt?_valued (by decide) (by decide) _)
      (Numeral.readWord?_octal 3 mask)
  | uid n => exact readTrimmed_decimal "uid=" "uid" n rfl (by decide) (by decide) (by decide)
  | gid n => exact readTrimmed_decimal "gid=" "gid" n rfl (by decide) (by decide) (by decide)
  | attrTimeout n =>
    exact readTrimmed_decimal "attr_timeout=" "attr_timeout" n rfl (by decide) (by decide)
      (by decide)
  | entryTimeout n =>
    exact readTrimmed_decimal "entry_timeout=" "entry_timeout" n rfl (by decide) (by decide)
      (by decide)
  | negativeTimeout n =>
    exact readTrimmed_decimal "negative_timeout=" "negative_timeout" n rfl (by decide) (by decide)
      (by decide)

/-- `readItems` undoes `display`, item by item. -/
theorem readItems_display (options : List FuseOption) :
    readItems (options.map fun o => o.display.toList) = .ok options := by
  induction options with
  | nil => rfl
  | cons o rest ih => simp [readItems, readItem_display, ih]

/-- **Written options** are read in order, with nothing left out: `readAll` undoes `map display`. -/
theorem readAll_display (options : List FuseOption) :
    readAll (options.map display) = .ok options := by
  have hpieces : ((options.map display).flatMap fun v => v.toList.splitOn ',')
      = options.map fun o => o.display.toList := by
    induction options with
    | nil => rfl
    | cons o rest ih =>
      rw [List.map_cons, List.flatMap_cons, ih, List.splitOn_eq_singleton (comma_notMem_display o)]
      rfl
  rw [readAll, hpieces, readItems_display]

/-- `intercalate` of written options falls apart at its commas, since no option has one. -/
theorem splitOn_intercalate_display {options : List FuseOption} (h : options ≠ []) :
    (",".intercalate (options.map display)).toList.splitOn ','
      = (options.map display).map String.toList := by
  have hpieces : ∀ piece ∈ (options.map display).map String.toList, ',' ∉ piece := by
    simpa using fun o _ => comma_notMem_display o
  rw [String.toList_intercalate]
  exact List.splitOn_intercalate ',' hpieces (by simpa using h)

/-- `intercalate` of written options starts with no dash. -/
theorem head?_intercalate_display {options : List FuseOption} (h : options ≠ []) :
    (",".intercalate (options.map display)).toList.head? ≠ some '-' := by
  obtain ⟨o, rest, rfl⟩ := List.exists_cons_of_ne_nil h
  obtain ⟨c, cs, hcs, hc⟩ := display_eq_cons o
  have hhead : (",".intercalate ((o :: rest).map display)).toList.head? = some c := by
    rw [String.toList_intercalate]
    cases rest <;> simp [List.intercalate, hcs]
  rw [hhead]
  exact fun he => hc (Option.some.inj he)

/-! ## Values that are put together -/

/-- `readItems (items ++ more)`: items are read one after the other, and the first failure is the
failure of all. -/
theorem readItems_append (items more : List (List Char)) :
    readItems (items ++ more) = do
      let found ← readItems items
      let rest ← readItems more
      return found ++ rest := by
  induction items with
  | nil =>
    rw [List.nil_append]
    cases readItems more <;> rfl
  | cons item items ih =>
    rw [List.cons_append, readItems, readItems, ih]
    -- the first failure ends both sides alike, so one case a reader is enough
    cases readItem item with
    | error e => rfl
    | ok found =>
      cases readItems items with
      | error e => rfl
      | ok rest =>
        cases readItems more with
        | error e => rfl
        | ok others => exact congrArg Except.ok (List.append_assoc _ rest others).symm

/-- `",".intercalate values` falls apart into the items of the values. -/
theorem splitOn_intercalate {values : List String} (h : values ≠ []) :
    (",".intercalate values).toList.splitOn ','
      = values.flatMap fun v => v.toList.splitOn ',' := by
  induction values with
  | nil => exact absurd rfl h
  | cons v rest ih =>
    cases rest with
    | nil => simp
    | cons w rest =>
      have hcomma : (v ++ "," ++ ",".intercalate (w :: rest)).toList
          = v.toList ++ ',' :: (",".intercalate (w :: rest)).toList := by
        rw [String.toList_append, String.toList_append, List.append_assoc]
        rfl
      rw [String.intercalate_cons_cons, hcomma, List.splitOn_append_cons_self, ih (by simp)]
      rfl

/-- **Values** are read as the one text that they are joined to: `readAll [",".intercalate values] =
readAll values`. -/
theorem readAll_intercalate (values : List String) :
    readAll [",".intercalate values] = readAll values := by
  rcases eq_or_ne values [] with rfl | hne
  · -- the empty text has one item, which is empty and counts for nothing
    rfl
  · rw [readAll, readAll, List.flatMap_singleton, splitOn_intercalate hne]

/-- `readAll (values ++ more)`: values are read one after the other. -/
theorem readAll_append (values more : List String) :
    readAll (values ++ more) = do
      let found ← readAll values
      let rest ← readAll more
      return found ++ rest := by
  rw [readAll, List.flatMap_append, readItems_append]
  rfl

/-- **Reading composes**: a list of options that was written as one text is read as that list,
values are read as the one text that they are joined to, and the values of two lists are read one
after the other, the first failure being that of the whole. The three parts are `readAll_display`,
`readAll_intercalate` and `readAll_append`. -/
theorem readAll_composes :
    (∀ options : List FuseOption,
      readAll [",".intercalate (options.map display)] = .ok options) ∧
    (∀ values : List String, readAll values = readAll [",".intercalate values]) ∧
    ∀ values more : List String, readAll (values ++ more) = do
      let found ← readAll values
      let rest ← readAll more
      return found ++ rest := by
  refine ⟨fun options => ?_, fun values => (readAll_intercalate values).symm, readAll_append⟩
  rw [readAll_intercalate, readAll_display]

end MountKeeper.FuseOption
