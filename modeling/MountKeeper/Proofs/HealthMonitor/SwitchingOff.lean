import MountKeeper.HealthMonitor.Arguments
import Mathlib.Data.List.Infix
import Mathlib.Data.List.Nodup
import Mathlib.Data.List.Perm.Basic
import Mathlib.Logic.Relation

/-! # Switching checks of the monitor off

A list of names in the configuration switches checks off, by arguments of the monitor that stand behind
all others.

* `FirstNamed names checks`: the checks are those that the names mean, each once, in the order in which
  they are named for the first time. `firstNamed_switchedOff`: these are the checks that are switched
  off.
* `Thins names names'`: a name was taken out that means nothing or that stands further in front as
  well. `switchedOff_of_thins` and `perm_switchedOff` say what becomes of the checks when names are
  taken out or put into another order.
* `make_spec` puts together what a monitor is told of a list of names. -/

namespace MountKeeper

namespace MonitorCheck

variable {check check' : MonitorCheck} {name : String}

/-- `MonitorCheck.all` lists every constructor. -/
theorem mem_all (check : MonitorCheck) : check ∈ all := by
  cases check <;> decide

/-- `configName` is injective. -/
theorem configName_inj : check.configName = check'.configName ↔ check = check' := by
  cases check <;> cases check' <;> decide

/-- `disableFlag` is injective: no two checks are switched off by the same argument. -/
theorem disableFlag_injective : Function.Injective disableFlag := by
  intro check check' h
  cases check <;> cases check' <;> simp [disableFlag] at h ⊢

/-- `ofConfigName?` is the partial inverse of `configName`. -/
theorem ofConfigName?_eq_some_iff : ofConfigName? name = some check ↔ check.configName = name := by
  constructor
  · intro h
    have hfound := List.find?_some (p := fun c : MonitorCheck => c.configName == name) h
    exact eq_of_beq hfound
  · rintro rfl
    cases check <;> rfl

end MonitorCheck

namespace MonitorCommand

open MonitorCheck

/-! ## The checks that names mean -/

/-- The checks that names mean, each once, in the order in which they are named for the first time. -/
structure FirstNamed (names : List String) (checks : List MonitorCheck) : Prop where
  nodup : checks.Nodup
  mem_iff : ∀ check, check ∈ checks ↔ check.configName ∈ names
  /-- A check stands before those whose first name comes later. -/
  inOrder : checks.Pairwise fun check check' =>
    names.idxOf check.configName < names.idxOf check'.configName

section

variable {seen checks : List MonitorCheck} {check : MonitorCheck}

/-- `firstOccurrences seen checks` has the members of `checks` that are not in `seen`. -/
theorem mem_firstOccurrences_iff :
    check ∈ firstOccurrences seen checks ↔ check ∈ checks ∧ check ∉ seen := by
  induction checks generalizing seen with
  | nil => simp [firstOccurrences]
  | cons c rest ih =>
    rw [firstOccurrences]
    by_cases hc : c ∈ seen
    · rw [if_pos (List.contains_iff_mem.2 hc), ih, List.mem_cons]
      -- the check in front is one that is left out
      have hne : check ∉ seen → check ≠ c := fun hs he => hs (he ▸ hc)
      tauto
    · rw [if_neg (mt List.contains_iff_mem.1 hc), List.mem_cons, ih, List.mem_cons, List.mem_cons]
      by_cases he : check = c
      · simp [he, hc]
      · simp [he]

/-- `firstOccurrences` repeats nothing. -/
theorem nodup_firstOccurrences (seen checks : List MonitorCheck) :
    (firstOccurrences seen checks).Nodup := by
  induction checks generalizing seen with
  | nil => exact List.nodup_nil
  | cons c rest ih =>
    rw [firstOccurrences]
    split
    · exact ih seen
    · refine List.nodup_cons.2 ⟨fun hmem => ?_, ih (c :: seen)⟩
      exact (mem_firstOccurrences_iff.1 hmem).2 List.mem_cons_self

/-- `firstOccurrences seen` does not change by a check that was seen, or that stands further in
front as well. -/
theorem firstOccurrences_append_cons {front : List MonitorCheck} (back : List MonitorCheck)
    (h : check ∈ seen ∨ check ∈ front) :
    firstOccurrences seen (front ++ check :: back) = firstOccurrences seen (front ++ back) := by
  induction front generalizing seen with
  | nil =>
    -- nothing is before `check`, so it was seen already
    have hseen : check ∈ seen := h.resolve_right List.not_mem_nil
    rw [List.nil_append, List.nil_append, firstOccurrences,
      if_pos (List.contains_iff_mem.2 hseen)]
  | cons c front ih =>
    rw [List.cons_append, List.cons_append, firstOccurrences, firstOccurrences]
    by_cases hc : c ∈ seen
    · rw [if_pos (List.contains_iff_mem.2 hc), if_pos (List.contains_iff_mem.2 hc)]
      refine ih ?_
      rcases h with hs | hf
      · exact .inl hs
      · rcases List.mem_cons.1 hf with rfl | hf
        · exact .inl hc
        · exact .inr hf
    · rw [if_neg (mt List.contains_iff_mem.1 hc), if_neg (mt List.contains_iff_mem.1 hc)]
      refine congrArg (c :: ·) (ih ?_)
      rcases h with hs | hf
      · exact .inl (List.mem_cons_of_mem c hs)
      · rcases List.mem_cons.1 hf with rfl | hf
        · exact .inl List.mem_cons_self
        · exact .inr hf

end

section

variable {names names' : List String} {name : String}

/-- A check is meant by one of the names if its `configName` is among them: `ofConfigName?` is the
partial inverse of `configName`. -/
theorem mem_filterMap_ofConfigName? {check : MonitorCheck} :
    check ∈ names.filterMap ofConfigName? ↔ check.configName ∈ names := by
  rw [List.mem_filterMap]
  constructor
  · rintro ⟨name, hname, h⟩
    rwa [ofConfigName?_eq_some_iff.1 h]
  · exact fun h => ⟨_, h, ofConfigName?_eq_some_iff.2 rfl⟩

/-- `check ∈ switchedOff names` if and only if its name is in the list. -/
theorem mem_switchedOff_iff {check : MonitorCheck} :
    check ∈ switchedOff names ↔ check.configName ∈ names := by
  rw [switchedOff, mem_firstOccurrences_iff, mem_filterMap_ofConfigName?]
  simp

/-- Checks that are in the order of `names.idxOf` stay so for `name :: names`, where none of them
has that name. -/
theorem pairwise_idxOf_cons {checks : List MonitorCheck}
    (hne : ∀ check ∈ checks, check.configName ≠ name)
    (h : checks.Pairwise fun check check' =>
      names.idxOf check.configName < names.idxOf check'.configName) :
    checks.Pairwise fun check check' =>
      (name :: names).idxOf check.configName < (name :: names).idxOf check'.configName := by
  refine h.imp_of_mem fun {check check'} hcheck hcheck' hlt => ?_
  rw [List.idxOf_cons_ne _ (hne check hcheck).symm, List.idxOf_cons_ne _ (hne check' hcheck').symm]
  exact Nat.succ_lt_succ hlt

/-- `firstOccurrences seen` has its checks in the order of their first names, by `names.idxOf`. -/
theorem pairwise_firstOccurrences (seen : List MonitorCheck) (names : List String) :
    (firstOccurrences seen (names.filterMap ofConfigName?)).Pairwise fun check check' =>
      names.idxOf check.configName < names.idxOf check'.configName := by
  induction names generalizing seen with
  | nil => exact List.Pairwise.nil
  | cons name names ih =>
    cases hname : ofConfigName? name with
    | none =>
      -- the name is no check's: it moves every position by one
      rw [List.filterMap_cons_none hname]
      refine pairwise_idxOf_cons (fun check _ he => ?_) (ih seen)
      rw [ofConfigName?_eq_some_iff.2 he] at hname
      cases hname
    | some c =>
      rw [List.filterMap_cons_some hname, firstOccurrences]
      have hc := ofConfigName?_eq_some_iff.1 hname
      -- once `c` is seen no later check has its name, so the positions after it all move by one
      have hother : ∀ {seen'}, c ∈ seen' →
          ∀ check ∈ firstOccurrences seen' (names.filterMap ofConfigName?),
            check.configName ≠ name := by
        rintro seen' hseen check hcheck he
        rw [← hc, configName_inj] at he
        exact (mem_firstOccurrences_iff.1 hcheck).2 (he ▸ hseen)
      split
      · next hseen =>
        exact pairwise_idxOf_cons (hother (List.contains_iff_mem.1 hseen)) (ih seen)
      · have hrest := hother (List.mem_cons_self (a := c) (l := seen))
        refine List.pairwise_cons.2 ⟨fun check hcheck => ?_, pairwise_idxOf_cons hrest (ih _)⟩
        rw [hc, List.idxOf_cons_self, List.idxOf_cons_ne _ (hrest check hcheck).symm]
        exact Nat.succ_pos _

/-- **The checks that names switch off** are `FirstNamed`: those that the names mean, each once, in
the order in which they are named for the first time. -/
theorem firstNamed_switchedOff (names : List String) : FirstNamed names (switchedOff names) where
  nodup := nodup_firstOccurrences [] _
  mem_iff _ := mem_switchedOff_iff
  inOrder := pairwise_firstOccurrences [] names

/-! ## Other lists of names -/

/-- One name was taken out, which means no check or stands further in front as well. -/
def Thins (names names' : List String) : Prop :=
  ∃ front name back, names = front ++ name :: back ∧ names' = front ++ back ∧
    ((∀ check : MonitorCheck, check.configName ≠ name) ∨ name ∈ front)

/-- `switchedOff` does not change when a name is taken out that means nothing or stands further in
front. -/
theorem switchedOff_of_thins (h : Thins names names') : switchedOff names' = switchedOff names := by
  obtain ⟨front, name, back, rfl, rfl, hname⟩ := h
  rw [switchedOff, switchedOff, List.filterMap_append, List.filterMap_append]
  cases hcheck : ofConfigName? name with
  | none => rw [List.filterMap_cons_none hcheck]
  | some check =>
    rw [List.filterMap_cons_some hcheck]
    have hc := ofConfigName?_eq_some_iff.1 hcheck
    refine (firstOccurrences_append_cons _ (.inr (mem_filterMap_ofConfigName?.2 ?_))).symm
    rw [hc]
    exact hname.resolve_left fun h => h check hc

/-- `switchedOff` does not change however many such names are taken out. Induction on the steps of
`Thins`. -/
theorem switchedOff_of_thinned (h : Relation.ReflTransGen Thins names names') :
    switchedOff names' = switchedOff names := by
  induction h with
  | refl => rfl
  | tail _ hstep ih => rw [switchedOff_of_thins hstep, ih]

/-- `switchedOff` of names in another order has the same checks in some other order. -/
theorem perm_switchedOff (h : names.Perm names') : (switchedOff names).Perm (switchedOff names') := by
  refine (List.perm_ext_iff_of_nodup (nodup_firstOccurrences _ _) (nodup_firstOccurrences _ _)).2
    fun check => ?_
  rw [← switchedOff, ← switchedOff, mem_switchedOff_iff, mem_switchedOff_iff, h.mem_iff]

end

/-! ## The arguments -/

/-- Whether an argument switches a check off. -/
def isSwitch (argument : String) : Bool :=
  Text.startsWith "--no-" argument

/-- `check.disableFlag` is one of the arguments that switch a check off. -/
theorem isSwitch_disableFlag (check : MonitorCheck) : isSwitch check.disableFlag = true := by
  cases check <;> decide

/-- `isSwitch (option ++ value) = isSwitch option`: what an option is told is seen in its name. -/
theorem isSwitch_append {option : String} (h : 5 ≤ option.toList.length) (value : String) :
    isSwitch (option ++ value) = isSwitch option := by
  rw [isSwitch, isSwitch, Text.startsWith, Text.startsWith, String.toList_append, Bool.eq_iff_iff,
    List.isPrefixOf_iff_prefix, List.isPrefixOf_iff_prefix]
  exact List.isPrefix_append_of_length h

section

variable (env : Surroundings) (owner : UInt32) (m : MonitorOptions) (c : CacheOptions)

/-- No argument of `leading` switches a check off. -/
theorem isSwitch_of_mem_leading {argument : String} (h : argument ∈ leading env owner m c) :
    isSwitch argument = false := by
  -- an option with its seconds is a switch if its first characters say so, and no option's do
  have hseconds : ∀ {option : String} {n : UInt32}, 5 ≤ option.toList.length →
      isSwitch option = false → argument ∈ secondsArgument option n → isSwitch argument = false := by
    intro option n hlength hoption hmem
    unfold secondsArgument at hmem
    split at hmem
    · exact absurd hmem List.not_mem_nil
    · rw [List.mem_singleton.1 hmem, isSwitch_append hlength, hoption]
  simp only [leading, List.mem_append, List.mem_cons, List.not_mem_nil, or_false] at h
  rcases h with (((rfl | h) | h) | h) | (rfl | rfl)
  · exact (isSwitch_append (by decide) _).trans (by decide)
  · exact hseconds (by decide) (by decide) h
  · exact hseconds (by decide) (by decide) h
  · split at h
    · exact absurd h List.not_mem_nil
    · rw [List.mem_singleton.1 h]
      exact (isSwitch_append (by decide) _).trans (by decide)
  · exact (isSwitch_append (by decide) _).trans (by decide)
  · exact (isSwitch_append (by decide) _).trans (by decide)

/-- The arguments of a monitor that switch checks off. -/
def switches (command : MonitorCommand) : List String :=
  command.arguments.filter isSwitch

/-- The other arguments of a monitor. -/
def others (command : MonitorCommand) : List String :=
  command.arguments.filter fun argument => !isSwitch argument

/-- The switches among the arguments are the flags of `switchedOff m.disableList`, in that order. -/
theorem switches_make : (make env owner m c).switches
    = (switchedOff m.disableList).map (·.disableFlag) := by
  have hleading : (leading env owner m c).filter isSwitch = [] := by
    refine List.filter_eq_nil_iff.2 fun argument h => ?_
    rw [isSwitch_of_mem_leading env owner m c h]
    exact Bool.false_ne_true
  rw [switches, make, List.filter_append, hleading, List.nil_append, List.filter_eq_self]
  intro argument h
  obtain ⟨check, -, rfl⟩ := List.mem_map.1 h
  exact isSwitch_disableFlag check

/-- The arguments of `make` that are no switches do not depend on the list of names. -/
theorem others_make : (make env owner m c).others = leading env owner m c := by
  have hflags : ((switchedOff m.disableList).map (·.disableFlag)).filter
      (fun argument => !isSwitch argument) = [] := by
    refine List.filter_eq_nil_iff.2 fun argument h => ?_
    obtain ⟨check, -, rfl⟩ := List.mem_map.1 h
    simp [isSwitch_disableFlag check]
  rw [others, make, List.filter_append, hflags, List.append_nil, List.filter_eq_self]
  intro argument h
  rw [isSwitch_of_mem_leading env owner m c h]
  rfl

/-- A check is `disabled` by `make` if and only if its name is in the list. -/
theorem mem_disabled_iff {check : MonitorCheck} :
    check ∈ (make env owner m c).disabled ↔ check.configName ∈ m.disableList := by
  rw [make, List.mem_filter, List.contains_iff_mem, mem_switchedOff_iff]
  exact and_iff_right (mem_all check)

/-- `make` depends on a list of names by `switchedOff` alone. -/
theorem make_congr {names names' : List String} (h : switchedOff names' = switchedOff names) :
    make env owner { m with disableList := names' } c
      = make env owner { m with disableList := names } c := by
  rw [make, make, h]
  rfl

/-- **What a monitor is told of a list of names.** -/
structure MakeSpec (command : MonitorCommand) : Prop where
  /-- The arguments that switch checks off stand behind all others, and are those of the checks that
  are named, each once, in the order of their first names; these are the checks that are disabled. -/
  flags : ∃ checks, FirstNamed m.disableList checks ∧
    command.switches = checks.map (·.disableFlag) ∧ command.switches.Nodup ∧
    command.arguments = command.others ++ command.switches ∧
    command.disabled.Nodup ∧ ∀ check, check ∈ command.disabled ↔ check ∈ checks
  /-- The others are the watched process, then what is there of the two intervals and of the output
  path, then the path and the size of the cache. -/
  others : command.others = ("--pid=" ++ Numeral.decimal owner.toNat) ::
    ((if m.statsPollInterval = 0 then []
        else ["--stats-poll-interval-sec=" ++ Numeral.decimal m.statsPollInterval.toNat])
      ++ (if m.processInterval = 0 then []
        else ["--process-monitor-interval-sec=" ++ Numeral.decimal m.processInterval.toNat])
      ++ (if m.outputPath = "" then [] else ["--output-path=" ++ m.outputPath])
      ++ ["--cache-path=" ++ Path.expand env c.path, "--max-size-mb=" ++ c.maxSizeMb.write .plain])
  /-- They do not depend on the list of names. -/
  independent : ∀ names, (make env owner { m with disableList := names } c).others = command.others
  /-- To take out names that mean nothing, or that stand further in front as well, changes nothing. -/
  thinned : ∀ names, Relation.ReflTransGen Thins m.disableList names →
    make env owner { m with disableList := names } c = command
  /-- To put the names into another order changes nothing but the order of the arguments that switch
  checks off. -/
  permuted : ∀ names, m.disableList.Perm names →
    (make env owner { m with disableList := names } c).switches.Perm command.switches ∧
    (make env owner { m with disableList := names } c).others = command.others ∧
    (make env owner { m with disableList := names } c).disabled = command.disabled

/-- **The list of names is heeded**, whatever else a monitor is told: `MakeSpec` holds of `make`. -/
theorem make_spec : MakeSpec env owner m c (make env owner m c) where
  flags := by
    refine ⟨_, firstNamed_switchedOff m.disableList, switches_make env owner m c, ?_, ?_, ?_, ?_⟩
    · rw [switches_make]
      exact (List.nodup_map_iff disableFlag_injective).2 (nodup_firstOccurrences [] _)
    · rw [others_make, switches_make, make]
    · rw [make]
      exact List.Pairwise.filter _ (by decide : MonitorCheck.all.Nodup)
    · intro check
      rw [mem_disabled_iff, mem_switchedOff_iff]
  others := by
    rw [others_make]
    simp [leading, secondsArgument, ownerArgument]
  independent names := by
    rw [others_make, others_make]
    rfl
  thinned names h := make_congr env owner m c (switchedOff_of_thinned h)
  -- of a permutation only the order of the switches follows the names; the checks come in the order
  -- of `all`
  permuted names h := by
    refine ⟨?_, ?_, ?_⟩
    · rw [switches_make, switches_make]
      exact (perm_switchedOff h).symm.map _
    · rw [others_make, others_make]
      rfl
    · rw [make, make]
      refine List.filter_congr fun check _ => ?_
      rw [Bool.eq_iff_iff, List.contains_iff_mem, List.contains_iff_mem, mem_switchedOff_iff,
        mem_switchedOff_iff, h.mem_iff]

end

end MonitorCommand

end MountKeeper
