import MountKeeper.Pattern.Reader
import Mathlib.Data.Finset.Card

/-! # What a pattern selects

`Pattern.reach` goes through a text with sets of places. Here the same is said of one part of a text
at a time.

* `Pattern.Matches`: a pattern matches the part of a text between two places.
* `Pattern.advances_reach`: `reach text p` goes from some places to those behind what `p` matches
  there.
* `Pattern.occursIn_iff`: a pattern occurs in a text if and only if it matches some part of it.
* `Pattern.selects_under`: the pattern `dir.*` selects the paths that `dir` is a piece of. -/

namespace MountKeeper.Pattern

/-! ## Steps from place to place -/

/-- `Times R n i j`: `n` steps of `R` lead from `i` to `j`. -/
def Times (R : Nat → Nat → Prop) : Nat → Nat → Nat → Prop
  | 0, i, j => i = j
  | n + 1, i, j => ∃ k, R i k ∧ Times R n k j

/-- `Stays R size`: no step of `R` leads out of the places up to `size`. -/
def Stays (R : Nat → Nat → Prop) (size : Nat) : Prop :=
  ∀ i j, R i j → i ≤ size → j ≤ size

/-- `Within places size`: none of the places lies behind `size`. -/
def Within (places : List Nat) (size : Nat) : Prop :=
  ∀ i ∈ places, i ≤ size

/-- `Advances size step R`: `step` takes a set of places up to `size` to the places that lie one
step of `R` behind them. -/
def Advances (size : Nat) (step : List Nat → List Nat) (R : Nat → Nat → Prop) : Prop :=
  ∀ places, Within places size → ∀ j, j ∈ step places ↔ ∃ i ∈ places, R i j

section Steps

variable {R : Nat → Nat → Prop} {step : List Nat → List Nat} {i j n size : Nat}

/-- `Times R (m + n) i j`: first `m` steps, then `n` more. -/
theorem times_add_iff (m n : Nat) :
    Times R (m + n) i j ↔ ∃ k, Times R m i k ∧ Times R n k j := by
  induction m generalizing i with
  | zero =>
    rw [Nat.zero_add]
    exact ⟨fun h => ⟨i, rfl, h⟩, fun ⟨k, hik, hkj⟩ => hik ▸ hkj⟩
  | succ m ih =>
    rw [Nat.succ_add]
    constructor
    · rintro ⟨l, hil, hlj⟩
      obtain ⟨k, hlk, hkj⟩ := ih.1 hlj
      exact ⟨k, ⟨l, hil, hlk⟩, hkj⟩
    · rintro ⟨k, ⟨l, hil, hlk⟩, hkj⟩
      exact ⟨l, hil, ih.2 ⟨k, hlk, hkj⟩⟩

/-- `Times R (n + 1) i j` cut before its last step, where the definition cuts behind the first. -/
theorem times_succ_iff : Times R (n + 1) i j ↔ ∃ k, Times R n i k ∧ R k j := by
  rw [times_add_iff]
  simp [Times]

/-- Steps that stay among some places do so any number of times. -/
theorem Stays.times (hR : Stays R size) (n : Nat) : Stays (Times R n) size := by
  induction n with
  | zero =>
    rintro i _ rfl hi
    exact hi
  | succ n ih =>
    rintro i j ⟨k, hik, hkj⟩ hi
    exact ih k j hkj (hR i k hik hi)

/-- **No more steps than places.** What any number of steps reaches among the places up to `size` is
reached by at most `size + 1` of them. -/
theorem Stays.exists_le (hR : Stays R size) (h : Times R n i j) (hi : i ≤ size) :
    ∃ m ≤ size + 1, Times R m i j := by
  classical
  rcases le_or_gt n (size + 1) with hn | hn
  · exact ⟨n, hn, h⟩
  -- the sets of the places within `m` steps grow, and there are not more than `size + 1` places
  let within (m : Nat) : Finset Nat := {k ∈ Finset.range (size + 1) | ∃ l ≤ m, Times R l i k}
  have hmem (m k : Nat) : k ∈ within m ↔ ∃ l ≤ m, Times R l i k := by
    refine Finset.mem_filter.trans (and_iff_right_of_imp ?_)
    rintro ⟨l, -, hl⟩
    exact Finset.mem_range_succ_iff.2 (hR.times l i k hl hi)
  have hgrow {m m' : Nat} (hm : m ≤ m') : within m ⊆ within m' := by
    intro k hk
    obtain ⟨l, hl, hk⟩ := (hmem m k).1 hk
    exact (hmem m' k).2 ⟨l, hl.trans hm, hk⟩
  have hsame (m m' : Nat) (hm : m ≤ m') (hcard : (within m).card = (within m').card) :
      within m = within m' :=
    Finset.eq_of_subset_of_card_le (hgrow hm) hcard.ge
  have hcard : (within n).card = (within (size + 1)).card := by
    refine Nat.stabilises_of_monotone (fun m m' hm => Finset.card_le_card (hgrow hm))
      (fun m => ?_) (fun m hm => ?_) hn.le
    · exact (Finset.card_filter_le _ _).trans (Finset.card_range _).le
    · -- a set that has not grown holds all that is a step behind it
      congr 1
      refine (hgrow (Nat.le_succ _)).antisymm fun k hk => ?_
      obtain ⟨l, hl, hk⟩ := (hmem _ k).1 hk
      cases l with
      | zero => exact (hmem _ k).2 ⟨0, Nat.zero_le _, hk⟩
      | succ l =>
        obtain ⟨k', hk', hstep⟩ := times_succ_iff.1 hk
        have hbefore : k' ∈ within m := by
          rw [hsame m (m + 1) (Nat.le_succ _) hm]
          exact (hmem _ k').2 ⟨l, Nat.le_of_succ_le_succ hl, hk'⟩
        obtain ⟨l', hl', hk'⟩ := (hmem _ k').1 hbefore
        exact (hmem _ k).2 ⟨l' + 1, Nat.succ_le_succ hl', times_succ_iff.2 ⟨k', hk', hstep⟩⟩
  have hj : j ∈ within (size + 1) := by
    rw [hsame _ _ hn.le hcard.symm]
    exact (hmem n j).2 ⟨n, le_rfl, h⟩
  exact (hmem _ j).1 hj

/-- `merge a b` holds what `a` or `b` holds. -/
theorem mem_merge_iff {a b : List Nat} : j ∈ merge a b ↔ j ∈ a ∨ j ∈ b := by
  unfold merge
  by_cases hj : j ∈ a
  · simp [hj]
  · simp [hj]

section Advances

variable (hR : Stays R size) (h : Advances size step R)

include hR h

/-- One step more lies within the places as well. -/
theorem Advances.within {places : List Nat} (hplaces : Within places size) :
    Within (step places) size := by
  intro j hj
  obtain ⟨i, hi, hij⟩ := (h places hplaces j).1 hj
  exact hR i j hij (hplaces i hi)

/-- **One after the other**: `step` and then `step'` advance by a step of `R` and then one of
`R'`. -/
theorem Advances.seq {step' : List Nat → List Nat} {R' : Nat → Nat → Prop}
    (h' : Advances size step' R') :
    Advances size (fun places => step' (step places)) fun i j => ∃ k, R i k ∧ R' k j := by
  intro places hplaces j
  rw [h' _ (Advances.within hR h hplaces)]
  constructor
  · rintro ⟨k, hk, hkj⟩
    obtain ⟨i, hi, hik⟩ := (h places hplaces k).1 hk
    exact ⟨i, hi, k, hik, hkj⟩
  · rintro ⟨i, hi, k, hik, hkj⟩
    exact ⟨k, (h places hplaces k).2 ⟨i, hi, hik⟩, hkj⟩

/-- `steps step n` advances by `n` steps. -/
theorem Advances.steps (n : Nat) : Advances size (steps step n) (Times R n) := by
  induction n with
  | zero =>
    intro places _ j
    exact ⟨fun hj => ⟨j, hj, rfl⟩, fun ⟨i, hi, hij⟩ => hij ▸ hi⟩
  | succ n ih =>
    intro places hplaces j
    unfold Pattern.steps
    split
    · next hempty =>
      rw [List.isEmpty_iff.1 hempty]
      simp
    · exact Advances.seq hR h ih places hplaces j

omit hR in
/-- When `merge places (step places)` is not longer than `places`, no step leaves the places. -/
theorem Advances.closed {places : List Nat} (hplaces : Within places size)
    (hlength : (merge places (step places)).length = places.length) (n : Nat) (hi : i ∈ places)
    (hij : Times R n i j) : j ∈ places := by
  have hadded : (step places).filter (fun k => !places.contains k) = [] := by
    unfold merge at hlength
    rw [List.length_append] at hlength
    exact List.length_eq_zero_iff.1 (by omega)
  induction n generalizing i with
  | zero => exact hij ▸ hi
  | succ n ih =>
    obtain ⟨k, hik, hkj⟩ := hij
    have hk := List.filter_eq_nil_iff.1 hadded k ((h places hplaces k).2 ⟨i, hi, hik⟩)
    exact ih (by simpa using hk) hkj

/-- `upTo step n` advances by at most `n` steps. -/
theorem Advances.upTo (n : Nat) :
    Advances size (upTo step n) fun i j => ∃ m ≤ n, Times R m i j := by
  induction n with
  | zero =>
    intro places _ j
    refine ⟨fun hj => ⟨j, hj, 0, le_rfl, rfl⟩, ?_⟩
    rintro ⟨i, hi, m, hm, hij⟩
    obtain rfl := Nat.le_zero.1 hm
    exact hij ▸ hi
  | succ n ih =>
    intro places hplaces j
    have hunfold : Pattern.upTo step (n + 1) places
        = if (merge places (step places)).length = places.length then places
          else Pattern.upTo step n (merge places (step places)) := rfl
    rw [hunfold]
    split
    · next hlength =>
      -- no place was new: the search ends early
      refine ⟨fun hj => ⟨j, hj, 0, Nat.zero_le _, rfl⟩, ?_⟩
      rintro ⟨i, hi, m, -, hij⟩
      exact Advances.closed h hplaces hlength m hi hij
    · have hmore : Within (merge places (step places)) size := fun k hk =>
        (mem_merge_iff.1 hk).elim (hplaces k) (Advances.within hR h hplaces k)
      rw [ih _ hmore]
      constructor
      · rintro ⟨i, hi, m, hm, hij⟩
        -- the place was there before, or it is a step behind one that was
        rcases mem_merge_iff.1 hi with hi | hi
        · exact ⟨i, hi, m, Nat.le_succ_of_le hm, hij⟩
        · obtain ⟨k, hk, hki⟩ := (h places hplaces i).1 hi
          exact ⟨k, hk, m + 1, Nat.succ_le_succ hm, i, hki, hij⟩
      · rintro ⟨i, hi, m, hm, hij⟩
        cases m with
        | zero => exact ⟨i, mem_merge_iff.2 (.inl hi), 0, Nat.zero_le _, hij⟩
        | succ m =>
          obtain ⟨k, hik, hkj⟩ := hij
          exact ⟨k, mem_merge_iff.2 (.inr ((h places hplaces k).2 ⟨i, hi, hik⟩)), m,
            Nat.le_of_succ_le_succ hm, hkj⟩

/-- `steps step least` and then `upTo step more` advance by `least` to `least + more` steps. -/
theorem Advances.between (least more : Nat) :
    Advances size (fun places => Pattern.upTo step more (Pattern.steps step least places))
      fun i j => ∃ n, least ≤ n ∧ n ≤ least + more ∧ Times R n i j := by
  intro places hplaces j
  have hseq := Advances.seq (hR.times least) (Advances.steps hR h least) (Advances.upTo hR h more)
  refine (hseq places hplaces j).trans (exists_congr fun i => and_congr_right fun _ => ?_)
  constructor
  · rintro ⟨k, hik, n, hn, hkj⟩
    exact ⟨least + n, Nat.le_add_right _ _, by omega, (times_add_iff _ _).2 ⟨k, hik, hkj⟩⟩
  · rintro ⟨n, hleast, hmost, hij⟩
    obtain ⟨n, rfl⟩ := Nat.exists_eq_add_of_le hleast
    obtain ⟨k, hik, hkj⟩ := (times_add_iff _ _).1 hij
    exact ⟨k, hik, n, by omega, hkj⟩

/-- With one step more than there are places, `upTo` advances by any number of steps: what can be
reached from a place at all can be reached by as many steps as there are places. -/
theorem Advances.atLeast (least : Nat) :
    Advances size (fun places => Pattern.upTo step (size + 1) (Pattern.steps step least places))
      fun i j => ∃ n, least ≤ n ∧ Times R n i j := by
  intro places hplaces j
  refine (Advances.between hR h least (size + 1) places hplaces j).trans
    (exists_congr fun i => and_congr_right fun hi => ?_)
  constructor
  · rintro ⟨n, hleast, -, hij⟩
    exact ⟨n, hleast, hij⟩
  · rintro ⟨n, hleast, hij⟩
    obtain ⟨n, rfl⟩ := Nat.exists_eq_add_of_le hleast
    obtain ⟨k, hik, hkj⟩ := (times_add_iff _ _).1 hij
    obtain ⟨m, hm, hkj⟩ := hR.exists_le hkj (hR.times least i k hik (hplaces i hi))
    exact ⟨least + m, Nat.le_add_right _ _, by omega, (times_add_iff _ _).2 ⟨k, hik, hkj⟩⟩

end Advances

end Steps

/-! ## Matching one part of a text -/

/-- `Matches text p i j`: the pattern `p` matches the part of `text` between the places `i` and `j`.
A repetition is matched any number of times between its bounds; an upper bound that is less than
`least` counts as `least`. -/
def Matches (text : Array Char) : Pattern → Nat → Nat → Prop
  | empty, i, j => i = j
  | one foldsCase cls, i, j => j = i + 1 ∧ ∃ c, text[i]? = some c ∧ cls.holds foldsCase c = true
  | edge e, i, j => i = j ∧ e.holds (before? text i) text[i]? = true
  | sequence p q, i, j => ∃ k, Matches text p i k ∧ Matches text q k j
  | either p q, i, j => Matches text p i j ∨ Matches text q i j
  | repeated p least most, i, j =>
    ∃ n, least ≤ n ∧ (∀ m, most = some m → n ≤ max least m) ∧ Times (Matches text p) n i j

variable {text : Array Char} {p q : Pattern} {i j : Nat}

/-- What is matched from a place of the text on ends at a place of the text. -/
theorem stays_matches (text : Array Char) (p : Pattern) : Stays (Matches text p) text.size := by
  induction p with
  | empty =>
    rintro i _ rfl hi
    exact hi
  | one foldsCase cls =>
    -- the place behind a character is one on, and there is a character there
    rintro i _ ⟨rfl, c, hc, -⟩ -
    exact Nat.succ_le_of_lt (Array.getElem?_eq_some_iff.1 hc).1
  | edge e =>
    rintro i _ ⟨rfl, -⟩ hi
    exact hi
  | sequence p q ihp ihq =>
    rintro i j ⟨k, hp, hq⟩ hi
    exact ihq k j hq (ihp i k hp hi)
  | either p q ihp ihq =>
    rintro i j (hp | hq) hi
    · exact ihp i j hp hi
    · exact ihq i j hq hi
  | repeated p least most ih =>
    -- each round stays in the text, so `n` of them do
    rintro i j ⟨n, -, -, hn⟩ hi
    exact ih.times n i j hn hi

/-- **`reach text p` advances by what `p` matches**: it holds the places behind the parts of the
text that the pattern matches from one of the places on. -/
theorem advances_reach (text : Array Char) (p : Pattern) :
    Advances text.size (reach text p) (Matches text p) := by
  induction p with
  | empty =>
    intro places _ j
    simp [reach, Matches]
  | one foldsCase cls =>
    intro places _ j
    simp only [reach, Matches, List.mem_map, List.mem_filter, Option.any_eq_true]
    constructor
    · rintro ⟨i, ⟨hi, c, hc, hholds⟩, rfl⟩
      exact ⟨i, hi, rfl, c, hc, hholds⟩
    · rintro ⟨i, hi, rfl, c, hc, hholds⟩
      exact ⟨i, ⟨hi, c, hc, hholds⟩, rfl⟩
  | edge e =>
    intro places _ j
    simp only [reach, Matches, List.mem_filter]
    constructor
    · rintro ⟨hj, hholds⟩
      exact ⟨j, hj, rfl, hholds⟩
    · rintro ⟨i, hi, rfl, hholds⟩
      exact ⟨hi, hholds⟩
  | sequence p q ihp ihq => exact Advances.seq (stays_matches text p) ihp ihq
  | either p q ihp ihq =>
    -- the two sets are merged, and so are the two ways to match
    intro places hplaces j
    refine mem_merge_iff.trans ((or_congr (ihp places hplaces j) (ihq places hplaces j)).trans ?_)
    constructor
    · rintro (⟨i, hi, hij⟩ | ⟨i, hi, hij⟩)
      · exact ⟨i, hi, .inl hij⟩
      · exact ⟨i, hi, .inr hij⟩
    · rintro ⟨i, hi, hij | hij⟩
      · exact .inl ⟨i, hi, hij⟩
      · exact .inr ⟨i, hi, hij⟩
  | repeated p least most ih =>
    intro places hplaces j
    have hR := stays_matches text p
    cases most with
    | none =>
      -- the search has one step more than there are places, which is as good as any number
      refine (Advances.atLeast hR ih least places hplaces j).trans (exists_congr fun i =>
        and_congr_right fun _ => exists_congr fun n => and_congr_right fun _ => ?_)
      exact ⟨fun hij => ⟨nofun, hij⟩, And.right⟩
    | some m =>
      refine (Advances.between hR ih least (m - least) places hplaces j).trans (exists_congr fun i =>
        and_congr_right fun _ => exists_congr fun n => and_congr_right fun hn =>
          and_congr_left fun _ => ?_)
      constructor
      · rintro hmost _ ⟨⟩
        omega
      · intro hmost
        have hbound := hmost m rfl
        omega

/-- **A pattern occurs in a text** if and only if it matches some part of it. -/
theorem occursIn_iff (p : Pattern) (text : String) :
    p.occursIn text = true ↔ ∃ i ≤ text.toList.length, ∃ j, Matches text.toList.toArray p i j := by
  have hplaces : Within (List.range (text.toList.toArray.size + 1)) text.toList.toArray.size :=
    fun i hi => Nat.le_of_lt_succ (List.mem_range.1 hi)
  have hreach := advances_reach text.toList.toArray p _ hplaces
  have hsome : p.occursIn text = true
      ↔ ∃ j, j ∈ reach text.toList.toArray p (List.range (text.toList.toArray.size + 1)) := by
    unfold occursIn
    rw [Bool.not_eq_true', List.isEmpty_eq_false_iff_exists_mem]
  rw [hsome]
  constructor
  · rintro ⟨j, hj⟩
    obtain ⟨i, hi, hij⟩ := (hreach j).1 hj
    exact ⟨i, hplaces i hi, j, hij⟩
  · rintro ⟨i, hi, j, hij⟩
    exact ⟨j, (hreach j).2 ⟨i, List.mem_range.2 (Nat.lt_succ_of_le hi), hij⟩⟩

/-! ## A written pattern -/

/-- `sequenceOf (p :: ps)` matches what `p` matches and, behind it, what the others match. -/
theorem matches_sequenceOf_cons (p : Pattern) (ps : List Pattern) :
    Matches text (sequenceOf (p :: ps)) i j ↔
      ∃ k, Matches text p i k ∧ Matches text (sequenceOf ps) k j := by
  cases ps with
  | nil => exact ⟨fun h => ⟨j, h, rfl⟩, fun ⟨k, h, hkj⟩ => hkj ▸ h⟩
  | cons q qs => exact Iff.rfl

/-- The pattern of one character. -/
def literal (c : Char) : Pattern := .one false (.single c)

/-- `literal c` matches the character `c`. -/
theorem matches_literal (c : Char) :
    Matches text (literal c) i j ↔ j = i + 1 ∧ text[i]? = some c := by
  have hsingle (d : Char) : (CharClass.single c).holds false d = true ↔ d = c := by
    have hholds : (CharClass.single c).holds false d
        = (decide (c ≤ d) && decide (d ≤ c) || false) :=
      rfl
    rw [hholds, Bool.or_false, Bool.and_eq_true, decide_eq_true_iff, decide_eq_true_iff]
    exact ⟨fun hle => Char.le_antisymm hle.2 hle.1,
      fun heq => heq ▸ ⟨Char.le_refl _, Char.le_refl _⟩⟩
  simp [literal, Matches, hsingle]

/-- `c :: cs` stands at place `i` if and only if `c` stands there and `cs` behind it. -/
theorem cons_prefix_drop_iff {l cs : List Char} {c : Char} :
    c :: cs <+: l.drop i ↔ l[i]? = some c ∧ cs <+: l.drop (i + 1) := by
  rcases lt_or_ge i l.length with hi | hi
  · rw [List.drop_eq_getElem_cons hi, List.cons_prefix_cons, List.getElem?_eq_getElem hi,
      Option.some_inj, eq_comm]
  · rw [List.drop_eq_nil_of_le hi, List.getElem?_eq_none hi]
    simp

/-- Characters one after the other, with `p` behind them, match where the characters stand and `p`
matches behind them. -/
theorem matches_literals (cs : List Char) :
    Matches text (sequenceOf (cs.map literal ++ [p])) i j ↔
      cs <+: text.toList.drop i ∧ Matches text p (i + cs.length) j := by
  induction cs generalizing i with
  | nil => simp [sequenceOf]
  | cons c cs ih =>
    rw [List.map_cons, List.cons_append, matches_sequenceOf_cons, cons_prefix_drop_iff,
      Array.getElem?_toList, List.length_cons, ← Nat.add_assoc, Nat.add_right_comm]
    constructor
    · rintro ⟨k, hc, hrest⟩
      obtain ⟨rfl, hstands⟩ := (matches_literal c).1 hc
      exact ⟨⟨hstands, (ih.1 hrest).1⟩, (ih.1 hrest).2⟩
    · rintro ⟨⟨hc, hcs⟩, hp⟩
      exact ⟨i + 1, (matches_literal c).2 ⟨rfl, hc⟩, ih.2 ⟨hcs, hp⟩⟩

/-- The characters that mean something else than themselves in a written pattern. -/
def specials : List Char :=
  [')', '|', '(', '[', '*', '+', '?', '\x7b', '.', '^', '$', '\\']

/-- A character that is not special is read as itself. -/
theorem readBody?_of_plain {c : Char} (h : c ∉ specials) (fuel : Nat) (names : List (List Char))
    (done : Option Pattern) (items : List Item) (cs : List Char) :
    readBody? (fuel + 1) {} names done items (c :: cs)
      = readBody? fuel {} names done (some (literal c) :: items) cs := by
  have hskip : skipSpace {} (c :: cs) = c :: cs := rfl
  rw [readBody?, hskip]
  split
  -- the last case is that of the other characters
  case h_14 heq =>
    obtain ⟨rfl, rfl⟩ := List.cons_eq_cons.1 heq
    rfl
  all_goals simp_all [specials]

/-- Characters that are not special are read as themselves. -/
theorem readBody?_of_all_plain {front : List Char} (h : ∀ c ∈ front, c ∉ specials) (fuel : Nat)
    (names : List (List Char)) (done : Option Pattern) (items : List Item) (cs : List Char) :
    readBody? (front.length + fuel) {} names done items (front ++ cs)
      = readBody? fuel {} names done
          ((front.map fun c => some (literal c)).reverse ++ items) cs := by
  induction front generalizing items with
  | nil => rw [List.length_nil, Nat.zero_add]; rfl
  | cons c front ih =>
    have hfuel : (c :: front).length + fuel = front.length + fuel + 1 := by
      rw [List.length_cons]
      omega
    rw [hfuel, List.cons_append, readBody?_of_plain (h c List.mem_cons_self),
      ih (fun d hd => h d (List.mem_cons_of_mem c hd)), List.map_cons, List.reverse_cons,
      List.append_assoc]
    rfl

/-- What `.*` is read as: any number of characters, but no line feed. -/
def restOfLine : Pattern :=
  .repeated (.one false (.complement (.single '\n'))) 0 none

/-- `read? (dir ++ ".*")` is the characters of `dir`, and anything behind them. -/
theorem read?_under {dir : String} (h : ∀ c ∈ dir.toList, c ∉ specials) :
    read? (dir ++ ".*") = some (sequenceOf (dir.toList.map literal ++ [restOfLine])) := by
  have hlength : (dir ++ ".*").length + 1 = dir.toList.length + 3 := by
    rw [String.length_append]
    rfl
  have hbody : readBody? 3 {} [] none ((dir.toList.map fun c => some (literal c)).reverse ++ [])
      ".*".toList
        = some (closeBranch none (some restOfLine ::
            (dir.toList.map fun c => some (literal c)).reverse ++ []), [], []) := rfl
  have hitems : (some restOfLine ::
      (dir.toList.map fun c => some (literal c)).reverse ++ []).reverse.filterMap id
        = dir.toList.map literal ++ [restOfLine] := by
    simp [List.filterMap_map]
  unfold read?
  rw [hlength, String.toList_append, readBody?_of_all_plain h, hbody]
  show some (sequenceOf (_ : List Pattern)) = _
  rw [hitems]

/-- **The pattern `dir.*` selects the paths that `dir` is a piece of**, where no character of `dir`
is special. -/
theorem selects_under {dir : String} (h : ∀ c ∈ dir.toList, c ∉ specials) :
    ∃ selects, reader (dir ++ ".*") = .ok selects ∧
      ∀ path, selects path = true ↔ dir.toList <:+: path.toList := by
  refine ⟨(sequenceOf (dir.toList.map literal ++ [restOfLine])).occursIn, ?_, fun path => ?_⟩
  · unfold reader
    rw [read?_under h]
  · rw [occursIn_iff, List.infix_iff_prefix_suffix]
    constructor
    · rintro ⟨i, -, j, hmatches⟩
      exact ⟨_, ((matches_literals _).1 hmatches).1, List.drop_suffix i _⟩
    · rintro ⟨rest, hprefix, hsuffix⟩
      -- nothing needs to follow
      have hrest : Matches path.toList.toArray restOfLine
          (path.toList.length - rest.length + dir.toList.length)
          (path.toList.length - rest.length + dir.toList.length) := ⟨0, le_rfl, nofun, rfl⟩
      refine ⟨_, Nat.sub_le _ rest.length, _, (matches_literals _).2 ⟨?_, hrest⟩⟩
      rw [← List.suffix_iff_eq_drop.1 hsuffix]
      exact hprefix

end MountKeeper.Pattern
