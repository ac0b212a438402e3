import MountKeeper.Proofs.Text.Line
import Mathlib.Data.List.Infix
import Mathlib.Data.List.TakeWhile

/-! # Pieces of texts

What it means that a piece or a word was found in a text.

* `occursIn_iff`: a piece occurs where it is a part of the text.
* `afterLast?_append_of_notMem`: the last occurrence of a piece is the one behind which there is none,
  if no two occurrences of the piece can overlap.
* `IsWordOf w cs`: `w` stands in `cs` between blanks. `mem_words_iff`: the words of a text are what
  stands in it so.
* `trimEnd_append`, `trimStart_append_cons`: the blanks at the ends of a text are those of its first
  and of its last part. -/

namespace MountKeeper.Text

variable {piece cs w : List Char}

/-! ## Occurrences -/

/-- `dropFront? piece cs` is undefined if and only if `cs` does not begin with `piece`. -/
theorem dropFront?_eq_none_iff : dropFront? piece cs = none ↔ ¬ piece <+: cs := by
  rw [← not_iff_not, not_not, ← ne_eq, Option.ne_none_iff_exists']
  constructor
  · rintro ⟨rest, h⟩
    exact ⟨rest, (dropFront?_eq_some_iff.1 h).symm⟩
  · rintro ⟨rest, h⟩
    exact ⟨rest, dropFront?_eq_some_iff.2 h.symm⟩

/-- `occursIn piece cs` says that the piece is a part of the text, `piece <:+: cs`. -/
theorem occursIn_iff : occursIn piece cs = true ↔ piece <:+: cs := by
  induction cs with
  | nil => rw [occursIn, List.isEmpty_iff, List.infix_nil]
  | cons c cs ih =>
    rw [occursIn, Bool.or_eq_true, List.isPrefixOf_iff_prefix, ih, List.infix_cons_iff]

/-- `p :: ps` occurs in `front ++ cs` where it occurs in `cs`, if its first character is not in
`front`. -/
theorem infix_append_iff_of_notMem {p : Char} {ps front : List Char} (h : p ∉ front) :
    p :: ps <:+: front ++ cs ↔ p :: ps <:+: cs := by
  induction front with
  | nil => rw [List.nil_append]
  | cons c front ih =>
    rw [List.mem_cons, not_or] at h
    rw [List.cons_append, List.infix_cons_iff, ih h.2, List.cons_prefix_cons]
    exact or_iff_right fun hc => h.1 hc.1

/-- `piece` occurs in `cs ++ [c]` where it occurs in `cs`, if it has no `c`. -/
theorem infix_concat_iff_of_notMem {c : Char} (h : c ∉ piece) :
    piece <:+: cs ++ [c] ↔ piece <:+: cs := by
  rw [List.infix_concat_iff, List.suffix_concat_iff]
  constructor
  · rintro ((rfl | ⟨front, rfl, -⟩) | hin)
    · exact List.nil_infix
    · exact absurd (List.mem_append_right _ List.mem_cons_self) h
    · exact hin
  · exact .inr

/-- `afterLast? piece cs` is undefined if and only if `piece` does not stand in `cs`. -/
theorem afterLast?_eq_none_iff : afterLast? piece cs = none ↔ ¬ piece <:+: cs := by
  induction cs with
  | nil => rw [afterLast?, dropFront?_eq_none_iff, List.prefix_nil, List.infix_nil]
  | cons c cs ih =>
    rw [afterLast?, List.infix_cons_iff, not_or, ← ih, ← dropFront?_eq_none_iff]
    cases afterLast? piece cs <;> simp

/-- `afterLast? piece` does not depend on what stands in front of a text with the piece in it. -/
theorem afterLast?_append {rest : List Char} (h : afterLast? piece cs = some rest)
    (front : List Char) : afterLast? piece (front ++ cs) = some rest := by
  induction front with
  | nil => exact h
  | cons c front ih => rw [List.cons_append, afterLast?, ih]

/-- **The last occurrence of a piece**: behind it, in `rest`, there is none, and it cannot overlap
with another one, since its first character does not come again in it. -/
theorem afterLast?_append_of_notMem {p : Char} {ps rest : List Char} (hp : p ∉ ps)
    (hrest : ¬ p :: ps <:+: rest) (front : List Char) :
    afterLast? (p :: ps) (front ++ (p :: ps ++ rest)) = some rest := by
  refine afterLast?_append ?_ front
  have hlater : afterLast? (p :: ps) (ps ++ rest) = none := by
    rw [afterLast?_eq_none_iff, infix_append_iff_of_notMem hp]
    exact hrest
  rw [List.cons_append, afterLast?, hlater]
  exact dropFront?_append (p :: ps) rest

/-! ## Words -/

/-- A word that stands in a text, with blanks or the ends of the text around it. -/
structure IsWordOf (w cs : List Char) : Prop where
  ne_nil : w ≠ []
  solid : ∀ c ∈ w, isBlank c = false
  stands : ∃ front back, cs = front ++ w ++ back ∧ (∀ c ∈ front.getLast?, isBlank c = true) ∧
    ∀ c ∈ back.head?, isBlank c = true

/-- `words (front ++ b :: back)`: a text is cut into words at each of its blanks. -/
theorem words_append_blank_cons {b : Char} (hb : isBlank b = true) (front back : List Char) :
    words (front ++ b :: back) = words front ++ words back := by
  rw [words, List.splitOnP_append_cons front back hb, List.filter_append]
  rfl

/-- `words cs` of a text without blanks is `[cs]`, or nothing. -/
theorem words_of_solid (h : ∀ c ∈ cs, isBlank c = false) :
    words cs = if cs = [] then [] else [cs] := by
  rw [words, List.splitOnP_eq_singleton h]
  cases cs <;> rfl

/-- A word stays a word when a blank and anything else is put behind the text. -/
theorem IsWordOf.append_blank (h : IsWordOf w cs) {b : Char} (hb : isBlank b = true)
    (back : List Char) : IsWordOf w (cs ++ b :: back) := by
  obtain ⟨hne, hsolid, front, behind, rfl, hfront, hbehind⟩ := h
  refine ⟨hne, hsolid, front, behind ++ b :: back, by simp, hfront, fun c hc => ?_⟩
  cases behind with
  | nil => exact Option.some.inj hc ▸ hb
  | cons d behind => exact hbehind c hc

/-- A word stays a word when anything and a blank is put before the text. -/
theorem IsWordOf.blank_append (h : IsWordOf w cs) {b : Char} (hb : isBlank b = true)
    (front : List Char) : IsWordOf w (front ++ b :: cs) := by
  obtain ⟨hne, hsolid, before, back, rfl, hbefore, hback⟩ := h
  refine ⟨hne, hsolid, front ++ b :: before, back, by simp, fun c hc => ?_, hback⟩
  rcases List.eq_nil_or_concat before with rfl | ⟨before, d, rfl⟩
  · rw [List.getLast?_concat] at hc
    exact Option.some.inj hc ▸ hb
  · refine hbefore c ?_
    rw [List.concat_eq_append, List.getLast?_concat]
    rw [List.concat_eq_append, ← List.cons_append, ← List.append_assoc, List.getLast?_concat] at hc
    exact hc

/-- `words (w ++ back)`: a word in front of a blank or of the end is cut off there. -/
theorem words_append_of_head? (hne : w ≠ []) (hsolid : ∀ c ∈ w, isBlank c = false)
    {back : List Char} (hback : ∀ c ∈ back.head?, isBlank c = true) :
    words (w ++ back) = w :: words back := by
  cases back with
  | nil => rw [List.append_nil, words_of_solid hsolid, if_neg hne, words_nil]
  | cons b back =>
    have hb := hback b rfl
    rw [words_append_blank hsolid hne hb, words_blank_cons hb]

/-- **The words of a text** are what stands in it between blanks: `w ∈ words cs ↔ IsWordOf w cs`. -/
theorem mem_words_iff : w ∈ words cs ↔ IsWordOf w cs := by
  constructor
  · -- a text with a blank is cut there into two shorter ones
    intro hw
    induction hlen : cs.length using Nat.strongRecOn generalizing cs with
    | ind n ih =>
      by_cases hblank : ∃ b ∈ cs, isBlank b = true
      · obtain ⟨b, hmem, hb⟩ := hblank
        obtain ⟨front, back, rfl⟩ := List.append_of_mem hmem
        rw [List.length_append, List.length_cons] at hlen
        rw [words_append_blank_cons hb, List.mem_append] at hw
        rcases hw with hw | hw
        · exact (ih _ (by omega) hw rfl).append_blank hb back
        · exact (ih _ (by omega) hw rfl).blank_append hb front
      · have hsolid : ∀ c ∈ cs, isBlank c = false := fun c hc =>
          Bool.eq_false_iff.2 fun hb => hblank ⟨c, hc, hb⟩
        rw [words_of_solid hsolid] at hw
        split at hw
        · exact absurd hw List.not_mem_nil
        · next hne =>
          obtain rfl := List.mem_singleton.1 hw
          exact ⟨hne, hsolid, [], [], by simp, nofun, nofun⟩
  · rintro ⟨hne, hsolid, front, back, rfl, hfront, hback⟩
    have htail := words_append_of_head? hne hsolid hback
    rcases List.eq_nil_or_concat front with rfl | ⟨front, b, rfl⟩
    · rw [List.nil_append, htail]
      exact List.mem_cons_self
    · rw [List.concat_eq_append] at hfront ⊢
      have hb : isBlank b = true := hfront b List.getLast?_concat
      rw [List.append_assoc, List.append_assoc, List.singleton_append, words_append_blank_cons hb,
        htail]
      exact List.mem_append_right _ List.mem_cons_self

/-! ## Carriage returns -/

/-- `dropReturn (cs ++ [c])`: a line loses its last character if that is a carriage return. -/
theorem dropReturn_concat (cs : List Char) (c : Char) :
    dropReturn (cs ++ [c]) = if c = '\r' then cs else cs ++ [c] := by
  unfold dropReturn
  rw [List.reverse_append, List.reverse_singleton, List.singleton_append]
  split
  · next rest hrest =>
    obtain ⟨rfl, rfl⟩ := List.cons.inj hrest
    rw [if_pos rfl, List.reverse_reverse]
  · next hnot =>
    rw [if_neg]
    rintro rfl
    exact hnot _ rfl

/-- `dropReturn` takes away nothing, or a carriage return at the end. -/
theorem dropReturn_cases (cs : List Char) : dropReturn cs = cs ∨ cs = dropReturn cs ++ ['\r'] := by
  rcases List.eq_nil_or_concat cs with rfl | ⟨init, c, rfl⟩
  · exact .inl rfl
  · rw [List.concat_eq_append, dropReturn_concat]
    by_cases hc : c = '\r'
    · exact .inr (by rw [if_pos hc, hc])
    · exact .inl (if_neg hc)

/-- `words (dropReturn cs) = words cs`: a carriage return is a blank, and so in none of the words.
-/
theorem words_dropReturn (cs : List Char) : words (dropReturn cs) = words cs := by
  rcases dropReturn_cases cs with h | h
  · rw [h]
  · conv_rhs => rw [h, words_append_blank_cons (by decide), words_nil, List.append_nil]

/-- A piece without a carriage return occurs in `dropReturn cs` where it occurs in `cs`. -/
theorem infix_dropReturn_iff (h : '\r' ∉ piece) : piece <:+: dropReturn cs ↔ piece <:+: cs := by
  rcases dropReturn_cases cs with hcs | hcs
  · rw [hcs]
  · conv_rhs => rw [hcs, infix_concat_iff_of_notMem h]

/-- `dropReturn (front ++ back)`: what a line loses is lost from its last part. -/
theorem dropReturn_append (front : List Char) {back : List Char} (h : back ≠ []) :
    dropReturn (front ++ back) = front ++ dropReturn back := by
  obtain ⟨init, c, rfl⟩ := (List.eq_nil_or_concat back).resolve_left h
  rw [List.concat_eq_append, ← List.append_assoc, dropReturn_concat, dropReturn_concat]
  split
  · rfl
  · rw [List.append_assoc]

/-! ## Blanks at the ends -/

/-- `trimEnd (front ++ back)` for a `back` that is not all blank: the blanks at the end of `front`
stay. -/
theorem trimEnd_append {back : List Char} (h : ∃ c ∈ back, isBlank c = false) (front : List Char) :
    trimEnd (front ++ back) = front ++ trimEnd back := by
  obtain ⟨c, hc, hblank⟩ := h
  have hkept : back.reverse.dropWhile isBlank ≠ [] := by
    intro hnil
    rw [List.dropWhile_eq_nil_iff] at hnil
    rw [hnil c (List.mem_reverse.2 hc)] at hblank
    cases hblank
  rw [trimEnd, trimEnd, List.reverse_append, List.dropWhile_append, if_neg (by simpa using hkept),
    List.reverse_append, List.reverse_reverse]

/-- `trimEnd (front ++ back)` for a `back` that is all blank. -/
theorem trimEnd_append_of_blank {back : List Char} (h : ∀ c ∈ back, isBlank c = true)
    (front : List Char) : trimEnd (front ++ back) = trimEnd front := by
  have hgone : back.reverse.dropWhile isBlank = [] :=
    List.dropWhile_eq_nil_iff.2 fun c hc => h c (List.mem_reverse.1 hc)
  rw [trimEnd, trimEnd, List.reverse_append, List.dropWhile_append, hgone]
  rfl

/-- `trimEnd cs ≠ []` says that `cs` is not all blank. -/
theorem exists_not_blank_of_trimEnd (h : trimEnd cs ≠ []) : ∃ c ∈ cs, isBlank c = false := by
  by_contra hnone
  have hblank : ∀ c ∈ cs, isBlank c = true := fun c hc =>
    Bool.not_eq_false _ ▸ fun hb => hnone ⟨c, hc, hb⟩
  exact h (trimEnd_append_of_blank hblank [])

/-- `trimStart (front ++ c :: back)` for a `c` that is no blank: the blanks at the start of `back`
stay. -/
theorem trimStart_append_cons {c : Char} (hc : isBlank c = false) (front back : List Char) :
    trimStart (front ++ c :: back) = trimStart front ++ c :: back := by
  rw [trimStart, trimStart, List.dropWhile_append]
  split
  · next hnil =>
    rw [List.isEmpty_iff.1 hnil, List.nil_append, List.dropWhile_cons, hc, if_neg (by decide)]
  · rfl

/-- `trimEnd cs` is a front part of `cs`. -/
theorem trimEnd_isPrefix (cs : List Char) : trimEnd cs <+: cs := by
  have hback := List.reverse_prefix.2 (List.dropWhile_suffix (l := cs.reverse) isBlank)
  rwa [List.reverse_reverse] at hback

end MountKeeper.Text
