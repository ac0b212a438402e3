import MountKeeper.Proofs.Launcher.Arrangement
import MountKeeper.Proofs.Launcher.Pieces

/-! # What responses say

Which strings and pairs are read from any bytes that come back, and that a list of instances is read
as it is, whether or not it was cut off at the end.

* `payload_of_succeeds`: a response that starts with `$` is read as what stands between its zero
  words, and every other one is refused (`payload_of_not_succeeds`).
* `pairUp?_eq_some_iff`: strings are taken two at a time, which an odd number of them cannot be.
* `listing` are the bytes of a list of instances, with or without the last zero word, and
  `pairs_listing` reads them.
* `listing_is_read` has all of this together, and what the mount table of a launcher makes of it. -/

namespace MountKeeper.Launcher

open MountLauncher (ownInstances)

/-! ## Strings -/

/-- The strings that stand between zero words, empty ones left out. -/
def textsBetween (ws : List UInt16) : List String :=
  ((ws.splitOn 0).filter (· ≠ [])).map fun p => String.ofList (Utf16.decode p)

/-- `pieces ws` and `ws.splitOn 0` have the same pieces that are not empty. -/
theorem filter_pieces (ws : List UInt16) :
    ((pieces ws).filter fun p => !p.isEmpty) = (ws.splitOn 0).filter (· ≠ []) := by
  induction ws using pieceInduction with
  | piece xs hxs =>
    by_cases hne : xs = []
    · rw [hne]
      rfl
    · rw [pieces_of_zero_not_mem hxs hne, List.splitOn_eq_singleton hxs]
      simp [hne]
  | cut xs rest hxs ih =>
    rw [pieces_cut hxs, List.splitOn_append_cons_self, List.splitOn_eq_singleton hxs,
      List.singleton_append, List.filter_cons, List.filter_cons, ih]
    simp

/-- `filledStrings` is `textsBetween`: to drop the empty pieces before or after reading them is the
same. -/
theorem filledStrings_eq (ws : List UInt16) : filledStrings ws = textsBetween ws := by
  rw [filledStrings, filter_pieces, textsBetween]

/-- `textsBetween (ws ++ [0]) = textsBetween ws`: a zero word at the end makes no difference. -/
theorem textsBetween_append_zero (ws : List UInt16) :
    textsBetween (ws ++ [0]) = textsBetween ws := by
  rw [textsBetween, List.splitOn_append_cons_self, List.splitOn_nil, List.filter_append]
  simp [textsBetween]

/-! ## Responses -/

/-- Whether bytes start with the word of a response that reports success. -/
def Succeeds (bytes : List UInt8) : Prop :=
  bytes.take 2 = [UInt8.ofNat '$'.toNat, 0]

instance (bytes : List UInt8) : Decidable (Succeeds bytes) :=
  inferInstanceAs (Decidable (bytes.take 2 = _))

/-- `payload` of a response that `Succeeds` is `textsBetween` of its body. -/
theorem payload_of_succeeds (op : Opcode) {bytes : List UInt8} (h : Succeeds bytes) :
    payload op bytes = .ok (textsBetween (body bytes)) := by
  have hwords : wordsOf bytes = success :: body bytes :=
    (wordsOf_eq_cons_iff bytes success _).2 ⟨h, rfl⟩
  rw [payload, hwords, ← filledStrings_eq]
  rfl

/-- `payload` of every other response is a protocol error. -/
theorem payload_of_not_succeeds (op : Opcode) {bytes : List UInt8} (h : ¬ Succeeds bytes) :
    ∃ detail, payload op bytes = .error (.protocol op.name detail) := by
  unfold payload
  cases hwords : wordsOf bytes with
  | nil => exact ⟨_, rfl⟩
  | cons status rest =>
    have hstatus : status ≠ success := by
      rintro rfl
      exact h ((wordsOf_eq_cons_iff bytes success rest).1 hwords).1
    dsimp only
    rw [if_neg hstatus]
    by_cases hrefusal : status = refusal
    · rw [if_pos hrefusal]
      exact ⟨_, rfl⟩
    · rw [if_neg hrefusal]
      exact ⟨_, rfl⟩

/-! ## Pairs -/

/-- **Strings taken two at a time**: `pairUp? ss = some ps` if and only if `ss` are the strings of
the pairs, one after the other. -/
theorem pairUp?_eq_some_iff (ss : List String) (ps : Instances) :
    pairUp? ss = some ps ↔ ss = ps.flatMap fun p => [p.1, p.2] := by
  constructor
  · intro h
    fun_induction pairUp? ss generalizing ps with
    | case1 =>
      obtain rfl := Option.some.inj h
      rfl
    | case2 a b rest ih =>
      obtain ⟨qs, hqs, rfl⟩ := Option.map_eq_some_iff.1 h
      rw [List.flatMap_cons, ← ih qs hqs]
      rfl
    | case3 a => exact absurd h (by simp)
  · rintro rfl
    exact pairUp?_flatMap ps

/-- `pairUp?` takes an even number of strings, and no odd one. -/
theorem exists_pairUp?_iff (ss : List String) : (∃ ps, pairUp? ss = some ps) ↔ Even ss.length := by
  fun_induction pairUp? ss with
  | case1 => exact iff_of_true ⟨[], rfl⟩ (by simp)
  | case2 a b rest ih =>
    rw [List.length_cons, List.length_cons, Nat.even_add_one, Nat.even_add_one, not_not, ← ih]
    constructor
    · rintro ⟨ps, h⟩
      obtain ⟨qs, hqs, -⟩ := Option.map_eq_some_iff.1 h
      exact ⟨qs, hqs⟩
    · rintro ⟨qs, hqs⟩
      exact ⟨(a, b) :: qs, by rw [hqs]; rfl⟩
  | case3 a => exact iff_of_false (by simp) (by simp)

/-- `pairs` of a list response that `Succeeds`, when its strings make up pairs. -/
theorem pairs_of_even {bytes : List UInt8} (h : Succeeds bytes)
    (heven : Even (textsBetween (body bytes)).length) :
    ∃ ps, pairs bytes = .ok ps ∧ textsBetween (body bytes) = ps.flatMap fun p => [p.1, p.2] := by
  obtain ⟨ps, hps⟩ := (exists_pairUp?_iff _).2 heven
  refine ⟨ps, ?_, (pairUp?_eq_some_iff _ ps).1 hps⟩
  rw [pairs, payload_of_succeeds .list h]
  dsimp only
  rw [hps]

/-- `pairs` of every other list response is a protocol error. -/
theorem pairs_eq_error {bytes : List UInt8}
    (h : ¬ (Succeeds bytes ∧ Even (textsBetween (body bytes)).length)) :
    ∃ detail, pairs bytes = .error (.protocol "list" detail) := by
  by_cases hsucceeds : Succeeds bytes
  · have hnone : pairUp? (textsBetween (body bytes)) = none := by
      cases hps : pairUp? (textsBetween (body bytes)) with
      | none => rfl
      | some ps => exact absurd ⟨hsucceeds, (exists_pairUp?_iff _).1 ⟨ps, hps⟩⟩ h
    rw [pairs, payload_of_succeeds .list hsucceeds]
    dsimp only
    rw [hnone]
    exact ⟨_, rfl⟩
  · obtain ⟨detail, hdetail⟩ := payload_of_not_succeeds .list hsucceeds
    rw [pairs, hdetail]
    exact ⟨detail, rfl⟩

/-! ## Listings -/

/-- The words of some instances. -/
def instanceWords (ps : Instances) : List UInt16 :=
  ps.flatMap fun p => terminated p.1 ++ terminated p.2

/-- The bytes of a response that lists instances, with the last zero word or cut off before it. -/
def listing (ps : Instances) (complete : Bool) : List UInt8 :=
  bytesOf (success :: if complete then instanceWords ps else (instanceWords ps).dropLast)

/-- The words of some instances are those of their classes and names, each with a zero behind it. -/
theorem instanceWords_eq (ps : Instances) :
    instanceWords ps = (ps.flatMap fun p => [p.1, p.2]).flatMap terminated := by
  rw [instanceWords, List.flatMap_assoc]
  simp

/-- `textsBetween` does not change when the last word of some instances is dropped. -/
theorem textsBetween_dropLast (ss : List String) :
    textsBetween (ss.flatMap terminated).dropLast = textsBetween (ss.flatMap terminated) := by
  rcases List.eq_nil_or_concat ss with rfl | ⟨front, s, rfl⟩
  · rfl
  · -- the last word is the one that ends the last string
    have hlast : (front.concat s).flatMap terminated
        = (front.flatMap terminated ++ Utf16.encode s.toList) ++ [0] := by
      rw [List.concat_eq_append, List.flatMap_append, List.flatMap_singleton, terminated,
        List.append_assoc]
    rw [hlast, List.dropLast_concat, textsBetween_append_zero]

/-- **A list of instances is read as it is** by `pairs`, with the last zero word or without, and
with a byte left over at the end or without. -/
theorem pairs_listing {ps : Instances} (hps : ∀ p ∈ ps, Listable p) (complete : Bool)
    {stray : List UInt8} (hstray : stray.length ≤ 1) :
    pairs (listing ps complete ++ stray) = .ok ps := by
  obtain ⟨htake, hbody⟩ := (wordsOf_eq_cons_iff _ success _).1
    (wordsOf_bytesOf_append (success :: if complete then instanceWords ps
      else (instanceWords ps).dropLast) hstray)
  have hfilled : ∀ s ∈ ps.flatMap (fun p => [p.1, p.2]), NulFree s ∧ s ≠ "" := by
    intro s hs
    obtain ⟨p, hp, hmem⟩ := List.mem_flatMap.1 hs
    rcases List.mem_pair.1 hmem with rfl | rfl
    · exact (hps p hp).1
    · exact (hps p hp).2
  have htexts : textsBetween (body (listing ps complete ++ stray))
      = ps.flatMap fun p => [p.1, p.2] := by
    rw [listing, ← hbody, instanceWords_eq]
    cases complete with
    | true => rw [if_pos rfl, ← filledStrings_eq, filledStrings_flatMap_terminated hfilled]
    | false =>
      -- without the last terminator the last text is still one: what ends it is the end of the
      -- answer
      rw [if_neg (by simp), textsBetween_dropLast, ← filledStrings_eq,
        filledStrings_flatMap_terminated hfilled]
  have hsucceeds : Succeeds (listing ps complete ++ stray) := htake
  rw [pairs, payload_of_succeeds .list hsucceeds, htexts]
  dsimp only
  rw [pairUp?_flatMap]

/-! ## Mounts -/

section

variable {σ : Type} {exchange : List UInt8 → Act σ (List UInt8)} {s s' : σ} {answer : List UInt8}
  {ps : Instances}

/-- `table.list` of a launcher lists `ownInstances ps`, when the launcher lists `ps`. -/
theorem runOn_table_list (hexchange : (exchange Request.list.encode).runOn s = (.ok answer, s'))
    (hpairs : pairs answer = .ok ps) :
    (MountLauncher.ofExchange exchange).table.list.runOn s = (.ok (ownInstances ps), s') := by
  have hlist : (MountLauncher.ofExchange exchange).list.runOn s = (.ok ps, s') := by
    show (exchange Request.list.encode >>= _).runOn s = _
    rw [Act.runOn_bind, hexchange]
    dsimp only
    rw [hpairs]
    rfl
  show ((MountLauncher.ofExchange exchange).list >>= fun ps => pure (ownInstances ps)).runOn s = _
  rw [Act.runOn_bind, hlist]
  rfl

/-- `table.isMounted key` goes by `ownInstances ps`, when the launcher lists `ps`. -/
theorem runOn_table_isMounted
    (hexchange : (exchange Request.list.encode).runOn s = (.ok answer, s'))
    (hpairs : pairs answer = .ok ps) (key : SessionKey) :
    ((MountLauncher.ofExchange exchange).table.isMounted key).runOn s
      = (.ok (MountTable.lists (ownInstances ps) key), s') := by
  unfold MountTable.isMounted
  rw [Act.runOn_bind, runOn_table_list hexchange hpairs]
  rfl

/-- `MountTable.lists (ownInstances ps) key` says that one of our instances has that key. -/
theorem lists_ownInstances_iff (ps : Instances) (key : SessionKey) :
    MountTable.lists (ownInstances ps) key = true ↔
      ∃ name, (ownClass, name) ∈ ps ∧ SessionKey.ofPath name = key := by
  unfold MountTable.lists
  rw [List.any_eq_true]
  simp only [mem_ownInstances, beq_iff_eq]

end

/-- **Responses and mounts.** A response that does not start with `$` is refused, and every other one is
read as what stands between its zero words; a list response is refused as well when that is an odd
number of strings, and read as their pairs otherwise. So instances whose class and name are neither
empty nor hold NUL are read as they are from their listing, cut off or not; the mounts are then the
names of those of class `cloudfuse`, in order, and a path is mounted when one of them has its key. -/
theorem listing_is_read (op : Opcode) (bytes : List UInt8) :
    (¬ Succeeds bytes → ∃ detail, payload op bytes = .error (.protocol op.name detail)) ∧
    (Succeeds bytes → payload op bytes = .ok (textsBetween (body bytes))) ∧
    (¬ (Succeeds bytes ∧ Even (textsBetween (body bytes)).length) →
      ∃ detail, pairs bytes = .error (.protocol "list" detail)) ∧
    (Succeeds bytes → Even (textsBetween (body bytes)).length →
      ∃ ps, pairs bytes = .ok ps ∧
        textsBetween (body bytes) = ps.flatMap fun p => [p.1, p.2]) ∧
    ∀ (ps : Instances) (complete : Bool) (stray : List UInt8),
      (∀ p ∈ ps, Listable p) → stray.length ≤ 1 →
      pairs (listing ps complete ++ stray) = .ok ps ∧
      ∀ (σ : Type) (exchange : List UInt8 → Act σ (List UInt8)) (s s' : σ),
        (exchange Request.list.encode).runOn s = (.ok (listing ps complete ++ stray), s') →
        (MountLauncher.ofExchange exchange).table.list.runOn s
          = (.ok ((ps.filter fun p => p.1 == "cloudfuse").map (·.2)), s') ∧
        ∀ path, ∃ mounted,
          ((MountLauncher.ofExchange exchange).table.isMounted (.ofPath path)).runOn s
            = (.ok mounted, s') ∧
          (mounted = true ↔
            ∃ name, ("cloudfuse", name) ∈ ps ∧ SessionKey.ofPath name = SessionKey.ofPath path) := by
  refine ⟨payload_of_not_succeeds op, payload_of_succeeds op, pairs_eq_error, pairs_of_even, ?_⟩
  intro ps complete stray hps hstray
  -- both questions about the table go through `pairs`, so one reading answers them
  have hpairs := pairs_listing hps complete hstray
  refine ⟨hpairs, fun σ exchange s s' hexchange => ⟨runOn_table_list hexchange hpairs, ?_⟩⟩
  intro path
  exact ⟨_, runOn_table_isMounted hexchange hpairs _, lists_ownInstances_iff ps _⟩

/-- Three instances, one of them of another class and one with a name beyond `U+FFFF`. -/
def threeInstances : Instances :=
  [("cloudfuse", "/mnt/😀"), ("other", "/mnt/b"), ("cloudfuse", "C:/data")]

/-- `threeInstances` are read from a listing that was cut off and has a byte left over. -/
theorem listing_is_read_threeInstances :
    (∀ p ∈ threeInstances, Listable p) ∧
    pairs (listing threeInstances false ++ [7]) = .ok threeInstances := by
  have hall : ∀ p ∈ threeInstances, Listable p := by
    unfold Listable
    decide
  exact ⟨hall, ((listing_is_read .list []).2.2.2.2 threeInstances false [7] hall (by simp)).1⟩

end MountKeeper.Launcher
