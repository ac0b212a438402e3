import MountKeeper.Launcher.Wire
import MountKeeper.Proofs.Text.Utf16

/-! # Messages on the launcher's wire

What is written for the launcher is read back, and what cannot be read back is refused.

* `pieces_append_zero`: a zero word ends a piece, whatever follows it.
* `strings_flatMap_terminated`: terminated strings without NUL are cut apart where they were joined;
  with NUL there are more pieces (`length_strings_flatMap_terminated`).
* `Request.decode_encode_eq`: a request is read back exactly when no string of it holds NUL, and
  every other request is refused.
* `pairs_response`: a list response is read as the pairs it was written for. -/

namespace MountKeeper.Launcher

/-! ## Pieces between zero words -/

/-- Nothing has no pieces. -/
@[simp] theorem pieces_nil : pieces [] = [] := by
  simp [pieces]

/-- `pieces (xs ++ 0 :: rest)`: a zero word ends a piece, whatever follows it. -/
theorem pieces_append_zero (xs rest : List UInt16) :
    pieces (xs ++ 0 :: rest) = xs.splitOn 0 ++ pieces rest := by
  have hne : (xs ++ 0 :: rest).isEmpty = false := by simp
  unfold pieces
  rw [List.splitOn_append_cons_self, hne]
  -- the last word, which decides whether the last piece counts, is that of `rest` if it has one
  -- the last word, which decides whether the last piece counts, is that of `rest` if it has one
  cases rest with
  | nil => simp
  | cons w ws =>
    have hlast : (xs ++ 0 :: w :: ws).getLast? = (w :: ws).getLast? := by
      simp [List.getLast?_append, List.getLast?_cons]
    rw [hlast, show (w :: ws).isEmpty = false from rfl]
    simp only [Bool.false_or]
    by_cases hz : ((w :: ws).getLast? == some 0) = true
    · rw [if_pos hz, if_pos hz, List.dropLast_append_of_ne_nil (List.splitOn_ne_nil _ _)]
    · rw [if_neg hz, if_neg hz]

/-- `xs.splitOn a` has one piece more than `xs` has `a`. -/
theorem length_splitOn (a : UInt16) (xs : List UInt16) :
    (xs.splitOn a).length = xs.count a + 1 := by
  induction xs with
  | nil => simp
  | cons x xs ih =>
    rw [List.splitOn_cons_eq_if_modifyHead, List.count_cons]
    by_cases hx : (x == a) = true
    · rw [if_pos hx, if_pos hx, List.length_cons, ih]
    · rw [if_neg hx, if_neg hx, List.length_modifyHead, ih]

/-! ## Terminated strings -/

/-- Whether a string can be told apart on the wire: it does not hold the character that ends it. -/
def NulFree (s : String) : Prop :=
  '\x00' ∉ s.toList

instance (s : String) : Decidable (NulFree s) :=
  inferInstanceAs (Decidable (¬ '\x00' ∈ s.toList))

/-- The number of NUL characters in some strings. -/
def nulCount (ss : List String) : Nat :=
  (ss.flatMap String.toList).count '\x00'

/-- `nulCount` of a list, string by string. -/
theorem nulCount_cons (s : String) (ss : List String) :
    nulCount (s :: ss) = s.toList.count '\x00' + nulCount ss := by
  rw [nulCount, List.flatMap_cons, List.count_append, nulCount]

/-- `nulCount ss = 0` says that every string is `NulFree`. -/
theorem nulCount_eq_zero_iff (ss : List String) : nulCount ss = 0 ↔ ∀ s ∈ ss, NulFree s := by
  simp only [nulCount, List.count_eq_zero, List.mem_flatMap, not_exists, not_and, NulFree]

/-- The pieces of terminated strings are those of each string, split at the zeros inside of it. -/
theorem pieces_flatMap_terminated (ss : List String) :
    pieces (ss.flatMap terminated) = ss.flatMap fun s => (Utf16.encode s.toList).splitOn 0 := by
  induction ss with
  | nil => simp
  | cons s ss ih =>
    rw [List.flatMap_cons, List.flatMap_cons, terminated, List.append_assoc, List.cons_append,
      List.nil_append, pieces_append_zero, ih]

/-- A `NulFree` string is one piece. -/
theorem pieces_of_nulFree {ss : List String} (h : ∀ s ∈ ss, NulFree s) :
    pieces (ss.flatMap terminated) = ss.map fun s => Utf16.encode s.toList := by
  rw [pieces_flatMap_terminated]
  induction ss with
  | nil => rfl
  | cons s ss ih =>
    have hs := Utf16.zero_not_mem_encode (h s List.mem_cons_self)
    rw [List.flatMap_cons, List.splitOn_eq_singleton hs, List.map_cons,
      ih fun t ht => h t (List.mem_cons_of_mem s ht), List.singleton_append]

/-- `decode` undoes `encode` on the words of a string. -/
theorem ofList_decode_encode (s : String) :
    String.ofList (Utf16.decode (Utf16.encode s.toList)) = s := by
  rw [Utf16.decode_encode, String.ofList_toList]

/-- **Strings without NUL are cut apart where they were joined**: `strings` undoes `flatMap
terminated`, empty strings included. -/
theorem strings_flatMap_terminated {ss : List String} (h : ∀ s ∈ ss, NulFree s) :
    strings (ss.flatMap terminated) = ss := by
  unfold strings
  rw [pieces_of_nulFree h, List.map_map]
  calc ss.map _ = ss.map id := List.map_congr_left fun s _ => ofList_decode_encode s
    _ = ss := List.map_id ss

/-- **Every NUL makes one string more**: there are `ss.length + nulCount ss`. -/
theorem length_strings_flatMap_terminated (ss : List String) :
    (strings (ss.flatMap terminated)).length = ss.length + nulCount ss := by
  rw [strings, List.length_map, pieces_flatMap_terminated]
  induction ss with
  | nil => rfl
  | cons s ss ih =>
    -- a string with some NULs is cut into one piece more than that
    -- a string with some NULs is cut into one piece more than that
    rw [List.flatMap_cons, List.length_append, length_splitOn, Utf16.count_zero_encode, ih,
      List.length_cons, nulCount_cons]
    omega

/-- `filledStrings` undoes `flatMap terminated` where no string is empty, though it leaves empty
pieces out. -/
theorem filledStrings_flatMap_terminated {ss : List String}
    (h : ∀ s ∈ ss, NulFree s ∧ s ≠ "") : filledStrings (ss.flatMap terminated) = ss := by
  have hfilled : ∀ p ∈ ss.map (fun s => Utf16.encode s.toList), (!p.isEmpty) = true := by
    intro p hp
    obtain ⟨s, hs, rfl⟩ := List.mem_map.1 hp
    have hne : s.toList ≠ [] := fun he => (h s hs).2 (String.toList_eq_nil_iff.1 he)
    simpa using Utf16.encode_ne_nil hne
  unfold filledStrings
  rw [pieces_of_nulFree fun s hs => (h s hs).1, List.filter_eq_self.2 hfilled, List.map_map]
  calc ss.map _ = ss.map id := List.map_congr_left fun s _ => ofList_decode_encode s
    _ = ss := List.map_id ss

/-! ## Requests -/

/-- `ofCode?` finds every opcode by its word. -/
@[simp] theorem Opcode.ofCode?_code (op : Opcode) : Opcode.ofCode? op.code = some op := by
  cases op <;> decide

namespace Request

/-- Whether the launcher can tell the strings of a request apart. -/
def NulFree (r : Request) : Prop :=
  ∀ s ∈ r.fields, Launcher.NulFree s

instance (r : Request) : Decidable r.NulFree :=
  inferInstanceAs (Decidable (∀ s ∈ r.fields, Launcher.NulFree s))

/-- `r.fields` has as many strings as its opcode asks for. -/
theorem length_fields (r : Request) : r.fields.length = r.opcode.arity := by
  cases r <;> rfl

/-- `ofFields?` undoes `fields`: a request is what its opcode and its strings say. -/
theorem ofFields?_fields (r : Request) : ofFields? r.opcode r.fields = some r := by
  cases r <;> rfl

/-- Only the right number of strings makes a request, `op.arity`. -/
theorem length_of_ofFields? {op : Opcode} {ss : List String} {r : Request}
    (h : ofFields? op ss = some r) : ss.length = op.arity := by
  unfold ofFields? at h
  split at h
  · rfl
  · rfl
  · rfl
  · exact absurd h (by simp)

/-- `ofFields? op ss = none` for too many or too few strings. -/
theorem ofFields?_eq_none {op : Opcode} {ss : List String} (h : ss.length ≠ op.arity) :
    ofFields? op ss = none := by
  cases hr : ofFields? op ss with
  | none => rfl
  | some r => exact absurd (length_of_ofFields? hr) h

/-- A request that is not `NulFree` has a NUL to count. -/
theorem nulCount_pos {r : Request} (h : ¬ r.NulFree) : 0 < nulCount r.fields := by
  rw [Nat.pos_iff_ne_zero]
  intro hzero
  exact h ((nulCount_eq_zero_iff r.fields).1 hzero)

/-- What is said of a request whose strings hold NUL: each makes one string more. -/
def surplus (r : Request) : String :=
  r.opcode.name ++ " request carries "
    ++ Numeral.decimal (r.opcode.arity + nulCount r.fields) ++ " strings, expected "
    ++ Numeral.decimal r.opcode.arity

/-- `decode r.encode` in terms of the strings that are read: by their number they are a request with
the opcode of `r`, or are refused. -/
theorem decode_encode_by_opcode (r : Request) :
    decode r.encode = match ofFields? r.opcode (strings (r.fields.flatMap terminated)) with
      | some other => .ok other
      | none => .error (malformed (r.opcode.name ++ " request carries "
          ++ Numeral.decimal (strings (r.fields.flatMap terminated)).length
          ++ " strings, expected " ++ Numeral.decimal r.opcode.arity)) := by
  unfold decode encode
  rw [wordsOf_bytesOf]
  cases hfields : ofFields? r.opcode (strings (r.fields.flatMap terminated)) with
  | none => simp only [Opcode.ofCode?_code, hfields]
  | some other => simp only [Opcode.ofCode?_code, hfields]

/-- `decode r.encode` is `.ok r` for a `NulFree` request, and `r.surplus` for every other one: each
NUL makes a string too many. -/
theorem decode_encode_ite (r : Request) :
    decode r.encode = if r.NulFree then .ok r else .error (.protocol "decode" r.surplus) := by
  rw [decode_encode_by_opcode]
  by_cases hr : r.NulFree
  · rw [if_pos hr, strings_flatMap_terminated hr, ofFields?_fields]
  · -- each NUL adds a string, so that the number of strings fits no request
    have hlen := length_strings_flatMap_terminated r.fields
    rw [length_fields] at hlen
    have hpos := nulCount_pos hr
    have hnone : ofFields? r.opcode (strings (r.fields.flatMap terminated)) = none :=
      ofFields?_eq_none (by omega)
    rw [if_neg hr, hnone, hlen]
    rfl

/-- What `decode r.encode` reads is `r`, and its strings are free of NUL. -/
theorem eq_of_decode_encode {r other : Request} (h : decode r.encode = .ok other) :
    other = r ∧ r.NulFree := by
  rw [decode_encode_ite] at h
  by_cases hr : r.NulFree
  · rw [if_pos hr] at h
    exact ⟨(Except.ok.inj h).symm, hr⟩
  · rw [if_neg hr] at h
    exact absurd h (by simp)

/-- **Requests on the wire.** `decode r.encode` is `.ok r` where none of the strings holds NUL;
every other request is refused as malformed. So what is read is never another request. -/
theorem decode_encode_eq (r : Request) :
    (decode r.encode = if r.NulFree then .ok r else .error (.protocol "decode" r.surplus)) ∧
      ∀ other, decode r.encode = .ok other → other = r :=
  ⟨decode_encode_ite r, fun _ h => (eq_of_decode_encode h).1⟩

end Request

/-! ## Responses -/

/-- `pairUp?` takes pairs that were laid out one after the other two at a time again. -/
theorem pairUp?_flatMap (ps : List (String × String)) :
    pairUp? (ps.flatMap fun p => [p.1, p.2]) = some ps := by
  induction ps with
  | nil => rfl
  | cons p ps ih =>
    rw [List.flatMap_cons, List.cons_append, List.cons_append, List.nil_append, pairUp?, ih]
    rfl

/-- A response that reports `success` is read as its strings. -/
theorem payload_response_success (op : Opcode) {ss : List String}
    (h : ∀ s ∈ ss, NulFree s ∧ s ≠ "") : payload op (response success ss) = .ok ss := by
  unfold payload response
  rw [wordsOf_bytesOf]
  simp only [filledStrings_flatMap_terminated h, if_true]

/-- **A list response is read as the pairs it was written for**: `pairs` undoes `response success`.
-/
theorem pairs_response {ps : List (String × String)}
    (h : ∀ p ∈ ps, (NulFree p.1 ∧ p.1 ≠ "") ∧ NulFree p.2 ∧ p.2 ≠ "") :
    pairs (response success (ps.flatMap fun p => [p.1, p.2])) = .ok ps := by
  have hss : ∀ s ∈ ps.flatMap (fun p => [p.1, p.2]), NulFree s ∧ s ≠ "" := by
    intro s hs
    obtain ⟨p, hp, hmem⟩ := List.mem_flatMap.1 hs
    rcases List.mem_pair.1 hmem with rfl | rfl
    · exact (h p hp).1
    · exact (h p hp).2
  unfold pairs
  rw [payload_response_success .list hss]
  simp only [pairUp?_flatMap]

end MountKeeper.Launcher
