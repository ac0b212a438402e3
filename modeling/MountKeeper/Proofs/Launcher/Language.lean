import MountKeeper.Proofs.Launcher.Pieces

/-! # The language of requests

Which bytes are read as a request, whoever wrote them, and which of those are the written form of the
request that is read.

* `Request.WellFormed` says of bytes that they start with the letter of an opcode and carry as many
  strings as it asks for.
* `Request.decode_eq_ok_iff`: the request that is read has the opcode and the strings of the bytes.
* `flatMap_terminated_strings_iff`: words are those of their strings when every string is ended and
  no surrogate is without its partner.
* `Request.decode_language`: the bytes that are read, and those that are a written form. -/

namespace MountKeeper.Launcher

/-! ## Words that are written again as they were read -/

/-- Whether every string in words is ended by a zero word. -/
def Ended (ws : List UInt16) : Prop :=
  ws = [] ∨ ws.getLast? = some 0

/-- `Ended (xs ++ 0 :: rest) ↔ Ended rest`. -/
theorem ended_cut_iff (xs rest : List UInt16) : Ended (xs ++ 0 :: rest) ↔ Ended rest := by
  unfold Ended
  rw [getLast?_cut]
  cases hlast : rest.getLast? with
  | none => simp [List.getLast?_eq_none_iff.1 hlast]
  | some w =>
    have hne : rest ≠ [] := by
      rintro rfl
      exact absurd hlast (by simp)
    simp [hne]

/-- Written strings are ended. -/
theorem ended_flatMap_terminated (ss : List String) : Ended (ss.flatMap terminated) := by
  induction ss with
  | nil => exact .inl rfl
  | cons s ss ih =>
    rw [List.flatMap_cons, terminated, List.append_assoc, List.cons_append, List.nil_append,
      ended_cut_iff]
    exact ih

/-- What is written for a piece, its zero word included. -/
theorem terminated_ofList_decode (p : List UInt16) :
    terminated (String.ofList (Utf16.decode p)) = Utf16.encode (Utf16.decode p) ++ [0] := by
  rw [terminated, String.toList_ofList]

/-- Ended words are written again piece by piece as they would be in one. -/
theorem flatMap_terminated_strings {ws : List UInt16} (h : Ended ws) :
    (strings ws).flatMap terminated = Utf16.encode (Utf16.decode ws) := by
  induction ws using pieceInduction with
  | piece xs hxs =>
    -- a piece that is ended has no words
    rcases h with rfl | hlast
    · rfl
    · exact absurd (List.mem_of_getLast? hlast) hxs
  | cut xs rest hxs ih =>
    have hstrings : strings (xs ++ 0 :: rest)
        = String.ofList (Utf16.decode xs) :: strings rest := by
      rw [strings, pieces_cut hxs]
      rfl
    have hzero : Utf16.decode (0 :: rest) = '\x00' :: Utf16.decode rest :=
      Utf16.decode_cons_of_not_isHigh (by decide) rest
    rw [hstrings, List.flatMap_cons, terminated_ofList_decode, ih ((ended_cut_iff xs rest).1 h),
      Utf16.decode_append (by decide), hzero, Utf16.encode_append, Utf16.encode_cons,
      List.append_assoc]
    rfl

/-- **Words are those of their strings** when every string is ended and no surrogate is without its
partner. -/
theorem flatMap_terminated_strings_iff (ws : List UInt16) :
    (strings ws).flatMap terminated = ws ↔ Ended ws ∧ Utf16.Paired ws := by
  constructor
  · intro h
    have hended : Ended ws := by
      rw [← h]
      exact ended_flatMap_terminated (strings ws)
    rw [flatMap_terminated_strings hended] at h
    exact ⟨hended, (Utf16.encode_decode_iff ws).1 h⟩
  · rintro ⟨hended, hpaired⟩
    rw [flatMap_terminated_strings hended]
    exact (Utf16.encode_decode_iff ws).2 hpaired

/-! ## Opcodes and strings -/

/-- `Opcode.ofCode?` is the partial inverse of `Opcode.code`. -/
theorem Opcode.ofCode?_eq_some_iff (w : UInt16) (op : Opcode) :
    Opcode.ofCode? w = some op ↔ w = op.code := by
  constructor
  · intro h
    have hcode := List.find?_some h
    exact (beq_iff_eq.1 hcode).symm
  · rintro rfl
    exact Opcode.ofCode?_code op

namespace Request

/-- `ofFields? op ss = some r` says that `r` has the opcode and the strings. -/
theorem ofFields?_eq_some_iff (op : Opcode) (ss : List String) (r : Request) :
    ofFields? op ss = some r ↔ r.opcode = op ∧ r.fields = ss := by
  constructor
  · intro h
    unfold ofFields? at h
    split at h
    · obtain rfl := Option.some.inj h
      exact ⟨rfl, rfl⟩
    · obtain rfl := Option.some.inj h
      exact ⟨rfl, rfl⟩
    · obtain rfl := Option.some.inj h
      exact ⟨rfl, rfl⟩
    · exact absurd h (by simp)
  · rintro ⟨rfl, rfl⟩
    exact ofFields?_fields r

/-- There is a request with an opcode and strings when they are `op.arity` many. -/
theorem exists_fields_eq_iff (op : Opcode) (ss : List String) :
    (∃ r : Request, r.opcode = op ∧ r.fields = ss) ↔ ss.length = op.arity := by
  constructor
  · rintro ⟨r, rfl, rfl⟩
    exact length_fields r
  · intro h
    cases op with
    | start =>
      obtain ⟨c, i, m, f, rfl⟩ : ∃ c i m f, ss = [c, i, m, f] := by
        match ss, h with
        | [c, i, m, f], _ => exact ⟨c, i, m, f, rfl⟩
      exact ⟨.start c i m f, rfl, rfl⟩
    | stop =>
      obtain ⟨c, i, m, rfl⟩ := List.length_eq_three.1 h
      exact ⟨.stop c i m, rfl, rfl⟩
    | list =>
      obtain rfl := List.length_eq_zero_iff.1 h
      exact ⟨.list, rfl, rfl⟩

/-! ## Reading -/

/-- **What is read**: `decode bytes = .ok r` for the request with the opcode of the first word and
the strings behind it. -/
theorem decode_eq_ok_iff (bytes : List UInt8) (r : Request) :
    decode bytes = .ok r ↔
      bytes.take 2 = bytesOfWord r.opcode.code ∧ strings (body bytes) = r.fields := by
  unfold decode
  cases hwords : wordsOf bytes with
  | nil =>
    have hshort := take_ne_of_wordsOf_eq_nil hwords r.opcode.code
    exact iff_of_false (by simp) fun h => hshort h.1
  | cons w ws =>
    obtain ⟨htake, hws⟩ := (wordsOf_eq_cons_iff bytes w ws).1 hwords
    -- the first word is the code exactly when the first two bytes spell it, a trailing byte or
    -- none
    have hfirst (op : Opcode) : bytes.take 2 = bytesOfWord op.code ↔ w = op.code := by
      constructor
      · intro h
        have hcons := (wordsOf_eq_cons_iff bytes op.code (body bytes)).2 ⟨h, rfl⟩
        rw [hwords] at hcons
        exact (List.cons.inj hcons).1
      · rintro rfl
        exact htake
    rw [hfirst, ← hws]
    dsimp only
    cases hop : Opcode.ofCode? w with
    | none =>
      refine iff_of_false (by simp) fun h => ?_
      rw [(Opcode.ofCode?_eq_some_iff w r.opcode).2 h.1] at hop
      exact absurd hop (by simp)
    | some op =>
      have hcode : w = op.code := (Opcode.ofCode?_eq_some_iff w op).1 hop
      have hsame : w = r.opcode.code ↔ r.opcode = op := by
        constructor
        · intro h
          rw [(Opcode.ofCode?_eq_some_iff w r.opcode).2 h] at hop
          exact Option.some.inj hop
        · rintro rfl
          exact hcode
      rw [hsame, eq_comm (a := strings ws), ← ofFields?_eq_some_iff]
      cases hfields : ofFields? op (strings ws) with
      | none => simp [hfields]
      | some other => simp [hfields]

/-- Whatever `decode` does not read is refused as malformed. -/
theorem decode_eq_error {bytes : List UInt8} (h : ∀ r, decode bytes ≠ .ok r) :
    ∃ detail, decode bytes = .error (.protocol "decode" detail) := by
  cases hread : decode bytes with
  | ok r => exact absurd hread (h r)
  | error e =>
    unfold decode at hread
    split at hread
    · exact ⟨_, hread.symm⟩
    · split at hread
      · exact ⟨_, hread.symm⟩
      · dsimp only at hread
        split at hread
        · exact absurd hread (by simp)
        · exact ⟨_, hread.symm⟩

/-- Bytes that start with the word of a letter and carry a number of strings behind it. -/
def Spells (bytes : List UInt8) (letter : Char) (count : Nat) : Prop :=
  bytes.take 2 = [UInt8.ofNat letter.toNat, 0] ∧ stringCount (body bytes) = count

/-- **Well-formed requests**: `S` with four strings, `T` with three, or `L` with none. -/
def WellFormed (bytes : List UInt8) : Prop :=
  Spells bytes 'S' 4 ∨ Spells bytes 'T' 3 ∨ Spells bytes 'L' 0

/-- `WellFormed` requests go by their opcode. -/
theorem wellFormed_iff (bytes : List UInt8) :
    WellFormed bytes ↔
      ∃ op : Opcode, bytes.take 2 = bytesOfWord op.code ∧ stringCount (body bytes) = op.arity := by
  constructor
  · rintro (h | h | h)
    · exact ⟨.start, h⟩
    · exact ⟨.stop, h⟩
    · exact ⟨.list, h⟩
  · rintro ⟨op, h⟩
    cases op with
    | start => exact .inl h
    | stop => exact .inr (.inl h)
    | list => exact .inr (.inr h)

/-- Some request is read when the bytes are `WellFormed`. -/
theorem exists_decode_iff (bytes : List UInt8) :
    (∃ r, decode bytes = .ok r) ↔ WellFormed bytes := by
  rw [wellFormed_iff]
  constructor
  · rintro ⟨r, hr⟩
    obtain ⟨htake, hfields⟩ := (decode_eq_ok_iff bytes r).1 hr
    refine ⟨r.opcode, htake, ?_⟩
    rw [← length_strings, hfields, length_fields]
  · rintro ⟨op, htake, hcount⟩
    rw [← length_strings] at hcount
    obtain ⟨r, rfl, hfields⟩ := (exists_fields_eq_iff op _).2 hcount
    exact ⟨r, (decode_eq_ok_iff bytes r).2 ⟨htake, hfields.symm⟩⟩

/-- `decode r.encode = .ok r` for a request that was read. -/
theorem decode_encode_of_decode {bytes : List UInt8} {r : Request} (h : decode bytes = .ok r) :
    decode r.encode = .ok r := by
  obtain ⟨-, hfields⟩ := (decode_eq_ok_iff bytes r).1 h
  have hfree : r.NulFree := by
    intro s hs
    rw [← hfields] at hs
    exact nulFree_of_mem_strings hs
  rw [decode_encode_ite, if_pos hfree]

/-- `r.encode = bytes`: the bytes that are the written form of what they are read as. -/
theorem encode_eq_iff {bytes : List UInt8} {r : Request} (h : decode bytes = .ok r) :
    r.encode = bytes ↔ Even bytes.length ∧ Ended (body bytes) ∧ Utf16.Paired (body bytes) := by
  obtain ⟨htake, hfields⟩ := (decode_eq_ok_iff bytes r).1 h
  have hwords : wordsOf bytes = r.opcode.code :: body bytes :=
    (wordsOf_eq_cons_iff bytes _ _).2 ⟨htake, rfl⟩
  rw [encode, bytesOf_eq_iff, hwords, List.cons.injEq, ← hfields, eq_comm (a := body bytes),
    flatMap_terminated_strings_iff]
  simp

/-- **The language of requests.** Bytes are read as a request exactly when they are `WellFormed`:
they start with the letter of an opcode and carry as many strings as it asks for; all others are
refused as malformed. What is read is read again from its written form, which is the bytes
themselves exactly when these are even in number, every string in them is ended, and no surrogate is
without its partner. -/
theorem decode_language (bytes : List UInt8) :
    ((∃ r, decode bytes = .ok r) ↔ WellFormed bytes) ∧
    (¬ WellFormed bytes → ∃ detail, decode bytes = .error (.protocol "decode" detail)) ∧
    ∀ r, decode bytes = .ok r →
      decode r.encode = .ok r ∧
      (r.encode = bytes ↔
        Even bytes.length ∧ Ended (body bytes) ∧ Utf16.Paired (body bytes)) := by
  refine ⟨exists_decode_iff bytes, fun hnone => ?_, fun r hr => ?_⟩
  · refine decode_eq_error fun r hr => hnone ?_
    exact (exists_decode_iff bytes).1 ⟨r, hr⟩
  · exact ⟨decode_encode_of_decode hr, encode_eq_iff hr⟩

/-- A list request with a byte too many is read, and is not the written form of one. -/
example : (decode [0x4C, 0, 0x55]).toOption = some .list ∧ encode .list ≠ [0x4C, 0, 0x55] := by
  decide

end Request

end MountKeeper.Launcher
