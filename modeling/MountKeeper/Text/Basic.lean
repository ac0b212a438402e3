/-! # Text as a list of characters

The readers of this library work on `List Char`; `String` is the type of the values they return.
This module holds the cuts they share.

* `isBlank` is the White_Space property; `trim`, `trimStart`, `trimEnd` drop blanks at the ends, and
  `words` lists the maximal blank-free pieces.
* `lines` cuts at line feeds, each line losing one carriage return before its line feed.
* `dropFront?` takes a given piece off the front; `afterLast?` is the text behind the last occurrence
  of a piece; `occursIn` says that a piece occurs. -/

namespace MountKeeper.Text

/-! ## Blanks -/

/-- The characters with the White_Space property. -/
def isBlank (c : Char) : Bool :=
  let n := c.toNat
  (9 ≤ n && n ≤ 13) || n == 0x20 || n == 0x85 || n == 0xA0 || n == 0x1680
    || (0x2000 ≤ n && n ≤ 0x200A) || n == 0x2028 || n == 0x2029 || n == 0x202F || n == 0x205F
    || n == 0x3000

/-- A text without the blanks at its start. -/
def trimStart (cs : List Char) : List Char :=
  cs.dropWhile isBlank

/-- A text without the blanks at its end. -/
def trimEnd (cs : List Char) : List Char :=
  (cs.reverse.dropWhile isBlank).reverse

/-- A text without the blanks at its ends. -/
def trim (cs : List Char) : List Char :=
  trimEnd (trimStart cs)

/-- The maximal blank-free pieces of a text, in order. -/
def words (cs : List Char) : List (List Char) :=
  (cs.splitOnP isBlank).filter (fun w => !w.isEmpty)

/-- The empty text has no words. -/
@[simp] theorem words_nil : words [] = [] := rfl

/-- `trim` on strings. -/
def trimmed (s : String) : String :=
  String.ofList (trim s.toList)

/-- `trimEnd` on strings. -/
def trimmedEnd (s : String) : String :=
  String.ofList (trimEnd s.toList)

/-- `words` on strings. -/
def wordsOf (s : String) : List String :=
  (words s.toList).map String.ofList

/-- A string with nothing but blanks. -/
def isBlankText (s : String) : Bool :=
  s.toList.all isBlank

/-! ## Lines -/

/-- A line without the one carriage return that may stand before its line feed. -/
def dropReturn (line : List Char) : List Char :=
  match line.reverse with
  | '\r' :: rest => rest.reverse
  | _ => line

/-- The lines of a text. Only a line that ends in a line feed loses a carriage return, and nothing
stands after the last line feed unless a character does. -/
def lines (cs : List Char) : List (List Char) :=
  match (cs.splitOn '\n').reverse with
  | [] => []
  | last :: ended => (ended.map dropReturn).reverse ++ (if last.isEmpty then [] else [last])

/-- The empty text has no lines. -/
@[simp] theorem lines_nil : lines [] = [] := by
  simp [lines]

/-- `lines` on strings. -/
def linesOf (s : String) : List String :=
  (lines s.toList).map String.ofList

/-! ## Pieces -/

/-- `dropFront? piece cs` is `cs` without `piece` at its front, `none` when it does not start so. -/
def dropFront? : List Char → List Char → Option (List Char)
  | [], cs => some cs
  | _ :: _, [] => none
  | p :: ps, c :: cs => if p = c then dropFront? ps cs else none

/-- A piece is dropped from the front of a text that begins with it. -/
theorem dropFront?_append (piece rest : List Char) :
    dropFront? piece (piece ++ rest) = some rest := by
  induction piece with
  | nil => rfl
  | cons p ps ih => simp [dropFront?, ih]

/-- `dropFront? piece cs = some rest` says that `cs` is `piece` and then `rest`. -/
theorem dropFront?_eq_some_iff {piece cs rest : List Char} :
    dropFront? piece cs = some rest ↔ cs = piece ++ rest := by
  constructor
  · intro h
    induction piece generalizing cs with
    | nil => simpa [dropFront?] using h
    | cons p ps ih =>
      cases cs with
      | nil => simp [dropFront?] at h
      | cons c cs =>
        simp only [dropFront?] at h
        split at h
        · next hpc => subst hpc; simp [ih h]
        · simp at h
  · rintro rfl
    exact dropFront?_append piece rest

/-- `dropFront?` on strings. -/
def stripFront? (piece s : String) : Option String :=
  (dropFront? piece.toList s.toList).map String.ofList

/-- Whether a string starts with a piece. -/
def startsWith (piece s : String) : Bool :=
  piece.toList.isPrefixOf s.toList

/-- What stands behind the last occurrence of `piece` in `cs`. -/
def afterLast? (piece : List Char) : List Char → Option (List Char)
  | [] => dropFront? piece []
  | c :: cs =>
    match afterLast? piece cs with
    | some rest => some rest
    | none => dropFront? piece (c :: cs)

/-- Whether `piece` occurs in `cs`. -/
def occursIn (piece : List Char) : List Char → Bool
  | [] => piece.isEmpty
  | c :: cs => piece.isPrefixOf (c :: cs) || occursIn piece cs

/-- `occursIn` on strings. -/
def contains (piece s : String) : Bool :=
  occursIn piece.toList s.toList

/-- The two sides of the first occurrence of a character, `none` when it does not occur. -/
def cutAt? (mark : Char) : List Char → Option (List Char × List Char)
  | [] => none
  | c :: cs =>
    if c = mark then some ([], cs)
    else (cutAt? mark cs).map fun (front, back) => (c :: front, back)

/-- `cutAt? mark cs = some (front, back)`: the text is cut at the first `mark`, which is dropped. -/
theorem cutAt?_eq_some {mark : Char} {cs front back : List Char}
    (h : cutAt? mark cs = some (front, back)) : cs = front ++ mark :: back ∧ mark ∉ front := by
  induction cs generalizing front with
  | nil => simp [cutAt?] at h
  | cons c cs ih =>
    simp only [cutAt?] at h
    split at h
    · next hc => simp at h; obtain ⟨rfl, rfl⟩ := h; simp [hc]
    · next hc =>
      obtain ⟨⟨f, b⟩, hfb, heq⟩ := Option.map_eq_some_iff.1 h
      simp at heq
      obtain ⟨rfl, rfl⟩ := heq
      have := ih hfb
      refine ⟨by rw [this.1]; rfl, ?_⟩
      simp [this.2, Ne.symm hc]

/-- A character replaced by another throughout a string. -/
def replaceChar (old new : Char) (s : String) : String :=
  String.ofList (s.toList.map fun c => if c = old then new else c)

end MountKeeper.Text
