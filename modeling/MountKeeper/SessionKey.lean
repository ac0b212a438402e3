import MountKeeper.Text.Basic

/-! # Session keys

Sessions are filed under the canonical form of their mount path: forward slashes and no slash at
the end. The root directory keeps its slash.

* `SessionKey.canonicalChars` is the canonical form; `canonicalChars_canonicalChars` says that it
  is one.
* A `SessionKey` is a text in canonical form; `SessionKey.ofPath` is the key of a path.
* `SessionKey.fileStem` is the key with another character for its slashes, as it stands in the
  names of record files and units. -/

namespace MountKeeper

namespace SessionKey

/-! ## The canonical form -/

/-- A separator of either kind as a forward slash. -/
def forward (c : Char) : Char :=
  if c = '\\' then '/' else c

/-- `forward` is idempotent. -/
@[simp] theorem forward_forward (c : Char) : forward (forward c) = forward c := by
  unfold forward
  split
  · decide
  · simp

/-- A text without the slashes at its end. -/
def dropSlashes (cs : List Char) : List Char :=
  (cs.reverse.dropWhile (· == '/')).reverse

/-- The canonical form of a path, on characters. -/
def canonicalChars (cs : List Char) : List Char :=
  let kept := dropSlashes (cs.map forward)
  if kept = [] then ['/'] else kept

/-- A text that does not end in a slash keeps all its characters. -/
theorem dropSlashes_of_getLast? {cs : List Char} (h : cs.getLast? ≠ some '/') :
    dropSlashes cs = cs := by
  rcases List.eq_nil_or_concat cs with rfl | ⟨front, last, rfl⟩
  · rfl
  · have : last ≠ '/' := by simpa using h
    simp [dropSlashes, this]

/-- What is left does not end in a slash. -/
theorem getLast?_dropSlashes (cs : List Char) : (dropSlashes cs).getLast? ≠ some '/' := by
  unfold dropSlashes
  rw [List.getLast?_reverse]
  intro h
  have := List.head?_dropWhile_not (· == '/') cs.reverse
  rw [h] at this
  simp at this

/-- What is left is a front part of the text. -/
theorem dropSlashes_isPrefix (cs : List Char) : dropSlashes cs <+: cs := by
  have := List.dropWhile_suffix (l := cs.reverse) (· == '/')
  simpa [dropSlashes] using List.reverse_prefix.2 this

/-- A canonical text has only forward slashes. -/
theorem map_forward_canonicalChars (cs : List Char) :
    (canonicalChars cs).map forward = canonicalChars cs := by
  unfold canonicalChars
  simp only
  split
  · rfl
  · have hmem : ∀ c ∈ dropSlashes (cs.map forward), forward c = c := by
      intro c hc
      have := (dropSlashes_isPrefix _).subset hc
      obtain ⟨d, _, rfl⟩ := List.mem_map.1 this
      exact forward_forward d
    calc (dropSlashes (cs.map forward)).map forward
        = (dropSlashes (cs.map forward)).map id := List.map_congr_left (by simpa using hmem)
      _ = dropSlashes (cs.map forward) := by simp

/-- The canonical form of a canonical text is the text itself. -/
@[simp] theorem canonicalChars_canonicalChars (cs : List Char) :
    canonicalChars (canonicalChars cs) = canonicalChars cs := by
  have hmap := map_forward_canonicalChars cs
  have step : ∀ ds : List Char, ds.map forward = ds →
      canonicalChars ds = if dropSlashes ds = [] then ['/'] else dropSlashes ds := by
    intro ds h
    simp [canonicalChars, h]
  rw [step _ hmap]
  unfold canonicalChars
  simp only
  split
  · rfl
  · next hne =>
    rw [dropSlashes_of_getLast? (getLast?_dropSlashes _)]
    simp [hne]

/-- The canonical form of a path. -/
def canonical (path : String) : String :=
  String.ofList (canonicalChars path.toList)

/-- `canonical` is idempotent: the text of a key is its own canonical form. -/
@[simp] theorem canonical_canonical (path : String) :
    canonical (canonical path) = canonical path := by
  simp [canonical]

end SessionKey

/-! ## Keys -/

/-- A mount path in canonical form. -/
structure SessionKey where
  /-- The canonical path. -/
  text : String
  /-- The path is its own canonical form. -/
  canonical_text : SessionKey.canonical text = text
  deriving DecidableEq, Repr

namespace SessionKey

/-- The key of a path. -/
def ofPath (path : String) : SessionKey :=
  ⟨canonical path, canonical_canonical path⟩

/-- A key is its text. -/
@[ext] theorem ext {a b : SessionKey} (h : a.text = b.text) : a = b := by
  cases a; cases b; simp_all

/-- The text of `ofPath path` is `canonical path`. -/
@[simp] theorem text_ofPath (path : String) : (ofPath path).text = canonical path := rfl

/-- `ofPath` is a left inverse of `text`. -/
@[simp] theorem ofPath_text (key : SessionKey) : ofPath key.text = key :=
  ext key.canonical_text

instance : Inhabited SessionKey := ⟨ofPath "/"⟩

/-- The key with another character for its slashes. -/
def fileStem (key : SessionKey) (mark : Char) : String :=
  Text.replaceChar '/' mark key.text

end SessionKey

end MountKeeper
