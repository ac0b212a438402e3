import MountKeeper.CommandLine.Command
import MountKeeper.Proofs.FuseOption

/-! # The words of a mount

* `Reader.read_cons`: a word that is no name of a level takes the reading one step on.
* `Reader.readWord_place`, `Reader.readWord_waiting`: what a word without a dash in front is.
* `Command.ofWords_mount`: the words with which a container is mounted are read as the request that
  they were made from. -/

namespace MountKeeper.CommandLine

/-! ## One word -/

namespace Reader

variable {r r' : Reader} {word : String}

/-- A word that is no name of a level takes the reading one step on. -/
theorem read_cons (hturn : r.waiting?.isSome = true ∨ r.turn word = .stays) (hdashes : word ≠ "--")
    (hword : r.readWord word = .ok r') (rest : List String) :
    r.read (word :: rest) = r'.read rest := by
  have hstays : (if r.waiting?.isSome then Turn.stays else r.turn word) = .stays := by
    rcases hturn with hwaiting | hturn
    · rw [if_pos hwaiting]
    · rw [hturn, ite_self]
  rw [read, hstays]
  dsimp only
  rw [if_neg hdashes, hword]
  rfl

/-- A word without a dash in front is the value that is waited for. -/
theorem readWord_waiting {s : Setting} (hword : word.toList.head? ≠ some '-')
    (hwaiting : r.waiting? = some s) :
    r.readWord word = .ok { r with pending := some (s, some word) } := by
  unfold readWord
  split
  · next h => exact absurd (by rw [h]; rfl) hword
  · next h => exact absurd (by rw [h]; rfl) hword
  · rw [hwaiting]

/-- A word without a dash in front is a path when no value is waited for. -/
theorem readWord_place (hword : word.toList.head? ≠ some '-') (hwaiting : r.waiting? = none) :
    r.readWord word = r.readPlace false word := by
  unfold readWord
  split
  · next h => exact absurd (by rw [h]; rfl) hword
  · next h => exact absurd (by rw [h]; rfl) hword
  · rw [hwaiting]

/-- A word with two dashes in front names a setting. -/
theorem readWord_long {body : List Char} (h : word.toList = '-' :: '-' :: body) :
    r.readWord word = r.readLong body := by
  simp only [readWord, h]

/-- Two dashes, a name and a value behind `=` give the value to the setting of that name. -/
theorem readLong_valued {name typed : String} {s : Setting} (hname : '=' ∉ name.toList)
    (hs : r.level.long? name = some s) (htaking : s.taking ≠ .nothing) :
    r.readLong (name.toList ++ '=' :: typed.toList) = r.receive s typed := by
  rw [readLong, Path.cutAt?_append hname]
  dsimp only
  rw [String.ofList_toList, String.ofList_toList, hs]
  dsimp only
  cases htaken : s.taking with
  | nothing => exact absurd htaken htaking
  | _ => rfl

end Reader

/-! ## The words of a mount -/

namespace Command

variable {place config : String}

/-- The mount that the words of a container ask for. -/
def containerRequest (place config : String) (options : List FuseOption) : MountRequest where
  mountPath := place
  configFile := some config
  fuseOptions := options.map (·.display)

/-- What was given with the words up to the configuration file. -/
def withConfig (place config : String) : Given where
  values := [(.configFile, .text config)]
  place := some place

/-- A word with a slash is no name of a level. -/
theorem turn_eq_stays (h : '/' ∈ place.toList) : Level.mount.turn place = .stays := by
  have hne : ∀ name : String, '/' ∉ name.toList → place ≠ name := by
    rintro name hname rfl
    exact hname h
  have hnames : ∀ p ∈ Level.mount.below, '/' ∉ p.1.toList := by decide
  have hnone : Level.mount.below.lookup place = none :=
    List.lookup_eq_none_iff.2 fun p hp => bne_iff_ne.2 (hne p.1 (hnames p hp))
  rw [Level.turn, hnone]
  simp [hne "help" (by decide)]

/-- The words are read as far as their options. -/
theorem read_config (hslash : '/' ∈ place.toList) (hdash : place.toList.head? ≠ some '-')
    (rest : List String) :
    Reader.read { level := .mount } (place :: ("--config-file=" ++ config) :: rest)
      = Reader.read { level := .mount, given := withConfig place config, begun := true } rest := by
  -- the place holds a slash and starts with no dash, so it is neither a command nor an option
  have hne : place ≠ "--" := by
    rintro rfl
    exact absurd hdash (by decide)
  have hplace : Reader.readWord { level := .mount } place
      = .ok { level := .mount, given := { place := some place }, begun := true } :=
    Reader.readWord_place hdash rfl
  have hturn : Reader.turn { level := .mount } place = .stays := turn_eq_stays hslash
  rw [Reader.read_cons (.inr hturn) hne hplace]
  have hchars : ("--config-file=" ++ config).toList
      = '-' :: '-' :: ("config-file".toList ++ '=' :: config.toList) := by
    simp [String.toList_append]
  have hconfig : "--config-file=" ++ config ≠ "--" := by
    intro he
    have := congrArg String.toList he
    rw [hchars] at this
    exact absurd this (by simp)
  refine Reader.read_cons (.inr rfl) hconfig ?_ rest
  rw [Reader.readWord_long hchars, Reader.readLong_valued (by decide) rfl (by decide)]
  rfl

/-- What was given with all words, when there are options. -/
def withOptions (place config : String) (options : List FuseOption) : Given where
  values := [(.fuseOptions, .texts (options.map (·.display))), (.configFile, .text config)]
  place := some place

/-- A list of written options is the value of the word before it. -/
theorem read_options {options : List FuseOption} (h : options ≠ []) :
    Reader.read { level := .mount, given := withConfig place config, begun := true }
        ["-o", ",".intercalate (options.map (·.display))]
      = .ok ⟨.mount, withOptions place config options, false⟩ := by
  let joined := ",".intercalate (options.map (·.display))
  have hdash : joined.toList.head? ≠ some '-' := FuseOption.head?_intercalate_display h
  -- a word after `-o` is a value unless it starts with a dash, which no list of options does
  have hne : joined ≠ "--" := by
    intro he
    rw [he] at hdash
    exact hdash rfl
  have hpieces : Given.pieces joined = options.map (·.display) := by
    rw [Given.pieces, FuseOption.splitOn_intercalate_display h, List.map_map]
    simp
  have hwaiting : Reader.readWord ⟨.mount, withConfig place config, none, true⟩ "-o"
      = .ok ⟨.mount, withConfig place config, some (.fuseOptions, none), true⟩ := rfl
  rw [Reader.read_cons (.inr rfl) (by decide) hwaiting,
    Reader.read_cons (.inl rfl) hne (Reader.readWord_waiting hdash rfl)]
  have hgiven : (withConfig place config).take .fuseOptions joined
      = .ok (withOptions place config options) := by
    have htexts : Setting.taking .fuseOptions = .texts := rfl
    rw [Given.take, if_pos htexts, hpieces]
    rfl
  -- the words are used up: the value that waits is taken at the end
  rw [Reader.read, Reader.finish, Reader.settle]
  dsimp only
  rw [hgiven]
  rfl

/-- The first word enters the level of mounts. -/
theorem ofWords_entered {words : List String} {g : Given}
    (h : Reader.read { level := .mount } words = .ok ⟨.mount, g, false⟩) :
    ofWords ("mount" :: words) = .ok (.mount (mountRequest g), false) := by
  have hturn : Reader.turn { level := .top } "mount" = .enters .mount := rfl
  have hread : Reading.ofWords ("mount" :: words) = .ok ⟨.mount, g, false⟩ := by
    rw [Reading.ofWords, Reader.read, hturn]
    change (Reader.read { level := .mount } words >>= _) = _
    rw [h]
    rfl
  rw [ofWords, hread]
  rfl

/-- **The words with which a container is mounted** are read as the request that they were made
from. -/
theorem ofWords_mount {options : List FuseOption} (hslash : '/' ∈ place.toList)
    (hdash : place.toList.head? ≠ some '-') :
    ofWords (["mount", place, "--config-file=" ++ config]
        ++ if options.isEmpty then [] else ["-o", ",".intercalate (options.map (·.display))])
      = .ok (.mount (containerRequest place config options), false) := by
  by_cases hoptions : options = []
  · subst hoptions
    exact ofWords_entered (read_config hslash hdash [])
  · rw [if_neg (by simpa using hoptions)]
    exact ofWords_entered ((read_config hslash hdash _).trans (read_options hoptions))

end Command

end MountKeeper.CommandLine
