import MountKeeper.Proofs.Act
import MountKeeper.Proofs.Disk.Change
import MountKeeper.Proofs.Text.Piece
import MountKeeper.Readiness

/-! # How waiting for a daemon ends

* `Look.IsOpen` is a look at the daemon after which the wait goes on; `Reaches looks look` is that the
  wait comes to a look. `Reaches.exists_await_eq`: the look decides then.
* `plainReason` is a message without the blanks at its end and without the context of a failed mount.
  `reason_of_message`: this is what is read off the last message of a daemon, whatever it wrote before.
* `isFile_diskAfter`: behind the wait the scratch file is gone.
* `WaitForSpec`: what a wait comes to. `waitFor_spec` is that every wait does. -/

namespace MountKeeper.Readiness

open Text (isBlank)

/-! ## Looks -/

/-- A look at the daemon after which the wait goes on. -/
structure Look.IsOpen (look : Look) : Prop where
  ready : look.ready = false
  ended : look.ended = .ok none
  late : look.late = false

/-- The wait comes to a look: those before it leave the wait open. -/
def Reaches (looks : List Look) (look : Look) : Prop :=
  ∃ before rest, looks = before ++ look :: rest ∧ ∀ l ∈ before, l.IsOpen

/-- A wait stays open, or `Reaches` a look that does not leave it so. -/
theorem open_or_reaches (looks : List Look) :
    (∀ l ∈ looks, l.IsOpen) ∨ ∃ look, Reaches looks look ∧ ¬ look.IsOpen := by
  induction looks with
  | nil => exact .inl (by simp)
  | cons look looks ih =>
    by_cases hlook : look.IsOpen
    · rcases ih with hopen | ⟨look', ⟨before, rest, rfl, hopen⟩, hclosed⟩
      · exact .inl (by simp only [List.forall_mem_cons]; exact ⟨hlook, hopen⟩)
      · refine .inr ⟨look', ⟨look :: before, rest, rfl, ?_⟩, hclosed⟩
        simp only [List.forall_mem_cons]
        exact ⟨hlook, hopen⟩
    · exact .inr ⟨look, ⟨[], looks, rfl, by simp⟩, hlook⟩

/-- `await (before ++ rest)` goes on behind the looks that leave it open. -/
theorem await_append_of_open (pid stderr : String) {before : List Look}
    (h : ∀ look ∈ before, look.IsOpen) (rest : List Look) :
    await pid stderr (before ++ rest) = await pid stderr rest := by
  induction before with
  | nil => rfl
  | cons look before ih =>
    obtain ⟨hready, hended, hlate⟩ := h look List.mem_cons_self
    rw [List.cons_append, await, hready, hended, hlate]
    exact ih fun l hl => h l (List.mem_cons_of_mem look hl)

namespace Reaches

variable {looks : List Look} {look : Look} (h : Reaches looks look) (pid stderr : String)

include h

/-- The look that a wait `Reaches` decides, whatever was to be seen later. -/
theorem exists_await_eq : ∃ rest, await pid stderr looks = await pid stderr (look :: rest) := by
  obtain ⟨before, rest, rfl, hopen⟩ := h
  exact ⟨rest, await_append_of_open pid stderr hopen _⟩

/-- `look.ready`: the wait succeeds. -/
theorem await_of_ready (hready : look.ready = true) : await pid stderr looks = .ok () := by
  obtain ⟨rest, hawait⟩ := h.exists_await_eq pid stderr
  rw [hawait, await, hready, if_pos rfl]

/-- The daemon has ended with `status`: the wait fails with `failure pid status stderr`. -/
theorem await_of_ended {status : ExitStatus} (hready : look.ready = false)
    (hended : look.ended = .ok (some status)) :
    await pid stderr looks = .error (failure pid status stderr) := by
  obtain ⟨rest, hawait⟩ := h.exists_await_eq pid stderr
  rw [hawait, await, hready, hended]
  rfl

/-- `look.ended = .error f`: it cannot be found out whether the daemon has ended, and the wait fails
with that reason. -/
theorem await_of_unknown {f : Failure} (hready : look.ready = false) (hended : look.ended = .error f) :
    await pid stderr looks = .error f := by
  obtain ⟨rest, hawait⟩ := h.exists_await_eq pid stderr
  rw [hawait, await, hready, hended]
  rfl

/-- `look.late` and the daemon still runs: the wait succeeds, as the mount may yet come. -/
theorem await_of_late (hready : look.ready = false) (hended : look.ended = .ok none)
    (hlate : look.late = true) : await pid stderr looks = .ok () := by
  obtain ⟨rest, hawait⟩ := h.exists_await_eq pid stderr
  rw [hawait, await, hready, hended, hlate]
  rfl

end Reaches

/-! ## The reason -/

variable {message : String}

/-- A message without the blanks at its end and without one context of a failed mount in front. -/
def plainReason (message : String) : String :=
  Text.trimmedEnd ((Text.stripFront? "failed to mount: " message).getD message)

/-- `mountContext` may be taken off before or behind `trimEnd`, if anything is left then. -/
theorem dropFront?_trimEnd {message : List Char}
    (hleft : Text.trimEnd ((Text.dropFront? mountContext.toList message).getD message) ≠ []) :
    (Text.dropFront? mountContext.toList (Text.trimEnd message)).getD (Text.trimEnd message)
      = Text.trimEnd ((Text.dropFront? mountContext.toList message).getD message) := by
  cases hdrop : Text.dropFront? mountContext.toList message with
  | some rest =>
    rw [hdrop, Option.getD_some] at hleft
    -- what is left is not blank, so that only its own end is trimmed
    have hfilled := Text.exists_not_blank_of_trimEnd hleft
    rw [Text.dropFront?_eq_some_iff.1 hdrop, Text.trimEnd_append hfilled, Text.dropFront?_append]
    rfl
  | none =>
    have hnot : Text.dropFront? mountContext.toList (Text.trimEnd message) = none :=
      Text.dropFront?_eq_none_iff.2 fun h =>
        Text.dropFront?_eq_none_iff.1 hdrop (h.trans (Text.trimEnd_isPrefix message))
    rw [hnot]
    rfl

/-- `plainReason message` without the `String`: the context `mountContext` is dropped from the
front, if it stands there, and white space from the end. -/
theorem toList_plainReason (message : String) : (plainReason message).toList = Text.trimEnd
    ((Text.dropFront? mountContext.toList message.toList).getD message.toList) := by
  rw [plainReason, Text.trimmedEnd, String.toList_ofList, Text.stripFront?]
  change Text.trimEnd (((Text.dropFront? mountContext.toList message.toList).map String.ofList).getD
    message).toList = _
  cases Text.dropFront? mountContext.toList message.toList with
  | none => rfl
  | some rest => rw [Option.map_some, Option.getD_some, Option.getD_some, String.toList_ofList]

/-- A reason that is left is left as a list of characters. -/
theorem trimEnd_ne_nil (hleft : plainReason message ≠ "") : Text.trimEnd
    ((Text.dropFront? mountContext.toList message.toList).getD message.toList) ≠ [] := by
  rw [← toList_plainReason]
  exact fun hnil => hleft (String.toList_eq_nil_iff.1 hnil)

/-- A message with a `plainReason` is not blank. -/
theorem exists_not_blank (hleft : plainReason message ≠ "") :
    ∃ c ∈ message.toList, isBlank c = false := by
  obtain ⟨c, hc, hblank⟩ := Text.exists_not_blank_of_trimEnd (trimEnd_ne_nil hleft)
  refine ⟨c, ?_, hblank⟩
  cases hdrop : Text.dropFront? mountContext.toList message.toList with
  | none => rwa [hdrop] at hc
  | some rest =>
    rw [hdrop] at hc
    exact Text.dropFront?_eq_some_iff.1 hdrop ▸ List.mem_append_right _ hc

/-- **The reason is the last message**, whatever was written before it, and marks in that included:
`reason` cuts at the last `mark`. -/
theorem reason_of_message {log ending : String} (hmark : ¬ mark.toList <:+: message.toList)
    (hending : ∀ c ∈ ending.toList, isBlank c = true) (hleft : plainReason message ≠ "") :
    reason (log ++ mark ++ message ++ ending) = plainReason message := by
  have hfilled := exists_not_blank hleft
  have htext : Text.trim (log ++ mark ++ message ++ ending).toList
      = Text.trimStart log.toList ++ (mark.toList ++ Text.trimEnd message.toList) := by
    rw [String.toList_append, String.toList_append, String.toList_append, List.append_assoc,
      List.append_assoc, Text.trim]
    change Text.trimEnd (Text.trimStart (log.toList ++ 'E' :: ("rror: ".toList ++ _))) = _
    rw [Text.trimStart_append_cons (by decide)]
    change Text.trimEnd (_ ++ (mark.toList ++ (message.toList ++ ending.toList))) = _
    rw [← List.append_assoc, ← List.append_assoc, Text.trimEnd_append_of_blank hending,
      Text.trimEnd_append hfilled, List.append_assoc]
  -- two marks cannot overlap, since the first character of one does not come again in it
  have hfirst : 'E' ∉ "rror: ".toList := by decide
  have hlast : Text.afterLast? mark.toList (Text.trimStart log.toList ++
      (mark.toList ++ Text.trimEnd message.toList)) = some (Text.trimEnd message.toList) :=
    Text.afterLast?_append_of_notMem hfirst
      (fun hin => hmark (hin.trans (Text.trimEnd_isPrefix _).isInfix)) _
  rw [← String.toList_inj, toList_plainReason, ← dropFront?_trimEnd (trimEnd_ne_nil hleft),
    reason, htext, hlast, String.toList_ofList]
  rfl

/-- **The failure of a daemon** that has reported why it ends is what it has reported, `plainReason
message`. -/
theorem failure_of_message {pid : String} {status : ExitStatus} {log ending : String}
    (hmark : ¬ mark.toList <:+: message.toList) (hending : ∀ c ∈ ending.toList, isBlank c = true)
    (hleft : plainReason message ≠ "") :
    failure pid status (log ++ mark ++ message ++ ending) = .ofText (plainReason message) := by
  rw [failure, reason_of_message hmark hending hleft, if_neg hleft]

/-! ## The scratch file -/

variable (pid scratch : String) (disk : Disk) (looks : List Look)

/-- What the daemon has written to the scratch file. -/
def captured : String :=
  match disk.readText scratch with
  | .ok text => text
  | .error _ => ""

/-- How the wait ends. -/
def outcome : Except Failure Unit :=
  ((waitFor pid scratch looks).runOn disk).1

/-- The disk behind the wait. -/
def diskAfter : Disk :=
  ((waitFor pid scratch looks).runOn disk).2

/-- The outcome is that of a wait with what was `captured` of the scratch file. -/
theorem outcome_eq : outcome pid scratch disk looks = await pid (captured scratch disk) looks := rfl

/-- `captured scratch disk` is the text of a scratch file that can be read. -/
theorem captured_of_readText {text : String} (h : disk.readText scratch = .ok text) :
    captured scratch disk = text := by
  rw [captured, h]

/-- `diskAfter` is the disk with the scratch file removed; if there is none then nothing changes. -/
theorem removeFile_or_eq :
    disk.removeFile scratch = .ok (diskAfter pid scratch disk looks) ∨
      disk.isFile scratch = false ∧ diskAfter pid scratch disk looks = disk := by
  dsimp only [diskAfter, waitFor, Act.runOn, ExceptT.run, StateT.run]
  cases hremove : disk.removeFile scratch with
  | ok d => exact .inl rfl
  | error e =>
    refine .inr ⟨?_, rfl⟩
    unfold Disk.isFile
    rcases hfind : disk.find scratch with _ | _ | content
    · rfl
    · rfl
    · obtain ⟨d, hd⟩ := Disk.exists_removeFile hfind
      rw [hremove] at hd
      cases hd

/-- **Behind the wait the scratch file is gone.** `diskAfter` has no file there. -/
theorem isFile_diskAfter : (diskAfter pid scratch disk looks).isFile scratch = false := by
  rcases removeFile_or_eq pid scratch disk looks with hremoved | ⟨hnone, hsame⟩
  · rw [Disk.isFile, Disk.find_of_removeFile hremoved]
  · rw [hsame, hnone]

/-- `diskAfter` leaves what stands elsewhere. -/
theorem nodeAt_diskAfter {place : Place} (helsewhere : disk.resolve scratch ≠ .ok place) :
    (diskAfter pid scratch disk looks).nodeAt place = disk.nodeAt place := by
  rcases removeFile_or_eq pid scratch disk looks with hremoved | ⟨-, hsame⟩
  · obtain ⟨place', -, hres, -, hdrop⟩ := Disk.exists_of_removeFile hremoved
    rw [hdrop, Disk.nodeAt_dropNode_of_ne]
    rintro rfl
    exact helsewhere hres
  · rw [hsame]

/-! ## The handshake -/

/-- What a wait for a daemon comes to. Being ready is asked for first, then how the daemon has ended,
and then the time. -/
structure WaitForSpec : Prop where
  /-- The wait stays open only as long as every look leaves it so. -/
  decided : (∀ l ∈ looks, l.IsOpen) ∨ ∃ look, Reaches looks look ∧ ¬ look.IsOpen
  /-- It ends well with a daemon that is ready, even if that has ended or is late. -/
  ready : ∀ look, Reaches looks look → look.ready = true → outcome pid scratch disk looks = .ok ()
  /-- It fails with a daemon that has ended and was not ready, even if it is late. -/
  ended : ∀ look status, Reaches looks look → look.ready = false →
    look.ended = .ok (some status) → ∃ f, outcome pid scratch disk looks = .error f
  /-- It fails where the daemon cannot be asked after. -/
  unknown : ∀ look f, Reaches looks look → look.ready = false → look.ended = .error f →
    outcome pid scratch disk looks = .error f
  /-- It ends well when the daemon has been given enough time. -/
  late : ∀ look, Reaches looks look → look.ready = false → look.ended = .ok none →
    look.late = true → outcome pid scratch disk looks = .ok ()
  /-- What the daemon has reported last is the failure, whatever is in its log before that. -/
  told : ∀ look status log message ending, Reaches looks look → look.ready = false →
    look.ended = .ok (some status) →
    disk.readText scratch = .ok (log ++ "Error: " ++ message ++ ending) →
    (∀ c ∈ ending.toList, isBlank c = true) → ¬ "Error: ".toList <:+: message.toList →
    plainReason message ≠ "" →
      outcome pid scratch disk looks = .error (.ofText (plainReason message))
  /-- The scratch file is gone. -/
  gone : (diskAfter pid scratch disk looks).isFile scratch = false
  /-- Nothing else has changed on the disk. -/
  elsewhere : ∀ place, disk.resolve scratch ≠ .ok place →
    (diskAfter pid scratch disk looks).nodeAt place = disk.nodeAt place

/-- **Every wait for a daemon** comes to `WaitForSpec`, whatever the looks find and whatever is in
the scratch file. -/
theorem waitFor_spec : WaitForSpec pid scratch disk looks where
  decided := open_or_reaches looks
  ready _ h hready := h.await_of_ready pid _ hready
  ended _ _ h hready hended := ⟨_, h.await_of_ended pid _ hready hended⟩
  unknown _ _ h hready hended := h.await_of_unknown pid _ hready hended
  late _ h hready hended hlate := h.await_of_late pid _ hready hended hlate
  told _ _ _ _ _ h hready hended hread hending hmark hleft := by
    rw [outcome_eq, captured_of_readText scratch disk hread, h.await_of_ended pid _ hready hended]
    exact congrArg Except.error (failure_of_message hmark hending hleft)
  gone := isFile_diskAfter pid scratch disk looks
  elsewhere _ := nodeAt_diskAfter pid scratch disk looks

/-- A daemon that logs a failure, tries again, and ends before the second look at it. -/
example : Act.failure? (outcome "42" "/scratch"
    { nodes := [(["scratch"], .file
        "Error: busy, again\nError: failed to mount: mount directory is not empty\n".toUTF8)] }
    [⟨false, .ok none, false⟩, ⟨false, .ok (some (.exited 1)), true⟩])
    = some (.ofText "mount directory is not empty") := by
  decide +kernel

end MountKeeper.Readiness
