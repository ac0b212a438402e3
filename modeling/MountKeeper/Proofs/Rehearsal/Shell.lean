import MountKeeper.Proofs.Refusing
import MountKeeper.Proofs.Remount.Installing
import MountKeeper.Rehearsal.Shell.Run

/-! # Programs on a rehearsed system

`Host.systemRunner` finds programs on the host and runs scripts of the small shell. This is what the
parts that call programs ask of a `CommandRunner`, and what calling a program through the shell
means.

* `Host.runOn_systemRunner`: a call leaves the host as it is, whatever comes of it.
  `Host.refusesNothing_systemRunner` and `Host.steady_systemRunner` are the contracts that follow.
* `Host.execute_some`: a time limit decides whether a program is late, and nothing else. The cases
  are `Host.Runs.execute_late` and `Host.Runs.execute_in_time`.
* `Shell.State.runAll_append`, `Shell.State.extends_runAll`: a script is run piece by piece, and
  what it has written stays written.
* `Shell.script_commandLine`, `Host.execute_commandLine`: a quoted command line is read as the words
  that were quoted, so that a program does through the shell what it does when it is called. -/

namespace MountKeeper

open Act (Keeps RefusesNothing)

/-- `r.result program` is never a refusal: a program that is not there, that cannot be started, that
is late or that fails is a failure of another kind. -/
theorem ProgramRun.not_isRefusal_of_result {program : String} {r : ProgramRun} {f : Failure}
    (hf : r.result program = .error f) : ¬ f.IsRefusal := by
  cases r with
  | missing | refused error | late limit =>
    obtain rfl := Except.error.inj hf
    exact fun h => nomatch h
  | ended status stdout stderr =>
    by_cases hsuccess : status.isSuccess = true
    · rw [result, if_pos hsuccess] at hf
      exact absurd hf nofun
    · rw [result, if_neg hsuccess] at hf
      obtain rfl := Except.error.inj hf
      exact fun h => nomatch h

namespace Rehearsal

/-! ## The host behind a call -/

namespace Host

variable (limit : Option Duration) (program : String) (args : List String) (h : Host)

/-- `(systemRunner limit).run program args` answers what `execute` comes to, and leaves the host as
it is. -/
theorem runOn_systemRunner :
    ((systemRunner limit).run program args).runOn h
      = ((execute h limit program args).result program, h) := by
  have hlook : ((systemRunner limit).run program args).runOn h
      = (Act.ofExcept ((execute h limit program args).result program) : Act Host _).runOn h := rfl
  rw [hlook]
  cases (execute h limit program args).result program <;> rfl

/-- Whatever holds of the host holds of it behind `(systemRunner limit).run`. -/
theorem keeps_systemRunner (P : Host → Prop) : Keeps P ((systemRunner limit).run program args) := by
  refine Keeps.of_final fun h hP => ?_
  rw [runOn_systemRunner]
  exact hP

/-- `systemRunner limit` refuses nothing, whichever way a call fails. -/
theorem refusesNothing_systemRunner : RefusesNothing ((systemRunner limit).run program args) :=
  RefusesNothing.look.bind fun _ => .ofExcept fun _ => ProgramRun.not_isRefusal_of_result

/-- Units that are installed with the programs of the system are **steady**: `systemRunner` leaves
the unit directory alone. -/
theorem steady_systemRunner (unitDir passwd binary : String) :
    (Systemd.mk diskPart (systemRunner limit) unitDir passwd binary).Steady where
  get_put _ _ := rfl
  runs program args _ := keeps_systemRunner limit program args _

/-! ## Time limits -/

variable {limit program args h}

/-- A program that is installed and asked for without NUL characters has effects. -/
def Runs (h : Host) (program : String) (args : List String) (e : Effects) : Prop :=
  (∀ s ∈ program :: args, '\x00' ∉ s.toList) ∧ runInstalled? h.disk h.self program args = some e

/-- The test of `execute` for NUL characters. -/
theorem any_contains_nul (words : List String) :
    (words.any fun s => s.toList.contains '\x00') = true ↔ ∃ s ∈ words, '\x00' ∈ s.toList := by
  simp only [List.any_eq_true, List.contains_iff_mem]

/-- A program that `Runs` was called with words that can be passed to it. -/
theorem Runs.not_any_nul {e : Effects} (hruns : h.Runs program args e) :
    ¬ ((program :: args).any fun s => s.toList.contains '\x00') = true := by
  rw [any_contains_nul]
  rintro ⟨s, hs, hmem⟩
  exact hruns.1 s hs hmem

/-- `l ≤ e.lasts`: a program that takes as long as the limit, or longer, is late. -/
theorem Runs.execute_late {e : Effects} {l : Duration} (hruns : h.Runs program args e)
    (hlate : l.nanoseconds ≤ e.lasts.nanoseconds) : execute h (some l) program args = .late l := by
  have hfilter : ((some l).filter fun l => l.nanoseconds ≤ e.lasts.nanoseconds) = some l :=
    Option.filter_some_pos (decide_eq_true hlate)
  unfold execute
  rw [if_neg hruns.not_any_nul, hruns.2]
  dsimp only
  rw [hfilter]

/-- `e.lasts < l`: a program that takes less time than the limit, or that has none, comes to its
end. -/
theorem Runs.execute_in_time {e : Effects} (hruns : h.Runs program args e)
    (htime : ∀ l, limit = some l → e.lasts.nanoseconds < l.nanoseconds) :
    execute h limit program args = .ended e.status e.stdout e.stderr := by
  have hfilter : (limit.filter fun l => l.nanoseconds ≤ e.lasts.nanoseconds) = none := by
    rw [Option.filter_eq_none_iff]
    intro l hl
    rw [decide_eq_true_iff, not_le]
    exact htime l hl
  unfold execute
  rw [if_neg hruns.not_any_nul, hruns.2]
  dsimp only
  rw [hfilter]

/-- A call that does not run comes to the same with any limit. -/
theorem execute_eq_of_not_runs (hnone : ∀ e, ¬ h.Runs program args e) (limit : Option Duration) :
    execute h limit program args = execute h none program args := by
  unfold execute
  by_cases hnul : ((program :: args).any fun s => s.toList.contains '\x00') = true
  · rw [if_pos hnul, if_pos hnul]
  · rw [if_neg hnul, if_neg hnul]
    cases hrun : runInstalled? h.disk h.self program args with
    | none => rfl
    | some e =>
      refine absurd ⟨fun s hs hmem => hnul ?_, hrun⟩ (hnone e)
      exact (any_contains_nul _).2 ⟨s, hs, hmem⟩

/-- **A time limit decides whether a program is late, and nothing else.** A program that takes as
long as the limit, or longer, is late; otherwise the call comes to what it comes to without a
limit. -/
theorem execute_some (l : Duration) (program : String) (args : List String) (h : Host) :
    (∃ e, h.Runs program args e ∧ l.nanoseconds ≤ e.lasts.nanoseconds ∧
      execute h (some l) program args = .late l) ∨
    (∀ e, h.Runs program args e → e.lasts.nanoseconds < l.nanoseconds) ∧
      execute h (some l) program args = execute h none program args := by
  by_cases hruns : ∃ e, h.Runs program args e
  · obtain ⟨e, hruns⟩ := hruns
    have hsame : ∀ e', h.Runs program args e' → e' = e := fun e' hruns' =>
      Option.some.inj (hruns'.2.symm.trans hruns.2)
    -- the program runs, and what it takes is compared with the limit
    by_cases hlate : l.nanoseconds ≤ e.lasts.nanoseconds
    · exact .inl ⟨e, hruns, hlate, hruns.execute_late hlate⟩
    · have htime : e.lasts.nanoseconds < l.nanoseconds := not_le.1 hlate
      have hlimit : execute h (some l) program args = .ended e.status e.stdout e.stderr :=
        hruns.execute_in_time fun l' hl => Option.some.inj hl ▸ htime
      have hnone : execute h none program args = .ended e.status e.stdout e.stderr :=
        hruns.execute_in_time fun _ hl => absurd hl nofun
      exact .inr ⟨fun e' hruns' => hsame e' hruns' ▸ htime, hlimit.trans hnone.symm⟩
  · have hnone : ∀ e, ¬ h.Runs program args e := fun e hruns' => hruns ⟨e, hruns'⟩
    exact .inr ⟨fun e hruns' => absurd hruns' (hnone e), execute_eq_of_not_runs hnone _⟩

end Host

namespace Shell

/-! ## One command after the other -/

/-- `e.Extends e'`: what was written before is written, and no less time has gone by. -/
structure Effects.Extends (e e' : Effects) : Prop where
  stdout : e.stdout <+: e'.stdout
  stderr : e.stderr <+: e'.stderr
  lasts : e.lasts.nanoseconds ≤ e'.lasts.nanoseconds

/-- `Extends` is reflexive. -/
theorem Effects.Extends.refl (e : Effects) : Effects.Extends e e :=
  ⟨List.prefix_refl _, List.prefix_refl _, le_rfl⟩

/-- `Extends` is transitive. -/
theorem Effects.Extends.trans {e e' e'' : Effects} (h : Effects.Extends e e')
    (h' : Effects.Extends e' e'') : Effects.Extends e e'' :=
  ⟨h.stdout.trans h'.stdout, h.stderr.trans h'.stderr, h.lasts.trans h'.lasts⟩

/-- `Effects.followed e streams next` adds the output of `next` behind that of `e`. -/
theorem Effects.extends_followed (e : Effects) (streams : Streams) (next : Effects) :
    Effects.Extends e (Effects.followed e streams next) :=
  ⟨List.prefix_append _ _, List.prefix_append _ _, Nat.le_add_right _ _⟩

namespace State

variable {s : State} {c : Simple} {cs : List Simple}

/-- `s.assign ws` gives variables values and writes nothing. -/
theorem effects_assign (s : State) (ws : List Word) :
    (s.assign ws).1.effects = s.effects ∧ (s.assign ws).1.disk = s.disk := by
  induction ws generalizing s with
  | nil => exact ⟨rfl, rfl⟩
  | cons w ws ih =>
    unfold assign
    split
    · exact ih _
    · exact ⟨rfl, rfl⟩

/-- **One command** writes behind what was written, and sees the same disk. -/
theorem extends_simple (s : State) (c : Simple) :
    Effects.Extends s.effects (s.simple c).effects ∧ (s.simple c).disk = s.disk := by
  obtain ⟨heffects, hdisk⟩ := s.effects_assign c.words
  unfold simple
  dsimp only
  rw [← heffects, ← hdisk]
  split
  · exact ⟨⟨List.prefix_refl _, List.prefix_refl _, le_rfl⟩, rfl⟩
  · exact ⟨Effects.extends_followed _ _ _, rfl⟩
  · exact ⟨.refl _, rfl⟩
  · exact ⟨Effects.extends_followed _ _ _, rfl⟩

/-- `s.runAll cs = s` behind the end of a script. -/
theorem runAll_of_ended (h : s.ended = true) (cs : List Simple) : s.runAll cs = s := by
  cases cs with
  | nil => rfl
  | cons c cs => rw [runAll, if_pos h]

/-- **Commands** write behind what was written, and see the same disk. -/
theorem extends_runAll (s : State) (cs : List Simple) :
    Effects.Extends s.effects (s.runAll cs).effects ∧ (s.runAll cs).disk = s.disk := by
  induction cs generalizing s with
  | nil => exact ⟨.refl _, rfl⟩
  | cons c cs ih =>
    unfold runAll
    by_cases hended : s.ended = true
    · rw [if_pos hended]
      exact ⟨.refl _, rfl⟩
    · rw [if_neg hended]
      by_cases hwants : s.wants c.joint = true
      · rw [if_pos hwants]
        obtain ⟨hsimple, hdisk⟩ := s.extends_simple c
        obtain ⟨hrest, hsame⟩ := ih (s.simple c)
        exact ⟨hsimple.trans hrest, hsame.trans hdisk⟩
      · rw [if_neg hwants]
        exact ih s

/-- `runAll (cs ++ ds)`: a script is run piece by piece. -/
theorem runAll_append (s : State) (cs ds : List Simple) :
    s.runAll (cs ++ ds) = (s.runAll cs).runAll ds := by
  induction cs generalizing s with
  | nil => rfl
  | cons c cs ih =>
    rw [List.cons_append, runAll, runAll]
    by_cases hended : s.ended = true
    · rw [if_pos hended, if_pos hended, runAll_of_ended hended]
    · rw [if_neg hended, if_neg hended]
      by_cases hwants : s.wants c.joint = true
      · rw [if_pos hwants, if_pos hwants, ih]
      · rw [if_neg hwants, if_neg hwants, ih]

end State

/-! ## Quoting -/

/-- A character between single quotes. A single quote ends them, stands behind a backslash, and
begins them again. -/
def quotedChar (c : Char) : List Char :=
  if c = '\'' then ['\'', '\\', '\'', '\''] else [c]

/-- A text between single quotes. -/
def quoted (text : String) : List Char :=
  '\'' :: (text.toList.flatMap quotedChar ++ ['\''])

/-- A command line of quoted words. -/
def commandLine (words : List String) : List Char :=
  words.flatMap fun w => quoted w ++ [' ']

/-- The pieces that a quoted character is read as. -/
def quotedPieces (c : Char) : List Piece :=
  if c = '\'' then [.char '\'', .quotes] else [.char c]

/-- The word that a quoted text is read as. -/
def quotedWord (text : String) : Word :=
  .quotes :: text.toList.flatMap quotedPieces

namespace Lexer

/-- Between single quotes, `quotedChar c` is read as `quotedPieces c`. -/
theorem foldl_step_quotedChar (tokens : List Token) (w : Word) (c : Char) :
    (quotedChar c).foldl step { tokens := tokens, word := some w, place := .inSingle }
      = { tokens := tokens, word := some (w ++ quotedPieces c), place := .inSingle } := by
  unfold quotedChar quotedPieces
  by_cases hc : c = '\''
  · rw [if_pos hc, if_pos hc]
    show _ = ({ tokens := tokens, word := some (w ++ ([.char '\''] ++ [.quotes])),
                place := .inSingle } : Lexer)
    rw [← List.append_assoc]
    rfl
  · have hstep : step { tokens := tokens, word := some w, place := .inSingle } c
        = { tokens := tokens, word := some (w ++ [.char c]), place := .inSingle } := by
      unfold step
      dsimp only
      rw [if_neg hc]
      rfl
    rw [if_neg hc, if_neg hc, List.foldl_cons, hstep, List.foldl_nil]

/-- Between single quotes, the characters of a text are read one by one: each is put behind the
word, and a quote is left, escaped and entered again. -/
theorem foldl_step_quotedChars (tokens : List Token) (w : Word) (cs : List Char) :
    (cs.flatMap quotedChar).foldl step { tokens := tokens, word := some w, place := .inSingle }
      = { tokens := tokens, word := some (w ++ cs.flatMap quotedPieces), place := .inSingle } := by
  induction cs generalizing w with
  | nil =>
    rw [List.flatMap_nil, List.flatMap_nil, List.append_nil]
    rfl
  | cons c cs ih =>
    rw [List.flatMap_cons, List.foldl_append, foldl_step_quotedChar, ih, List.flatMap_cons,
      List.append_assoc]

/-- `quoted text` and a blank are read as one word. -/
theorem foldl_step_quoted (tokens : List Token) (text : String) :
    (quoted text ++ [' ']).foldl step { tokens := tokens }
      = { tokens := tokens ++ [.word (quotedWord text)] } := by
  have hopen : step { tokens := tokens } '\''
      = { tokens := tokens, word := some [.quotes], place := .inSingle } := rfl
  unfold quoted
  rw [List.cons_append, List.foldl_cons, hopen, List.append_assoc, List.foldl_append,
    foldl_step_quotedChars]
  rfl

/-- `commandLine words` is read as the quoted words, one after the other. -/
theorem foldl_step_commandLine (tokens : List Token) (words : List String) :
    (commandLine words).foldl step { tokens := tokens }
      = { tokens := tokens ++ words.map fun w => .word (quotedWord w) } := by
  induction words generalizing tokens with
  | nil =>
    rw [List.map_nil, List.append_nil]
    rfl
  | cons w words ih =>
    unfold commandLine at ih ⊢
    rw [List.flatMap_cons, List.foldl_append, foldl_step_quoted, ih, List.append_assoc,
      List.map_cons, List.singleton_append]

end Lexer

/-- Words without marks between them are one command. -/
theorem commands_words (s : Simple) (ws : List Word) :
    commands s (ws.map .word) = [{ s with words := s.words ++ ws }] := by
  induction ws generalizing s with
  | nil =>
    rw [List.append_nil]
    rfl
  | cons w ws ih =>
    rw [List.map_cons, commands, ih, List.append_assoc, List.singleton_append]

/-- **A quoted command line is read as one command**, the words of which are the quoted ones. -/
theorem script_commandLine (program : String) (args : List String) :
    script (String.ofList (commandLine (program :: args)))
      = [{ words := (program :: args).map quotedWord }] := by
  have htokens : tokens (commandLine (program :: args))
      = ((program :: args).map quotedWord).map .word := by
    unfold tokens
    have hread := Lexer.foldl_step_commandLine [] (program :: args)
    rw [hread, List.nil_append, List.map_map]
    rfl
  unfold script
  rw [String.toList_ofList, htokens, commands_words]
  rfl

/-! ## Calling through the shell -/

namespace State

/-- `addPiece` puts the characters and quotes of a quoted text behind the last field, without a
split at its blanks. -/
theorem foldl_addPiece_quoted (s : State) (before : List (List Char)) (field cs : List Char) :
    (cs.flatMap quotedPieces).foldl s.addPiece { before := before, last := some field }
      = { before := before, last := some (field ++ cs) } := by
  induction cs generalizing field with
  | nil =>
    rw [List.append_nil]
    rfl
  | cons c cs ih =>
    have hpieces : (quotedPieces c).foldl s.addPiece { before := before, last := some field }
        = { before := before, last := some (field ++ [c]) } := by
      unfold quotedPieces
      by_cases hc : c = '\''
      · rw [if_pos hc, hc]
        rfl
      · rw [if_neg hc]
        rfl
    rw [List.flatMap_cons, List.foldl_append, hpieces, ih, List.append_assoc, List.singleton_append]

/-- `s.expand (quotedWord text)`: a quoted word stands for the text that was quoted, whatever values
the variables have. -/
theorem expand_quotedWord (s : State) (text : String) : s.expand (quotedWord text) = [text] := by
  have hopen : s.addPiece {} .quotes = { before := [], last := some [] } := rfl
  unfold expand quotedWord
  rw [List.foldl_cons, hopen, foldl_addPiece_quoted, List.nil_append]
  show [String.ofList text.toList] = [text]
  rw [String.ofList_toList]

/-- `s.expand` of a quoted word is the text that was quoted, in one field. -/
theorem flatMap_expand_quotedWord (s : State) (texts : List String) :
    (texts.map quotedWord).flatMap s.expand = texts := by
  induction texts with
  | nil => rfl
  | cons text texts ih =>
    rw [List.map_cons, List.flatMap_cons, expand_quotedWord, ih, List.singleton_append]

/-- A quoted word gives no variable a value, as its first piece is quoted. -/
theorem assign_quotedWord (s : State) (text : String) (ws : List Word) :
    s.assign (quotedWord text :: ws) = (s, quotedWord text :: ws) := rfl

/-- `followed {} {} e`: without redirections, the effects of a first command are its own. -/
theorem followed_first (e : Effects) : Effects.followed {} {} e = e := by
  obtain ⟨stdout, stderr, status, lasts⟩ := e
  simp [Effects.followed]

/-- **A quoted command** runs the program with the arguments that were quoted. -/
theorem effects_simple_quoted {s : State} (hfresh : s.effects = {}) {program : String}
    (hexec : program ≠ "exec") (args : List String) :
    (s.simple { words := (program :: args).map quotedWord }).effects
      = (s.command program args).1 := by
  have hwords := s.flatMap_expand_quotedWord (program :: args)
  unfold simple
  rw [List.map_cons, assign_quotedWord]
  dsimp only
  rw [List.map_cons] at hwords
  rw [hwords]
  -- no words, `exec` with and without a command, and a command: only the last can be
  split
  · next hnil => exact absurd hnil nofun
  · next name rest hcons => exact absurd (List.cons_eq_cons.1 hcons).1 hexec
  · next hcons => exact absurd (List.cons_eq_cons.1 hcons).1 hexec
  · next name rest _ _ hcons =>
    obtain ⟨rfl, rfl⟩ := List.cons_eq_cons.1 hcons
    dsimp only
    rw [hfresh]
    exact followed_first _

end State

/-- `runText` of a quoted command line is what the command comes to. -/
theorem runText_commandLine (d : Disk) (pid : UInt32) (names : List String) {program : String}
    (hexec : program ≠ "exec") (args : List String) :
    runText d pid names (String.ofList (commandLine (program :: args)))
      = (State.command { disk := d, bindings := startVariables pid names } program args).1 := by
  unfold runText
  rw [script_commandLine]
  exact State.effects_simple_quoted rfl hexec args

end Shell

namespace Utility

/-- The names of the programs that every system has. -/
def names : List String :=
  ["true", "false", "echo", "printf", "cat", "sleep", "yes", "pwd"]

/-- `run?` runs the programs in `names` and no others. -/
theorem mem_names_of_run? {d : Disk} {program : String} {args : List String} {e : Effects}
    (h : run? d program args = some e) : program ∈ names := by
  unfold run? at h
  split at h
  all_goals simp_all [names]

end Utility

/-- The commands that the shell has itself, other than `exec`. -/
def Shell.builtins : List String :=
  [":", "echo", "exit", "kill", "read"]

/-- `s.command program args`: what the shell does not have itself is looked up. -/
theorem Shell.State.command_of_run? {s : State} {program : String} {args : List String}
    {e : Effects} (h : Utility.run? s.disk program args = some e) (hbuiltin : program ∉ builtins) :
    s.command program args = (e, false) := by
  unfold command
  split
  case h_6 => rw [h]
  all_goals exact absurd (by simp [builtins]) hbuiltin

namespace Host

variable {h : Host} {program : String} {args : List String} {e : Effects}

/-- A program of `Utility.run?` runs when it is asked for by its name. -/
theorem runs_of_run? (hrun : Utility.run? h.disk program args = some e)
    (hnul : ∀ s ∈ args, '\x00' ∉ s.toList) : h.Runs program args e := by
  have hmem := Utility.mem_names_of_run? hrun
  have hplain : ∀ name ∈ Utility.names,
      '\x00' ∉ name.toList ∧ programName name = name ∧ name ≠ "sh" := by decide
  obtain ⟨hname, hfound, hsh⟩ := hplain program hmem
  refine ⟨fun s hs => ?_, ?_⟩
  · rcases List.mem_cons.1 hs with rfl | hs
    · exact hname
    · exact hnul s hs
  · unfold runInstalled?
    rw [hfound, if_neg hsh]
    exact hrun

/-- `sh -c text` runs `text` as a script. -/
theorem runInstalled?_sh (d : Disk) (pid : UInt32) (text : String) :
    runInstalled? d pid "sh" ["-c", text] = some (Shell.runText d pid ["sh"] text) := by
  have hname : programName "sh" = "sh" := by decide
  unfold runInstalled?
  rw [hname, if_pos rfl]
  rfl

/-- `commandLine words` has a NUL character only if one of its words has. -/
theorem nul_not_mem_commandLine {words : List String} (hnul : ∀ s ∈ words, '\x00' ∉ s.toList) :
    '\x00' ∉ (String.ofList (Shell.commandLine words)).toList := by
  rw [String.toList_ofList]
  intro hmem
  obtain ⟨w, hw, hmem⟩ := List.mem_flatMap.1 hmem
  have hquoted : '\x00' ∈ w.toList.flatMap Shell.quotedChar := by
    simpa [Shell.quoted] using hmem
  obtain ⟨c, hc, hchar⟩ := List.mem_flatMap.1 hquoted
  unfold Shell.quotedChar at hchar
  split at hchar
  · exact absurd hchar (by decide)
  · rw [List.mem_singleton.1 hchar] at hnul
    exact hnul w hw hc

/-- Two calls with the same effects come to the same, whatever the limit. -/
theorem Runs.execute_congr {program' : String} {args' : List String}
    (hruns : h.Runs program args e) (hruns' : h.Runs program' args' e) (limit : Option Duration) :
    execute h limit program args = execute h limit program' args' := by
  unfold execute
  rw [if_neg hruns.not_any_nul, if_neg hruns'.not_any_nul, hruns.2, hruns'.2]

/-- **A program does through the shell what it does when it is called.** With its arguments quoted,
`sh -c` comes to the same end, writes the same and is late for the same limits. -/
theorem execute_commandLine (hrun : Utility.run? h.disk program args = some e)
    (hecho : program ≠ "echo") (hnul : ∀ s ∈ args, '\x00' ∉ s.toList) (limit : Option Duration) :
    execute h limit "sh" ["-c", String.ofList (Shell.commandLine (program :: args))]
      = execute h limit program args := by
  have hmem := Utility.mem_names_of_run? hrun
  -- `echo` is left out, since the shell has one of its own that reads backslashes
  have hown : ∀ name ∈ Utility.names, name ≠ "echo" → name ∉ Shell.builtins ∧ name ≠ "exec" := by
    decide
  obtain ⟨hbuiltin, hexec⟩ := hown program hmem hecho
  have hcommand : Shell.State.command
      { disk := h.disk, bindings := Shell.startVariables h.self ["sh"] } program args
      = (e, false) :=
    Shell.State.command_of_run? hrun hbuiltin
  have hdirect : h.Runs program args e := runs_of_run? hrun hnul
  -- the shell is a program with two words, and its script is the quoted command
  have hshell : h.Runs "sh" ["-c", String.ofList (Shell.commandLine (program :: args))] e := by
    refine ⟨fun s hs => ?_, ?_⟩
    · simp only [List.mem_cons, List.not_mem_nil, or_false] at hs
      obtain rfl | rfl | rfl := hs
      · decide
      · decide
      · exact nul_not_mem_commandLine hdirect.1
    · rw [runInstalled?_sh, Shell.runText_commandLine h.disk h.self ["sh"] hexec, hcommand]
  exact hshell.execute_congr hdirect limit

end Host

end Rehearsal

end MountKeeper
