import MountKeeper.MountAll
import MountKeeper.Proofs.Disk.Making
import MountKeeper.Proofs.Traced
import MountKeeper.Rehearsal.System

/-! # The mounts of a batch

The containers of an account are mounted one after the other. A mount can go wrong in three places:
its directory cannot be made, its configuration file cannot be written, or the program that is run
for it fails. None of this is a reason to leave the rest of the batch out.

* `MountAll.Call` is one call of a program, with the host that the program found; `MountAll.calls`
  are those of a batch, in order.
* `MountAll.Goes` says how one attempt may go, `MountAll.Course` how attempts follow one another.
* `MountAll.exists_goes` is one attempt, `MountAll.exists_course` by induction a list of them.
* `MountAll.Batch`: what a batch comes to. `MountAll.exists_batch` is that every batch does. -/

namespace MountKeeper

open Act (Shadows Follows)

namespace MountAll

variable {σ : Type}

/-! ## Calls -/

/-- One call of a program. -/
structure Call (σ : Type) where
  /-- The host that the program found. -/
  host : σ
  program : String
  arguments : List String
  /-- How it ended. -/
  answer : Except Failure CommandOutput

/-- A batch of which the calls of programs are written down. -/
def noted (m : MountAll σ) : MountAll (Traced σ (Call σ)) where
  disk := ⟨fun t => m.disk.get t.host, fun d t => { t with host := m.disk.put d t.host }⟩
  runner := ⟨fun program arguments t =>
    ((m.runner.run program arguments).noted (Call.mk t.host program arguments)).runOn t⟩
  console := ⟨fun line => (m.console.print line).unseen⟩
  binary := m.binary
  containers := m.containers.unseen

/-- The calls of programs that a batch makes. -/
def calls (m : MountAll σ) (options : MountOptions) (h : σ) : List (Call σ) :=
  ((m.noted.run options).runOn ⟨h, []⟩).2.trace

section Following

variable (m : MountAll σ) (options : MountOptions)

/-- `m.noted` calls the same program as `m`. -/
@[simp] theorem noted_binary : m.noted.binary = m.binary := rfl

/-- What a batch does on `m.disk` is not written down. -/
theorem shadows_disk {α : Type} (a : Act Disk α) :
    Shadows (a.on m.noted.disk) (a.on m.disk) fun _ => [] :=
  .on a m.disk

/-- `m.noted.runner.run` writes the call down with the host that it was made on and with how it
ended. -/
theorem runOn_noted_run {program : String} {arguments : List String} {s s' : σ}
    {r : Except Failure CommandOutput}
    (h : (m.runner.run program arguments).runOn s = (r, s')) (T : List (Call σ)) :
    (m.noted.runner.run program arguments).runOn ⟨s, T⟩
      = (r, ⟨s', T ++ [⟨s, program, arguments, r⟩]⟩) :=
  Act.runOn_noted_of h (Call.mk s program arguments) T

/-- `m.noted.runner.run program arguments` writes down the one call. -/
theorem shadows_run (program : String) (arguments : List String) :
    Shadows (m.noted.runner.run program arguments) (m.runner.run program arguments)
      fun s => [⟨s, program, arguments, ((m.runner.run program arguments).runOn s).1⟩] :=
  fun t => m.runOn_noted_run rfl t.trace

/-- `m.noted.containers` writes nothing down. -/
theorem shadows_containers : Shadows m.noted.containers m.containers fun _ => [] :=
  .unseen _

/-- `print line` writes nothing down. -/
theorem shadows_print (line : String) :
    Shadows (m.noted.console.print line) (m.console.print line) fun _ => [] :=
  .unseen _

/-- What a program wrote is shown, unless it wrote nothing. -/
def shown (output : CommandOutput) : Act σ Unit :=
  if !Text.isBlankText output.stdout then m.console.print (Text.trimmedEnd output.stdout)
  else pure ()

/-- `shown output` writes nothing down. -/
theorem shadows_shown (output : CommandOutput) :
    Shadows (m.noted.shown output) (m.shown output) fun _ => [] := by
  unfold shown
  split
  · exact m.shadows_print _
  · exact .pure ()

/-- `m.noted.mountOne` follows `m.mountOne`. -/
theorem follows_mountOne (container mountPath : String) :
    Follows (m.noted.mountOne options container mountPath)
      (m.mountOne options container mountPath) := by
  refine (Follows.inContext _ ⟨_, m.shadows_disk _⟩).bind fun _ => ?_
  refine (Follows.inContext _ ⟨_, m.shadows_disk _⟩).bind fun _ => ?_
  exact Follows.bind ⟨_, m.shadows_run _ _⟩ fun output => ⟨_, m.shadows_shown output⟩

/-- `m.noted.mountEach` follows `m.mountEach`, by induction on the containers. -/
theorem follows_mountEach (containers : List String) :
    Follows (m.noted.mountEach options containers) (m.mountEach options containers) := by
  induction containers with
  | nil => exact .pure _
  | cons container rest ih =>
    refine Follows.bind ⟨_, m.shadows_print _⟩ fun _ => ?_
    refine (m.follows_mountOne options container _).attempt.bind fun answer => ?_
    cases answer with
    | ok u => exact ih
    | error f => exact Follows.bind ⟨_, m.shadows_print _⟩ fun _ => ih.bind fun _ => .pure _

/-- `m.noted.run` follows `m.run`: to be written about changes nothing. -/
theorem follows_run : Follows (m.noted.run options) (m.run options) := by
  refine ((Follows.unseen m.containers).inContext _).bind fun listed => ?_
  refine Follows.ite ⟨_, m.shadows_print _⟩ ?_
  refine (Follows.inContext _ ⟨_, m.shadows_disk _⟩).bind fun _ => ?_
  refine (m.follows_mountEach options _).bind fun failures => ?_
  refine Follows.bind ⟨_, m.shadows_print _⟩ fun _ => ?_
  exact .ite (.refuse _) (.pure _)

end Following

/-! ## Attempts -/

/-- An attempt to mount a container. -/
structure Attempt (σ : Type) where
  container : String
  /-- The call of this program, if it came to that. -/
  call? : Option (Call σ)
  answer : Except Failure Unit

/-- The line that tells of an attempt that failed. -/
def Attempt.line? (a : Attempt σ) : Option String :=
  match a.answer with
  | .ok () => none
  | .error f => some s!"{a.container} - [{f.message}]"

/-- How an attempt may go, with the host before and behind it. -/
inductive Goes (m : MountAll σ) (options : MountOptions) : σ → Attempt σ → σ → Prop
  /-- The directory could not be made. -/
  | noDirectory {container : String} {s s' : σ} {f : Failure}
    (hdir : ((Disk.makeDirs (Path.join options.mountPath container)).on m.disk).runOn s
      = (.error f, s')) :
    Goes m options s ⟨container, none, .error
      (f.within s!"failed to create directory {Path.join options.mountPath container}")⟩ s'
  /-- The directory was made, and the configuration file could not be written. -/
  | noFile {container : String} {s s₁ s' : σ} {f : Failure}
    (hdir : ((Disk.makeDirs (Path.join options.mountPath container)).on m.disk).runOn s
      = (.ok (), s₁))
    (hfile : ((Disk.update (·.writeText (configPath options container)
      (configText options container))).on m.disk).runOn s₁ = (.error f, s')) :
    Goes m options s ⟨container, none, .error
      (f.within s!"failed to write {configPath options container}")⟩ s'
  /-- Both are there, and this program was called and failed. -/
  | refused {container : String} {s s₁ s₂ s' : σ} {f : Failure}
    (hdir : ((Disk.makeDirs (Path.join options.mountPath container)).on m.disk).runOn s
      = (.ok (), s₁))
    (hfile : ((Disk.update (·.writeText (configPath options container)
      (configText options container))).on m.disk).runOn s₁ = (.ok (), s₂))
    (hrun : (m.runner.run m.binary (arguments options container
      (Path.join options.mountPath container))).runOn s₂ = (.error f, s')) :
    Goes m options s ⟨container, some ⟨s₂, m.binary, arguments options container
      (Path.join options.mountPath container), .error f⟩, .error f⟩ s'
  /-- Both are there, and this program was called and has mounted the container. -/
  | mounted {container : String} {s s₁ s₂ s₃ s' : σ} {output : CommandOutput}
    (hdir : ((Disk.makeDirs (Path.join options.mountPath container)).on m.disk).runOn s
      = (.ok (), s₁))
    (hfile : ((Disk.update (·.writeText (configPath options container)
      (configText options container))).on m.disk).runOn s₁ = (.ok (), s₂))
    (hrun : (m.runner.run m.binary (arguments options container
      (Path.join options.mountPath container))).runOn s₂ = (.ok output, s₃))
    (hshow : (m.shown output).runOn s₃ = (.ok (), s')) :
    Goes m options s ⟨container, some ⟨s₂, m.binary, arguments options container
      (Path.join options.mountPath container), .ok output⟩, .ok ()⟩ s'

/-- Attempts that follow one another, with the host before and behind them. Each is announced, and a
failure is reported before the next attempt. -/
inductive Course (m : MountAll σ) (options : MountOptions) : σ → List (Attempt σ) → σ → Prop
  | done {s : σ} : Course m options s [] s
  | succeeded {a : Attempt σ} {rest : List (Attempt σ)} {s s₁ s₂ s' : σ}
    (hsay : (m.console.print s!"Mounting container : {a.container} to path {
      Path.join options.mountPath a.container}").runOn s = (.ok (), s₁))
    (hgoes : Goes m options s₁ a s₂) (hok : a.answer = .ok ())
    (hrest : Course m options s₂ rest s') : Course m options s (a :: rest) s'
  | failed {a : Attempt σ} {rest : List (Attempt σ)} {s s₁ s₂ s₃ s' : σ} {f : Failure}
    (hsay : (m.console.print s!"Mounting container : {a.container} to path {
      Path.join options.mountPath a.container}").runOn s = (.ok (), s₁))
    (hgoes : Goes m options s₁ a s₂) (hfailed : a.answer = .error f)
    (hreport : (m.console.print s!"Failed to mount container {a.container} : {f.message}").runOn s₂
      = (.ok (), s₃))
    (hrest : Course m options s₃ rest s') : Course m options s (a :: rest) s'

/-- A host on which the disk is the one that was put there, and lines can be shown. -/
structure Lawful (m : MountAll σ) : Prop where
  get_put : ∀ d h, m.disk.get (m.disk.put d h) = d
  prints : ∀ line h, ((m.console.print line).runOn h).1 = .ok ()

variable {m : MountAll σ}

/-- A `Lawful` console shows every line. -/
theorem Lawful.exists_print (hm : m.Lawful) (line : String) (s : σ) :
    ∃ s', (m.console.print line).runOn s = (.ok (), s') :=
  ⟨_, Prod.ext (hm.prints line s) rfl⟩

/-- What a program wrote can be shown. -/
theorem Lawful.exists_shown (hm : m.Lawful) (output : CommandOutput) (s : σ) :
    ∃ s', (m.shown output).runOn s = (.ok (), s') := by
  unfold shown
  split
  · exact hm.exists_print _ s
  · exact ⟨s, rfl⟩

/-- **One attempt** goes in one of the ways of `Goes`, and the calls behind it are those of the
attempt. -/
theorem exists_goes (hm : m.Lawful) (options : MountOptions) (container : String) (s : σ)
    (T : List (Call σ)) :
    ∃ (a : Attempt σ) (s' : σ), a.container = container ∧ Goes m options s a s' ∧
      (m.noted.mountOne options container (Path.join options.mountPath container)).runOn ⟨s, T⟩
        = (a.answer, ⟨s', T ++ a.call?.toList⟩) := by
  unfold mountOne
  -- the three steps in turn: where one of them fails, the attempt is over
  rw [Act.runOn_bind, Act.runOn_inContext]
  rcases hdir : ((Disk.makeDirs (Path.join options.mountPath container)).on m.disk).runOn s
    with ⟨_ | ⟨⟩, s₁⟩
  · rw [(m.shadows_disk _).runOn_quiet hdir T]
    exact ⟨_, s₁, rfl, .noDirectory hdir, by rw [Option.toList_none, List.append_nil]⟩
  rw [(m.shadows_disk _).runOn_quiet hdir T]
  dsimp only
  rw [Act.runOn_bind, Act.runOn_inContext]
  rcases hfile : ((Disk.update (·.writeText (configPath options container)
    (configText options container))).on m.disk).runOn s₁ with ⟨_ | ⟨⟩, s₂⟩
  · rw [(m.shadows_disk _).runOn_quiet hfile T]
    exact ⟨_, s₂, rfl, .noFile hdir hfile, by rw [Option.toList_none, List.append_nil]⟩
  rw [(m.shadows_disk _).runOn_quiet hfile T]
  dsimp only
  rw [Act.runOn_bind]
  rcases hrun : (m.runner.run m.binary (arguments options container
    (Path.join options.mountPath container))).runOn s₂ with ⟨f | output, s₃⟩
  · rw [noted_binary, m.runOn_noted_run hrun T]
    exact ⟨_, s₃, rfl, .refused hdir hfile hrun, rfl⟩
  · rw [noted_binary, m.runOn_noted_run hrun T]
    obtain ⟨s', hshow⟩ := hm.exists_shown output s₃
    exact ⟨_, s', rfl, .mounted hdir hfile hrun hshow,
      (m.shadows_shown output).runOn_quiet hshow _⟩

/-- **A list of containers** is attempted from its first to its last. The induction is on the list:
what one attempt leaves is what the next one begins with. -/
theorem exists_course (hm : m.Lawful) (options : MountOptions) (containers : List String) (s : σ)
    (T : List (Call σ)) :
    ∃ (attempts : List (Attempt σ)) (s' : σ), attempts.map (·.container) = containers ∧
      Course m options s attempts s' ∧
      (m.noted.mountEach options containers).runOn ⟨s, T⟩
        = (.ok (attempts.filterMap (·.line?)), ⟨s', T ++ attempts.filterMap (·.call?)⟩) := by
  -- by induction on the containers: the others start from the host and the calls that the attempt
  -- at the first one leaves, whether it failed or not
  induction containers generalizing s T with
  | nil => exact ⟨[], s, rfl, .done, by
      rw [List.filterMap_nil, List.filterMap_nil, List.append_nil]
      rfl⟩
  | cons container rest ih =>
    rw [mountEach]
    obtain ⟨s₁, hsay⟩ := hm.exists_print
      s!"Mounting container : {container} to path {Path.join options.mountPath container}" s
    obtain ⟨a, s₂, rfl, hgoes, hone⟩ := exists_goes hm options container s₁ T
    rw [Act.runOn_bind, (m.shadows_print _).runOn_quiet hsay T]
    dsimp only
    rw [Act.runOn_bind, Act.runOn_attempt, hone]
    dsimp only
    have hcalls : ∀ attempts : List (Attempt σ), T ++ (a :: attempts).filterMap (·.call?)
        = T ++ a.call?.toList ++ attempts.filterMap (·.call?) := by
      intro attempts
      rw [List.append_assoc]
      cases hcall : a.call? <;> simp [hcall]
    cases hanswer : a.answer with
    | ok u =>
      obtain ⟨attempts, s', hall, hcourse, hrest⟩ := ih s₂ (T ++ a.call?.toList)
      refine ⟨a :: attempts, s', by rw [List.map_cons, hall],
        .succeeded hsay hgoes hanswer hcourse, ?_⟩
      have hline : a.line? = none := by rw [Attempt.line?, hanswer]
      rw [hcalls, List.filterMap_cons_none hline]
      exact hrest
    | error f =>
      obtain ⟨s₃, hreport⟩ := hm.exists_print
        s!"Failed to mount container {a.container} : {f.message}" s₂
      obtain ⟨attempts, s', hall, hcourse, hrest⟩ := ih s₃ (T ++ a.call?.toList)
      refine ⟨a :: attempts, s', by rw [List.map_cons, hall],
        .failed hsay hgoes hanswer hreport hcourse, ?_⟩
      have hline : a.line? = some s!"{a.container} - [{f.message}]" := by
        rw [Attempt.line?, hanswer]
      rw [hcalls, List.filterMap_cons_some hline]
      dsimp only
      rw [Act.runOn_bind, (m.shadows_print _).runOn_quiet hreport _]
      dsimp only
      rw [Act.runOn_bind, hrest]
      rfl

/-! ## What was called for -/

/-- A call is for a container: this program is called to mount it, its directory is there, and so is
its configuration file. -/
structure Call.IsFor (m : MountAll σ) (options : MountOptions) (container : String) (c : Call σ) :
    Prop where
  program : c.program = m.binary
  arguments : c.arguments = "mount" :: Path.join options.mountPath container
    :: ("--config-file=" ++ Path.join options.workDir s!"config_{container}.yaml")
    :: (if options.fuseOptions.isEmpty then []
        else ["-o", ",".intercalate (options.fuseOptions.map (·.display))])
  directory : Path.join options.mountPath container ≠ "" →
    (m.disk.get c.host).isDir (Path.join options.mountPath container) = true
  file : (m.disk.get c.host).readText (Path.join options.workDir s!"config_{container}.yaml")
    = .ok (Container.document options.config.document container options.config.cache.path).toText

variable {options : MountOptions}

/-- Behind the directory and the configuration file, the call `IsFor` its container: the file
operations were answered, and nothing has touched the disk since. -/
theorem Lawful.isFor (hm : m.Lawful) {container : String} {s s₁ s₂ : σ}
    (hdir : ((Disk.makeDirs (Path.join options.mountPath container)).on m.disk).runOn s
      = (.ok (), s₁))
    (hfile : ((Disk.update (·.writeText (configPath options container)
      (configText options container))).on m.disk).runOn s₁ = (.ok (), s₂))
    (answer : Except Failure CommandOutput) :
    Call.IsFor m options container ⟨s₂, m.binary, MountAll.arguments options container
      (Path.join options.mountPath container), answer⟩ := by
  have hmade := Act.runOn_of_on hm.get_put hdir
  have hwritten := Disk.eq_ok_of_runOn_update (Act.runOn_of_on hm.get_put hfile)
  exact {
    program := rfl
    arguments := rfl
    directory := fun hpath => Disk.isDir_of_writeText hwritten (Disk.isDir_of_makeDirs hpath hmade)
    file := Disk.readText_of_writeText hwritten }

/-- The call of an attempt, if it comes to one, `IsFor` its container. -/
theorem Goes.isFor (hm : m.Lawful) {a : Attempt σ} {s s' : σ} (h : Goes m options s a s') :
    ∀ c ∈ a.call?, c.IsFor m options a.container := by
  intro c hc
  cases h with
  | noDirectory hdir => cases hc
  | noFile hdir hfile => cases hc
  | refused hdir hfile hrun =>
    cases hc
    exact hm.isFor hdir hfile _
  | mounted hdir hfile hrun hshow =>
    cases hc
    exact hm.isFor hdir hfile _

/-- An attempt has succeeded if and only if its call has. -/
theorem Goes.answer_eq_ok_iff {a : Attempt σ} {s s' : σ} (h : Goes m options s a s') :
    a.answer = .ok () ↔ ∃ c ∈ a.call?, ∃ output, c.answer = .ok output := by
  cases h with
  | noDirectory hdir => simp
  | noFile hdir hfile => simp
  | refused hdir hfile hrun => simp
  | mounted hdir hfile hrun hshow => simp

/-- Every attempt of a `Course` goes in one of the ways of `Goes`. -/
theorem Course.goes {attempts : List (Attempt σ)} {s s' : σ} (h : Course m options s attempts s') :
    ∀ a ∈ attempts, ∃ s₁ s₂, Goes m options s₁ a s₂ := by
  induction h with
  | done => exact fun a ha => absurd ha List.not_mem_nil
  | succeeded hsay hgoes hok hrest ih => exact List.forall_mem_cons.2 ⟨⟨_, _, hgoes⟩, ih⟩
  | failed hsay hgoes hfailed hreport hrest ih => exact List.forall_mem_cons.2 ⟨⟨_, _, hgoes⟩, ih⟩

/-! ## Batches -/

/-- What a batch comes to, with the containers that were listed, the host behind the listing, and
the attempts that were made. -/
structure Batch (m : MountAll σ) (options : MountOptions) (h : σ) (listed : List String) (h₁ : σ)
    (attempts : List (Attempt σ)) : Prop where
  /-- The containers that are let through are attempted, as often as they are listed, in order. -/
  tried : attempts.map (·.container) = listed.filter fun container =>
    if options.config.containers.allow = [] then decide (container ∉ options.config.containers.deny)
    else decide (container ∈ options.config.containers.allow)
  /-- They follow one another, whatever fails, once there is a working directory. -/
  course : attempts ≠ [] → ∃ s s',
    ((Disk.makeDirs options.workDir).on m.disk).runOn h₁ = (.ok (), s) ∧
      Course m options s attempts s'
  /-- An attempt calls this program at most once, and nothing else is called. -/
  calls : m.calls options h = attempts.filterMap (·.call?)
  /-- It does so when everything is there. -/
  isFor : ∀ a ∈ attempts, ∀ c ∈ a.call?, c.IsFor m options a.container
  /-- It has succeeded when the call has. -/
  answers : ∀ a ∈ attempts,
    a.answer = .ok () ↔ ∃ c ∈ a.call?, ∃ output, c.answer = .ok output
  /-- The batch has succeeded when all attempts have. -/
  succeeds : ((m.run options).runOn h).1 = .ok () ↔ ∀ a ∈ attempts, a.answer = .ok ()
  /-- Otherwise it fails with a line for each attempt that failed, in order, and says how many have
  not. -/
  fails : ((m.run options).runOn h).1 ≠ .ok () → ∃ succeeded,
    succeeded + (attempts.filterMap (·.line?)).length = attempts.length ∧
      ((m.run options).runOn h).1 = .error (.ofSession
        (.partialBatch succeeded attempts.length (attempts.filterMap (·.line?))))

/-- `Container.chosen f listed` lets through what is allowed, where something is allowed by name,
and else what is not denied. -/
theorem chosen_eq (f : ContainerFilter) (listed : List String) :
    Container.chosen f listed = listed.filter fun container =>
      if f.allow = [] then decide (container ∉ f.deny) else decide (container ∈ f.allow) := by
  refine List.filter_congr fun container _ => ?_
  unfold Container.passes
  rcases f.allow with _ | ⟨name, names⟩
  · simp
  · simp

/-- `a.line? = none` if and only if the attempt succeeded. -/
theorem Attempt.line?_eq_none_iff {a : Attempt σ} : a.line? = none ↔ a.answer = .ok () := by
  unfold Attempt.line?
  cases a.answer <;> simp

/-- There are no lines if and only if all attempts have succeeded. -/
theorem lines_eq_nil_iff {attempts : List (Attempt σ)} :
    attempts.filterMap (·.line?) = [] ↔ ∀ a ∈ attempts, a.answer = .ok () := by
  simp only [List.filterMap_eq_nil_iff, Attempt.line?_eq_none_iff]

/-- `ending total failures`: how a batch of `total` attempts ends, with the lines of those that
failed. -/
def ending (total : Nat) (failures : List String) : Except Failure Unit :=
  if failures = [] then .ok ()
  else .error (.ofSession (.partialBatch (total - failures.length) total failures))

/-- `ending total failures = .ok ()` if and only if there are no lines. -/
theorem ending_eq_ok_iff {total : Nat} {failures : List String} :
    ending total failures = .ok () ↔ failures = [] := by
  unfold ending
  split <;> simp [*]

/-- The numbers of a batch that failed add up: `succeeded + failures.length = total`. -/
theorem exists_succeeded {total : Nat} {failures : List String} (hle : failures.length ≤ total)
    (h : ending total failures ≠ .ok ()) :
    ∃ succeeded, succeeded + failures.length = total ∧
      ending total failures = .error (.ofSession (.partialBatch succeeded total failures)) := by
  refine ⟨_, Nat.sub_add_cancel hle, ?_⟩
  unfold ending
  exact if_neg fun hnone => h (ending_eq_ok_iff.2 hnone)

/-- The last step of a batch answers `ending total failures`. -/
theorem runOn_ending {τ : Type} (total : Nat) (failures : List String) (t : τ) :
    (if !failures.isEmpty then
      Act.refuse (.partialBatch (total - failures.length) total failures)
    else pure () : Act τ Unit).runOn t = (ending total failures, t) := by
  cases failures <;> rfl

/-- Mounts the containers that were let through. -/
def mountChosen (m : MountAll σ) (options : MountOptions) (chosen : List String) : Act σ Unit :=
  if chosen.isEmpty then m.console.print "No containers to mount from this account"
  else do
    Act.inContext s!"failed to create {options.workDir}" ((Disk.makeDirs options.workDir).on m.disk)
    let failures ← m.mountEach options chosen
    m.console.print (Numeral.decimal (chosen.length - failures.length) ++ " of "
      ++ Numeral.decimal chosen.length ++ " containers were successfully mounted")
    if !failures.isEmpty then
      Act.refuse (.partialBatch (chosen.length - failures.length) chosen.length failures)

/-- `m.run options` lists the containers, and goes on with those that the filter lets through. -/
theorem run_eq (m : MountAll σ) (options : MountOptions) :
    m.run options = Act.inContext "failed to get container list from storage" m.containers
      >>= fun listed => m.mountChosen options (Container.chosen options.config.containers listed) :=
  rfl

/-- What was let through, `chosen`, is attempted, and the batch ends as the attempts have: `ending
attempts.length`. -/
theorem exists_attempts (hm : m.Lawful) {chosen : List String} {s : σ}
    (hwork : chosen ≠ [] →
      ∃ s₁, ((Disk.makeDirs options.workDir).on m.disk).runOn s = (.ok (), s₁)) :
    ∃ (attempts : List (Attempt σ)) (s' : σ), attempts.map (·.container) = chosen ∧
      (attempts ≠ [] → ∃ s₁ s₂, ((Disk.makeDirs options.workDir).on m.disk).runOn s = (.ok (), s₁) ∧
        Course m options s₁ attempts s₂) ∧
      (m.noted.mountChosen options chosen).runOn ⟨s, []⟩
        = (ending attempts.length (attempts.filterMap (·.line?)),
          ⟨s', attempts.filterMap (·.call?)⟩) := by
  unfold mountChosen
  by_cases hnone : chosen = []
  · -- nothing is made, not even the working directory
    subst hnone
    obtain ⟨s', hsay⟩ := hm.exists_print "No containers to mount from this account" s
    exact ⟨[], s', rfl, fun hne => absurd rfl hne, (m.shadows_print _).runOn_quiet hsay []⟩
  · obtain ⟨s₁, hmade⟩ := hwork hnone
    obtain ⟨attempts, s₂, hall, hcourse, hrun⟩ := exists_course hm options chosen s₁ []
    have hlength : chosen.length = attempts.length := by rw [← hall, List.length_map]
    obtain ⟨s', hsum⟩ := hm.exists_print (Numeral.decimal (attempts.length
      - (attempts.filterMap (·.line?)).length) ++ " of " ++ Numeral.decimal attempts.length
      ++ " containers were successfully mounted") s₂
    refine ⟨attempts, s', hall, fun _ => ⟨s₁, s₂, hmade, hcourse⟩, ?_⟩
    rw [if_neg (by simp [hnone]), Act.runOn_bind, Act.runOn_inContext,
      (m.shadows_disk _).runOn_quiet hmade]
    dsimp only
    rw [Act.runOn_bind, hrun, hlength]
    dsimp only
    rw [Act.runOn_bind, (m.shadows_print _).runOn_quiet hsum]
    exact runOn_ending _ _ _

/-- **Every batch.** Whatever the program that is run and the disk do about single containers: those
of `Container.chosen` are attempted, as often as they are listed and in order, and the batch has
succeeded if and only if all attempts have. -/
theorem exists_batch (hm : m.Lawful) {listed : List String} {h h₁ : σ}
    (hlist : m.containers.runOn h = (.ok listed, h₁))
    (hwork : Container.chosen options.config.containers listed ≠ [] →
      ∃ h₂, ((Disk.makeDirs options.workDir).on m.disk).runOn h₁ = (.ok (), h₂)) :
    ∃ attempts, Batch m options h listed h₁ attempts := by
  obtain ⟨attempts, h', hall, hcourse, hchosen⟩ := exists_attempts hm hwork
  have hrun : (m.noted.run options).runOn ⟨h, []⟩
      = (ending attempts.length (attempts.filterMap (·.line?)),
        ⟨h', attempts.filterMap (·.call?)⟩) := by
    rw [run_eq, Act.runOn_bind, Act.runOn_inContext, m.shadows_containers.runOn_quiet hlist]
    exact hchosen
  -- the batch itself answers as the one of which the calls are written down
  have hends : ((m.run options).runOn h).1
      = ending attempts.length (attempts.filterMap (·.line?)) := by
    obtain ⟨w, hfollows⟩ := m.follows_run options
    rw [hfollows ⟨h, []⟩] at hrun
    exact congrArg Prod.fst hrun
  have hgoes : ∀ a ∈ attempts, ∃ s₁ s₂, Goes m options s₁ a s₂ := by
    intro a ha
    obtain ⟨s, s', -, hcourse⟩ := hcourse (List.ne_nil_of_mem ha)
    exact hcourse.goes a ha
  refine ⟨attempts, ?_⟩
  exact {
    tried := hall.trans (chosen_eq _ listed)
    course := hcourse
    calls := by rw [calls, hrun]
    isFor := fun a ha => by
      obtain ⟨s₁, s₂, h⟩ := hgoes a ha
      exact h.isFor hm
    answers := fun a ha => by
      obtain ⟨s₁, s₂, h⟩ := hgoes a ha
      exact h.answer_eq_ok_iff
    succeeds := by rw [hends, ending_eq_ok_iff, lines_eq_nil_iff]
    fails := fun hfailed => by
      rw [hends] at hfailed ⊢
      exact exists_succeeded (List.length_filterMap_le _ _) hfailed }

end MountAll

/-! ### A batch of which a part fails -/

namespace Rehearsal.Host

open Act

/-- The containers that are listed: one of them twice. -/
def listedContainers : List String := ["logs", "data", "tmp", "logs"]

/-- Mounts all containers of an account, where programs are played by rules. -/
def ruledMounts : MountAll Host where
  disk := diskPart
  runner := runner
  console := console
  binary := "/bin/cloudfuse"
  containers := pure listedContainers

/-- One container is left out. -/
def mountsAllButTmp : MountOptions where
  mountPath := "/mnt"
  configPath := none
  foreground := false
  nonempty := false
  fuseOptions := []
  workDir := "/w"
  waitForMount := MountOptions.defaultWait
  remount := {}
  config := { containers := { deny := ["tmp"] } }

/-- A host with a file where the directory of a container would be. -/
def withObstacle : Host where
  surroundings := ⟨"/root", "/"⟩
  disk := { nodes := [(["mnt"], .directory), (["mnt", "logs"], .file "".toUTF8)] }

/-- `ruledMounts` is `Lawful`: lines go into the journal. -/
theorem lawful_ruledMounts : ruledMounts.Lawful where
  get_put _ _ := rfl
  prints _ _ := rfl

/-- `exists_batch` at a list with `logs` twice and an obstacle in its way: both attempts at it fail,
and the one between them succeeds. -/
theorem exists_batch_withObstacle :
    ruledMounts.Lawful ∧
    ruledMounts.containers.runOn withObstacle = (.ok listedContainers, withObstacle) ∧
    (Container.chosen mountsAllButTmp.config.containers listedContainers ≠ [] →
      ∃ h, ((Disk.makeDirs mountsAllButTmp.workDir).on ruledMounts.disk).runOn withObstacle
        = (.ok (), h)) ∧
    failure? ((ruledMounts.run mountsAllButTmp).runOn withObstacle).1
      = some (.ofSession (.partialBatch 1 3 [
        "logs - [failed to create directory /mnt/logs: File exists (os error 17)]",
        "logs - [failed to create directory /mnt/logs: File exists (os error 17)]"])) ∧
    ∃ attempts, MountAll.Batch ruledMounts mountsAllButTmp withObstacle listedContainers
      withObstacle attempts := by
  have hlist : ruledMounts.containers.runOn withObstacle
      = (.ok listedContainers, withObstacle) := rfl
  have hwork : ∃ h, ((Disk.makeDirs mountsAllButTmp.workDir).on ruledMounts.disk).runOn withObstacle
      = (.ok (), h) := ⟨_, runOn_of_toOption (by decide +kernel)⟩
  refine ⟨lawful_ruledMounts, hlist, fun _ => hwork, by decide +kernel, ?_⟩
  exact MountAll.exists_batch lawful_ruledMounts hlist fun _ => hwork

end Rehearsal.Host

end MountKeeper
