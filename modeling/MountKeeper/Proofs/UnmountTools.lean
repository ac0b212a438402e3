import MountKeeper.Proofs.Traced
import MountKeeper.UnmountTools

/-! # Which unmount tools are run

The tools of a list are run one after the other, as long as they cannot be found. The first one that
runs decides, whether it works or not.

* `Failure.SaysMissing`: a failure of which the cause is that a tool could not be found, in whatever
  contexts.
* `CommandRunner.answered` writes down the calls of a runner with their answers.
* `UnmountTools.Course` is how a search can go; `UnmountTools.exists_course`: every search goes so.
* `UnmountTools.Fallback` says which tools are run and what is answered, and
  `UnmountTools.falls_back` that it is so for all tools, paths and runners. -/

namespace MountKeeper

variable {σ : Type}

/-- A failure says that a tool could not be found: there is one error in its chain that is more than a
text, and it says so. -/
def Failure.SaysMissing (f : Failure) : Prop :=
  ∃ tool, f.cause = .session (.toolNotFound tool)

/-- The check of the code is `SaysMissing`, under any contexts. -/
theorem Failure.isToolNotFound_iff {f : Failure} : f.isToolNotFound = true ↔ f.SaysMissing := by
  obtain ⟨contexts, cause⟩ := f
  unfold isToolNotFound kind? SaysMissing
  cases cause with
  | session e => cases e <;> simp [SessionError.kind]
  | os e => simp
  | plain text => simp
  | overflow => simp

/-- A failure that says that a tool is missing has the kind `toolNotFound`. -/
theorem Failure.kind?_of_saysMissing {f : Failure} (h : f.SaysMissing) :
    f.kind? = some .toolNotFound := by
  obtain ⟨tool, hcause⟩ := h
  rw [kind?, hcause]
  rfl

/-- A call of a program, with its answer. -/
abbrev ProgramCall := (String × List String) × Except Failure CommandOutput

/-- The runner, with its calls written down. -/
def CommandRunner.answered (runner : CommandRunner σ) : CommandRunner (Traced σ ProgramCall) where
  run program args := (runner.run program args).answered (program, args)

namespace UnmountTools

variable {runner : CommandRunner σ} {args tools : List String} {f : Failure}
  {calls : List ProgramCall} {r : Except Failure Unit}

/-- The answer of a program that could not be found. -/
def Missing : Except Failure CommandOutput → Prop
  | .ok _ => False
  | .error f => f.SaysMissing

/-- What the last call decides, if there is one; else a failure stands. -/
def decided (f : Failure) : Option ProgramCall → Except Failure Unit
  | none => .error f
  | some (_, .ok _) => .ok ()
  | some (_, .error g) => .error g

/-- `decided f last` is a success if and only if there was a last call and it succeeded. -/
theorem decided_eq_ok_iff {last : Option ProgramCall} :
    decided f last = .ok () ↔ ∃ call output, last = some (call, .ok output) := by
  cases last with
  | none => simp [decided]
  | some last =>
    obtain ⟨call, answer⟩ := last
    cases answer <;> simp [decided]

/-- A context makes no success of a failure, and none the other way round. -/
theorem mapError_eq_ok_iff {g : Failure → Failure} : r.mapError g = .ok () ↔ r = .ok () := by
  cases r with
  | ok _ => exact Iff.rfl
  | error f => exact ⟨nofun, nofun⟩

/-! ## Searches -/

/-- How a search through tools goes, with the failure of the tool before them: the calls that it makes,
and what it answers. -/
inductive Course (args : List String) :
    Failure → List String → List ProgramCall → Except Failure Unit → Prop
  /-- There is no tool left. -/
  | exhausted {f : Failure} : Course args f [] [] (.error f)
  /-- A tool works. -/
  | worked {f : Failure} {tool : String} {rest : List String} {output : CommandOutput} :
    Course args f (tool :: rest) [((tool, args), .ok output)] (.ok ())
  /-- A tool runs and fails. -/
  | broken {f g : Failure} {tool : String} {rest : List String} (found : ¬ g.SaysMissing) :
    Course args f (tool :: rest) [((tool, args), .error g)] (.error g)
  /-- A tool cannot be found, and the search goes on. -/
  | missing {f g : Failure} {tool : String} {rest : List String} {calls : List ProgramCall}
    {r : Except Failure Unit} (unfound : g.SaysMissing) (rest_course : Course args g rest calls r) :
    Course args f (tool :: rest) (((tool, args), .error g) :: calls) r

/-- **Every search goes so**, whatever the runner answers. -/
theorem exists_course (runner : CommandRunner σ) (args tools : List String) (f : Failure) (s : σ)
    (T : List ProgramCall) :
    ∃ calls r s', Course args f tools calls r ∧
      (tryInOrder runner.answered args f tools).runOn ⟨s, T⟩ = (r, ⟨s', T ++ calls⟩) := by
  induction tools generalizing f s T with
  | nil => exact ⟨[], .error f, s, .exhausted, by rw [List.append_nil]; rfl⟩
  | cons tool rest ih =>
    rcases hrun : (runner.run tool args).runOn s with ⟨answer, s'⟩
    have hcall : (runner.answered.run tool args).runOn ⟨s, T⟩
        = (answer, ⟨s', T ++ [((tool, args), answer)]⟩) := Act.runOn_answered_of hrun (tool, args) T
    rw [tryInOrder, Act.runOn_bind, Act.runOn_attempt, hcall]
    cases answer with
    | ok output => exact ⟨_, _, s', .worked, rfl⟩
    | error g =>
      dsimp only
      -- a tool that is not there hands over to the rest; any other failure is the answer
      by_cases hg : g.isToolNotFound = true
      · obtain ⟨calls, r, s'', hcourse, hrest⟩ := ih g s' (T ++ [((tool, args), .error g)])
        refine ⟨_, r, s'', hcourse.missing (Failure.isToolNotFound_iff.1 hg), ?_⟩
        rw [if_pos hg, hrest, List.append_assoc, List.singleton_append]
      · refine ⟨_, _, s', .broken fun h => hg (Failure.isToolNotFound_iff.2 h), ?_⟩
        rw [if_neg hg]
        rfl

namespace Course

/-- The tools are called from the front of the list. -/
theorem map_fst (h : Course args f tools calls r) :
    calls.map Prod.fst = (tools.take calls.length).map fun tool => (tool, args) := by
  induction h with
  | exhausted => rfl
  | worked => rfl
  | broken _ => rfl
  | missing _ _ ih => rw [List.map_cons, ih, List.length_cons, List.take_succ_cons, List.map_cons]

/-- Only the last tool that was called can have been found. -/
theorem missing_of_mem_dropLast (h : Course args f tools calls r) :
    ∀ call ∈ calls.dropLast, Missing call.2 := by
  induction h with
  | exhausted => simp
  | worked => simp
  | broken _ => simp
  | @missing f g tool rest calls r unfound _ ih =>
    cases calls with
    | nil => simp
    | cons next calls =>
      rw [List.dropLast_cons_of_ne_nil (List.cons_ne_nil _ _)]
      exact List.forall_mem_cons.2 ⟨unfound, ih⟩

/-- Tools are left over only behind one that was found. -/
theorem length_or_found (h : Course args f tools calls r) :
    calls.length = tools.length ∨ ∃ call, calls.getLast? = some call ∧ ¬ Missing call.2 := by
  induction h with
  | exhausted => exact .inl rfl
  | worked => exact .inr ⟨_, rfl, id⟩
  | broken found => exact .inr ⟨_, rfl, found⟩
  | missing _ _ ih =>
    rcases ih with hall | ⟨call, hlast, hfound⟩
    · exact .inl (by rw [List.length_cons, List.length_cons, hall])
    · exact .inr ⟨call, by rw [List.getLast?_cons, hlast]; rfl, hfound⟩

/-- What is answered is what the last call decides. -/
theorem answer_eq (h : Course args f tools calls r) : r = decided f calls.getLast? := by
  induction h with
  | exhausted => rfl
  | worked => rfl
  | broken _ => rfl
  | @missing f g tool rest calls r _ _ ih =>
    rw [ih, List.getLast?_cons]
    cases calls.getLast? with
    | none => rfl
    | some call =>
      obtain ⟨_, answer⟩ := call
      cases answer <;> rfl

/-- With every tool missing, all of them were called. -/
theorem length_eq (h : Course args f tools calls r) (hall : ∀ call ∈ calls, Missing call.2) :
    calls.length = tools.length := by
  refine h.length_or_found.resolve_right ?_
  rintro ⟨call, hlast, hfound⟩
  exact hfound (hall call (List.mem_of_getLast? hlast))

end Course

/-! ## What an unmount does with its tools -/

/-- To write down the calls changes nothing of what `tryInOrder` does. -/
theorem follows_tryInOrder (runner : CommandRunner σ) (args tools : List String) (f : Failure) :
    Act.Follows (tryInOrder runner.answered args f tools) (tryInOrder runner args f tools) := by
  induction tools generalizing f with
  | nil => exact .fail f
  | cons tool rest ih =>
    refine (Act.Follows.answered (tool, args) (runner.run tool args)).attempt.bind fun answer => ?_
    cases answer with
    | ok output => exact .pure ()
    | error g => exact .ite (ih g) (.fail g)

/-- **What an unmount does with its tools**: the calls that it makes, and its answer. -/
structure Fallback (tools : List String) (path : String) (lazily : Bool) (calls : List ProgramCall)
    (r : Except Failure Unit) : Prop where
  /-- The tools are called in order, each of them once at most, and all with the same arguments. -/
  in_order : calls.map Prod.fst
    = (tools.take calls.length).map fun tool => (tool, arguments path lazily)
  /-- Only a tool that could not be found is followed by another one. -/
  goes_on : ∀ call ∈ calls.dropLast, Missing call.2
  /-- Only a tool that was found leaves tools behind it that are not called. -/
  stops : calls.length = tools.length ∨ ∃ call, calls.getLast? = some call ∧ ¬ Missing call.2
  /-- It succeeds when the last tool that was called has. -/
  succeeds : r = .ok () ↔ ∃ call output, calls.getLast? = some (call, .ok output)
  /-- Otherwise the failure of that tool is handed on in a context, and keeps its kind. -/
  fails : ∀ call f, calls.getLast? = some (call, .error f) →
    r = .error (f.within s!"failed to unmount {path}") ∧
      (f.within s!"failed to unmount {path}").kind? = f.kind?
  /-- When no tool could be found, each of them was called once, and the failure says so. -/
  all_missing : tools ≠ [] → (∀ call ∈ calls, Missing call.2) →
    (calls.map fun call => call.1.1) = tools ∧
      ∃ f, r = .error f ∧ f.kind? = some .toolNotFound
  /-- Without tools, nothing is called, and the unmount fails. -/
  no_tools : tools = [] → calls = [] ∧ ∃ f, r = .error f

/-- A search that went so, in the context of an unmount. -/
theorem Course.fallback {path : String} {lazily : Bool}
    (h : Course (arguments path lazily) f tools calls r) :
    Fallback tools path lazily calls (r.mapError (Failure.within s!"failed to unmount {path}")) where
  in_order := h.map_fst
  goes_on := h.missing_of_mem_dropLast
  stops := h.length_or_found
  succeeds := by
    rw [mapError_eq_ok_iff, h.answer_eq, decided_eq_ok_iff]
  fails call g hlast := by
    rw [h.answer_eq, hlast]
    exact ⟨rfl, Failure.kind?_within _ g⟩
  all_missing hne hall := by
    have hlength := h.length_eq hall
    refine ⟨?_, ?_⟩
    · have hnames := congrArg (List.map Prod.fst) h.map_fst
      rw [hlength, List.take_length, List.map_map, List.map_map] at hnames
      simpa [Function.comp_def] using hnames
    · -- the last tool is one of those that could not be found
      have hcalls : calls ≠ [] := by
        rintro rfl
        exact hne (List.length_eq_zero_iff.1 hlength.symm)
      obtain ⟨⟨call, answer⟩, hlast⟩ := Option.ne_none_iff_exists'.1 (mt List.getLast?_eq_none_iff.1 hcalls)
      have hmissing : Missing answer := hall _ (List.mem_of_getLast? hlast)
      cases answer with
      | ok output => exact hmissing.elim
      | error g =>
        refine ⟨g.within s!"failed to unmount {path}", ?_, Failure.kind?_of_saysMissing hmissing⟩
        rw [h.answer_eq, hlast]
        rfl
  no_tools hnil := by
    subst hnil
    cases h
    exact ⟨rfl, _, rfl⟩

/-- **The fallback of an unmount**, for all tools, paths and runners: what the unmount answers is told
by the calls that it makes, and writing these down does not change it. -/
theorem falls_back (runner : CommandRunner σ) (tools : List String) (path : String) (lazily : Bool)
    (s : σ) :
    ∃ calls r s', ((unmounter runner tools).unmount path lazily).runOn s = (r, s') ∧
      ((unmounter runner.answered tools).unmount path lazily).runOn ⟨s, []⟩ = (r, ⟨s', calls⟩) ∧
      Fallback tools path lazily calls r := by
  obtain ⟨calls, r, s', hcourse, hsearch⟩ := exists_course runner (arguments path lazily) tools
    (.ofText "no unmount tool configured") s []
  have hrun : ((unmounter runner.answered tools).unmount path lazily).runOn ⟨s, []⟩
      = (r.mapError (Failure.within s!"failed to unmount {path}"), ⟨s', calls⟩) := by
    dsimp only [unmounter]
    rw [Act.runOn_inContext, hsearch]
    cases r <;> rfl
  -- the unmount itself answers as the one of which the calls are written down
  have hfollows : Act.Follows ((unmounter runner.answered tools).unmount path lazily)
      ((unmounter runner tools).unmount path lazily) :=
    (follows_tryInOrder runner _ tools _).inContext _
  obtain ⟨w, hfollows⟩ := hfollows
  have hplain := hfollows ⟨s, []⟩
  rw [hrun] at hplain
  refine ⟨calls, _, s', ?_, hrun, hcourse.fallback⟩
  exact Prod.ext (congrArg Prod.fst hplain).symm (congrArg (fun t => t.2.host) hplain).symm

end UnmountTools

end MountKeeper
