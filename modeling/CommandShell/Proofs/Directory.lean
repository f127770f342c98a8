import CommandShell.Proofs.Announcements
import CommandShell.Proofs.Destination
import CommandShell.Proofs.Wiring

/-!
# The working directory of a shell

A shell keeps its working directory as a text. Its own process never moves: the text is put in
front of each relative path that the shell uses, and each child goes to it before it does anything
else that depends on a place. So everything hangs on what the text can be, on a disk that others
change while the shell runs.

`working_dir_followed` is about a life of a shell (`Life`), which is a history in which each step
comes with what was to be found at the time (`Surroundings`). Each step is in its place
(`StepPlaced`): it leaves the text as it is, unless it is a line whose only program is `cd` with a
target; such a line moves the shell to the canonical path of the directory that the target leads
to, or fails and changes nothing (`Moves`); and its children and its files are where the text says.
Taken together, the text is at all times what comes out when the changes that succeeded are followed
one after the other.

Where a target leads is what `Surroundings.destination` says, and the answers that the shell gets on
its way are assumed to be right about that (`Life.Answered`).
-/

namespace CommandShell

/-! ## Changes of the directory -/

/-- The target of a `cd` that the shell carries out itself, and what its output goes to: it has a
target, and is neither in a pipeline nor to go to the background. -/
def Plan.change? (plan : Plan) : Option (String × Option OutputTarget) :=
  if Builtin.ofName? plan.left.program = some .cd ∧ plan.right = none ∧ plan.background = false then
    plan.left.arguments.head?.map (·, plan.left.output)
  else none

/-- The same for an operation of a shell that takes so many arguments. -/
def Operation.change? (maxArgs : Nat) : Operation → Option (String × Option OutputTarget)
  | .execute line =>
    match planLine line maxArgs with
    | .ok (some plan) => plan.change?
    | _ => none
  | _ => none

/-- The file for the output, if there is one, has been opened first of all. -/
def Opened (dir : String) (output : Option OutputTarget) (t : List Traffic) : Prop :=
  ∀ out ∈ output, ∃ fd,
    t.head? = some ⟨.openOutput (Path.join dir out.path) (outputOptions out.mode), .ok fd⟩

/-- What a line does to the working directory of a shell that finds `w`. -/
inductive Moves (w : Surroundings) (s : State) (change? : Option (String × Option OutputTarget))
    (t : List Traffic) (s' : State) (result : Except CommandError Flow) : Prop
  /-- It is no `cd` with a target, and leaves the directory as it is. -/
  | other (none : change? = none) (same : s'.workingDir = s.workingDir)
  /-- The file for the output cannot be opened. -/
  | unopened {target : String} {out : OutputTarget} {e : IoError}
      (change : change? = some (target, some out))
      (unopened : t =
        [⟨.openOutput (Path.join s.workingDir out.path) (outputOptions out.mode), .error e⟩])
      (fails : result = .error (.redirect out.path e)) (same : s' = s)
  /-- The target leads to no directory. -/
  | unmoved {target : String} {output : Option OutputTarget} {e : IoError}
      (change : change? = some (target, output)) (opened : Opened s.workingDir output t)
      (leads : w.destination s.workingDir target = .error e)
      (fails : result = .error (.builtin (.changeDirectory target e))) (same : s' = s)
  /-- The target leads to a directory, and that becomes the working directory. -/
  | moved {target : String} {output : Option OutputTarget} {l : Location}
      (change : change? = some (target, output)) (opened : Opened s.workingDir output t)
      (leads : w.destination s.workingDir target = .ok l) (arrives : w.disk.IsDestination l)
      (succeeds : result = .ok .continue) (silent : diagnostics t = [])
      (moved : s' = { s with workingDir := l.path })

section Moves

variable {w : Surroundings} {s s' : State} {plan : Plan} {t : List Traffic} {sink : Sink}

lemma Plan.change?_eq_none (other : Builtin.ofName? plan.left.program ≠ some .cd) :
    plan.change? = none :=
  if_neg fun h => other h.1

/-- A plan that a built-in command carries out by itself is a `cd` with a target, or not. -/
lemma Plan.change?_cases {builtin : Builtin}
    (left : Builtin.ofName? plan.left.program = some builtin)
    (alone : (plan.isPipeline || plan.background) = false) :
    (plan.change? = none ∧ (builtin = .cd → plan.left.arguments = [])) ∨
      ∃ target more, builtin = .cd ∧ plan.left.arguments = target :: more ∧
        plan.change? = some (target, plan.left.output) := by
  -- `cd` can change the directory only where it stands alone and has an argument
  obtain ⟨single, stays⟩ := Bool.or_eq_false_iff.1 alone
  have single : plan.right = none := by simpa [Plan.isPipeline] using single
  by_cases cd : builtin = .cd
  · subst cd
    have change : plan.change? = plan.left.arguments.head?.map (·, plan.left.output) :=
      if_pos ⟨left, single, stays⟩
    cases arguments : plan.left.arguments with
    | nil =>
      rw [arguments] at change
      exact .inl ⟨change, fun _ => rfl⟩
    | cons target more =>
      rw [arguments] at change
      exact .inr ⟨target, more, rfl, rfl, change⟩
  · refine .inl ⟨change?_eq_none ?_, fun h => absurd h cd⟩
    rw [left]
    exact fun h => cd (Option.some.inj h)

/-- A `cd` that is carried out goes where its target leads, or stays. -/
lemma BuiltinRun.moves {target : String} {more : List String} {result : Except BuiltinError Flow}
    (h : BuiltinRun s sink .cd (target :: more) t s' result) (answered : ∀ x ∈ t, w.Answers x) :
    (∃ e, w.destination s.workingDir target = .error e ∧
        result = .error (.changeDirectory target e) ∧ s' = s) ∨
      ∃ l, w.destination s.workingDir target = .ok l ∧ result = .ok .continue ∧
        s' = { s with workingDir := l.path } := by
  cases h with
  | unresolved =>
    have unresolved := Surroundings.destination_eq_error (answered _ List.mem_cons_self)
    exact .inl ⟨_, unresolved, rfl, rfl⟩
  | notDirectory other =>
    obtain ⟨l, rfl, -, stays⟩ :=
      Surroundings.exists_place (answered _ List.mem_cons_self)
    have answer := answered _ (List.mem_cons_of_mem _ List.mem_cons_self)
    exact .inl ⟨_, stays _ other answer, rfl, rfl⟩
  | moved =>
    obtain ⟨l, rfl, leads, -⟩ :=
      Surroundings.exists_place (answered _ List.mem_cons_self)
    have answer := answered _ (List.mem_cons_of_mem _ List.mem_cons_self)
    exact .inr ⟨l, leads answer, rfl, rfl⟩

/-- A built-in command other than `cd` with a target stays. -/
theorem BuiltinRun.workingDir_eq {builtin : Builtin} {arguments : List String}
    {result : Except BuiltinError Flow} (h : BuiltinRun s sink builtin arguments t s' result)
    (other : builtin = .cd → arguments = []) : s'.workingDir = s.workingDir := by
  cases h with
  | moved => cases other rfl
  | _ => rfl

/-- What a built-in command says on the standard error: nothing. -/
lemma State.diagnostics_runBuiltin {builtin : Builtin} {result : Except CommandError Flow}
    (h : (s.runBuiltin builtin plan).Runs t (s', result)) : diagnostics t = [] := by
  obtain ⟨calls, -⟩ := (s.runBuiltin_actsAsBuiltin builtin plan).of_runs h
  refine FailureLeaves.diagnostics_eq_nil ?_
  rintro ⟨request, answer⟩ hx
  cases request with
  | warn _ => exact absurd (calls _ hx) Bool.false_ne_true
  | _ => rfl

/-- A built-in command that is carried out, its output going wherever it has been opened to. -/
lemma Moves.of_builtinRun {builtin : Builtin} {u : List Traffic}
    {handled : Except BuiltinError Flow}
    (start : Path.isAbsolute s.workingDir = true ∨ w.disk.IsCanonical w.cwd)
    (left : Builtin.ofName? plan.left.program = some builtin)
    (alone : (plan.isPipeline || plan.background) = false)
    (opened : Opened s.workingDir plan.left.output t) (silent : diagnostics t = [])
    (run : BuiltinRun s sink builtin plan.left.arguments u s' handled)
    (answered : ∀ x ∈ u, w.Answers x) :
    Moves w s plan.change? t s' (handled.mapError .builtin) := by
  rcases Plan.change?_cases left alone with ⟨none, other⟩ | ⟨target, more, rfl, arguments, change⟩
  · exact .other none (run.workingDir_eq other)
  · rw [arguments] at run
    rcases run.moves answered with ⟨e, leads, rfl, same⟩ | ⟨l, leads, rfl, moved⟩
    · exact .unmoved change opened leads rfl same
    · obtain ⟨-, -, arrives, -⟩ := (Surroundings.destination_eq_ok_iff start).1 leads
      exact .moved change opened leads arrives rfl silent moved

/-- Whatever a plan with a built-in command comes to, this is what it does to the working
directory. -/
theorem Moves.of_runs_runBuiltin {builtin : Builtin} {result : Except CommandError Flow}
    (start : Path.isAbsolute s.workingDir = true ∨ w.disk.IsCanonical w.cwd)
    (left : Builtin.ofName? plan.left.program = some builtin)
    (h : (s.runBuiltin builtin plan).Runs t (s', result)) (answered : ∀ x ∈ t, w.Answers x) :
    Moves w s plan.change? t s' result := by
  have silent := State.diagnostics_runBuiltin h
  cases BuiltinPlanRun.of_runs h with
  | exit exits =>
    refine .other (Plan.change?_eq_none ?_) rfl
    rw [left, exits]
    nofun
  | refused _ spoilt =>
    refine .other (if_neg fun h => ?_) rfl
    rw [Plan.isPipeline, h.2.1, h.2.2] at spoilt
    cases spoilt
  | direct _ alone output run =>
    refine .of_builtinRun start left alone ?_ silent run answered
    rw [output]
    nofun
  | @unopened out e _ alone output =>
    rcases Plan.change?_cases left alone with ⟨none, -⟩ | ⟨target, more, rfl, -, change⟩
    · exact .other none rfl
    · rw [output] at change
      exact .unopened change rfl rfl rfl
  -- around the run of the built-in the output is opened and closed, and nothing else is done
  | @redirected out fd _ t _ _ _ alone output run =>
    refine .of_builtinRun start left alone ?_ silent run fun x hx => answered x ?_
    · rw [output]
      intro _ hout
      cases hout
      exact ⟨fd, rfl⟩
    · exact List.mem_cons_of_mem _ (List.mem_append_left _ hx)

lemma JobRun.workingDir_eq {result : Except CommandError Flow} (h : JobRun s plan t s' result) :
    s'.workingDir = s.workingDir := by
  cases h <;> rfl

lemma Operation.change?_execute {line : String} {maxArgs : Nat}
    (planned : planLine line maxArgs = .ok (some plan)) :
    (Operation.execute line).change? maxArgs = plan.change? := by
  unfold change?
  dsimp only
  rw [planned]

/-- Whatever a line is, this is what it does to the working directory. -/
theorem Moves.of_lineRun {line : String} {result : Except CommandError Flow}
    (start : Path.isAbsolute s.workingDir = true ∨ w.disk.IsCanonical w.cwd)
    (h : LineRun s line t s' result) (answered : ∀ x ∈ t, w.Answers x) :
    Moves w s ((Operation.execute line).change? s.config.maxArgs) t s' result := by
  cases h with
  | refused planned | blank planned =>
    refine .other ?_ rfl
    unfold Operation.change?
    dsimp only
    rw [planned]
  | builtin planned left run =>
    rw [Operation.change?_execute planned]
    exact .of_runs_runBuiltin start left run answered
  | misplaced planned left _ =>
    rw [Operation.change?_execute planned]
    refine .other (Plan.change?_eq_none ?_) rfl
    rw [left]
    nofun
  | job planned left _ run =>
    rw [Operation.change?_execute planned]
    refine .other (Plan.change?_eq_none ?_) run.workingDir_eq
    rw [left]
    nofun

end Moves

/-! ## What is done in the working directory -/

/-- The call depends on where a process is, or changes that. -/
def Syscall.isPlaced : Syscall → Bool
  | .enter _ | .openFile _ _ _ | .exec _ _ => true
  | _ => false

/-- A process goes to `dir` once, before it opens a file or asks for its program, and if it cannot
go there it does neither. -/
def GoesOnce (dir : String) (t : List (Exchange Syscalls)) : Prop :=
  ∃ before answer after, t = before ++ ⟨.enter dir, answer⟩ :: after ∧
    (∀ x ∈ before, Syscall.isPlaced x.request = false) ∧
    (∀ x ∈ after, ∀ other, x.request ≠ Syscall.enter other) ∧
    ∀ e, answer = .error e → ∀ x ∈ after, Syscall.isPlaced x.request = false

lemma GoesOnce.cons {dir : String} {t : List (Exchange Syscalls)} {x : Exchange Syscalls}
    (idle : Syscall.isPlaced x.request = false) (h : GoesOnce dir t) : GoesOnce dir (x :: t) := by
  obtain ⟨before, answer, after, rfl, first, once, refused⟩ := h
  exact ⟨x :: before, answer, after, rfl, List.forall_mem_cons.2 ⟨idle, first⟩, once, refused⟩

/-- Whatever the answers are, a child goes to `dir` before it does what depends on where it is. -/
def Child.WorksIn (c : Child) (dir : String) : Prop :=
  ∀ t result, c.setup.Runs t result → GoesOnce dir t

namespace Child

variable {c : Child} {t : List (Exchange Syscalls)} {result : Started}

lemma goesOnce_of_runs_furnish (h : c.furnish.Runs t result) : GoesOnce c.workingDir t := by
  rw [furnish_eq] at h
  obtain ⟨answer, after, rfl, hnext⟩ := Dialogue.runs_call_bind_iff.1 h
  refine ⟨[], answer, after, rfl, fun x hx => absurd hx List.not_mem_nil, ?_, ?_⟩
  · have outfits : ∀ x ∈ after, Syscall.isOutfitting x.request = true := by
      cases answer with
      | error e => exact ((die_outfits _ _ _).of_runs hnext).1
      | ok _ => exact (c.outfit_outfits.of_runs hnext).1
    intro x hx other enters
    have outfitting := outfits x hx
    rw [enters] at outfitting
    cases outfitting
  · rintro e rfl x hx
    obtain ⟨bytes, writes⟩ := ((die_within _ _ _).of_runs hnext).1 x hx
    rw [writes]
    rfl

lemma goesOnce_of_runs_dropUnused (h : (c.dropUnused c.furnish).Runs t result) :
    GoesOnce c.workingDir t := by
  unfold dropUnused at h
  split at h
  · exact goesOnce_of_runs_furnish h
  · obtain ⟨_, t, rfl, hnext⟩ := Dialogue.runs_call_bind_iff.1 h
    exact .cons rfl (goesOnce_of_runs_furnish hnext)

/-- A child works in the directory that it was given. -/
theorem worksIn (c : Child) : c.WorksIn c.workingDir := by
  intro t result h
  rw [setup_eq] at h
  obtain ⟨_, t, rfl, hnext⟩ := Dialogue.runs_call_bind_iff.1 h
  refine .cons rfl ?_
  unfold joinGroup at hnext
  split at hnext
  · obtain ⟨_, t, rfl, hlast⟩ := Dialogue.runs_call_bind_iff.1 hnext
    exact .cons rfl (goesOnce_of_runs_dropUnused hlast)
  · exact goesOnce_of_runs_dropUnused hnext

end Child

/-- The children that starting a plan makes are for the directory in which it is started. -/
theorem Plan.Makes.workingDir_eq {plan : Plan} {dir : String} {child : Child}
    (h : plan.Makes dir child) : child.workingDir = dir := by
  cases h <;> rfl

section Places

variable {s s' : State} {line : String} {t : List Traffic}

lemma Plan.Attempts.makes {plan : Plan} {dir : String} (h : plan.Attempts dir t) {child : Child}
    {answer : Except Errno Pid} (made : (⟨.fork child, answer⟩ : Traffic) ∈ t) :
    plan.Makes dir child := by
  cases h with
  | single single _ =>
    cases List.mem_singleton.1 made
    exact .only single
  | noPipe _ _ => cases List.mem_singleton.1 made
  | noRight piped _ _ _ =>
    rcases List.mem_pair.1 made with made | made
    · cases made
    · cases made
      exact .reading piped
  | both piped _ _ _ _ =>
    rcases List.mem_cons.1 made with made | made
    · cases made
    rcases List.mem_pair.1 made with made | made
    · cases made
      exact .reading piped
    · cases made
      exact .writing piped

lemma makes_of_runs_execute {flow : Flow} (h : (s.execute line).Runs t (s', flow)) {child : Child}
    {answer : Except Errno Pid} (made : (⟨.fork child, answer⟩ : Traffic) ∈ t) :
    ∃ plan, HasPlan s line plan ∧ plan.Makes s.workingDir child := by
  have asked := LineAttempts.of_runs_execute h
  have tried : (⟨.fork child, answer⟩ : Traffic) ∈ attempts t := List.mem_filter.2 ⟨made, rfl⟩
  obtain ⟨flushed, plan, startable⟩ := asked.needed (List.ne_nil_of_mem tried)
  exact ⟨plan, startable.planned, (asked.all plan startable flushed).makes tried⟩

/-- The file that the shell opens for itself, and how. -/
def Traffic.opened? : Traffic → Option (String × OpenOptions)
  | ⟨.openOutput path options, _⟩ => some (path, options)
  | _ => none

lemma Traffic.opened?_of_isProcessCall {x : Traffic}
    (h : ShellCall.isProcessCall x.request = true) : x.opened? = none := by
  obtain ⟨request, answer⟩ := x
  cases request with
  | openOutput _ _ => exact absurd h Bool.false_ne_true
  | _ => rfl

/-- A built-in command opens nothing by itself. -/
theorem BuiltinRun.opensNothing {sink : Sink} {builtin : Builtin} {arguments : List String}
    {result : Except BuiltinError Flow} (h : BuiltinRun s sink builtin arguments t s' result) :
    ∀ x ∈ t, x.opened? = none := by
  cases h with
  | exit | nowhere => exact fun x hx => absurd hx List.not_mem_nil
  | unresolved | unwritten => exact List.forall_mem_singleton.2 rfl
  | notDirectory _ | moved | unflushed | listed =>
    exact List.forall_mem_cons.2 ⟨rfl, List.forall_mem_singleton.2 rfl⟩

/-- The files of programs are opened by their processes. -/
theorem JobRun.opensNothing {plan : Plan} {result : Except CommandError Flow}
    (h : JobRun s plan t s' result) : ∀ x ∈ t, x.opened? = none := by
  -- all parts of a transcript but the writes at its end are calls about processes
  have process {u : List Traffic} (calls : ∀ x ∈ u, ShellCall.isProcessCall x.request = true) :
      ∀ x ∈ u, x.opened? = none :=
    fun x hx => Traffic.opened?_of_isProcessCall (calls x hx)
  have job {u v : List Traffic} (launched : ∀ x ∈ u, ShellCall.isProcessCall x.request = true)
      (later : ∀ x ∈ v, x.opened? = none) :
      ∀ x : Traffic, x ∈ ⟨.flush .output, .ok ()⟩ :: (u ++ v) → x.opened? = none :=
    List.forall_mem_cons.2 ⟨rfl, List.forall_mem_append.2 ⟨process launched, later⟩⟩
  have waited {job : Job} {u v : List Traffic} {ending : Except WaitError JobStatus}
      (waits : job.wait.Runs u ending) (later : ∀ x ∈ v, x.opened? = none) :
      ∀ x ∈ u ++ v, x.opened? = none :=
    List.forall_mem_append.2 ⟨process (Job.isProcessCall_of_waitAll waits), later⟩
  cases h with
  | unflushed => exact List.forall_mem_singleton.2 rfl
  | notLaunched launched => exact List.forall_mem_cons.2 ⟨rfl, process launched.isProcessCall⟩
  | background launched _ | backgroundUntold launched _ =>
    exact job launched.isProcessCall (List.forall_mem_singleton.2 rfl)
  | unwaited launched _ waits =>
    exact job launched.isProcessCall (process (Job.isProcessCall_of_waitAll waits))
  | exited launched _ waits =>
    exact job launched.isProcessCall (waited waits (List.forall_mem_singleton.2 rfl))
  | interrupted launched _ waits | interruptedUnended launched _ waits
  | killed launched _ waits _ =>
    exact job launched.isProcessCall (waited waits
      (List.forall_mem_cons.2 ⟨rfl, List.forall_mem_singleton.2 rfl⟩))

/-- A file that the shell opens for itself is the output file of a plan. -/
def OpensFor (s : State) (plan : Plan) (x : Traffic) : Prop :=
  ∀ path options, x.opened? = some (path, options) →
    ∃ out, plan.left.output = some out ∧ path = Path.join s.workingDir out.path ∧
      options = outputOptions out.mode

lemma BuiltinPlanRun.opensFor {builtin : Builtin} {plan : Plan}
    {result : Except CommandError Flow} (h : BuiltinPlanRun s builtin plan t s' result) :
    ∀ x ∈ t, OpensFor s plan x := by
  have other {x : Traffic} (nothing : x.opened? = none) : OpensFor s plan x := by
    intro path options opens
    rw [nothing] at opens
    cases opens
  cases h with
  | exit _ | refused _ _ => exact fun x hx => absurd hx List.not_mem_nil
  | direct _ _ _ run => exact fun x hx => other (run.opensNothing x hx)
  | unopened _ _ output =>
    refine List.forall_mem_singleton.2 fun path options opens => ?_
    cases opens
    exact ⟨_, output, rfl, rfl⟩
  | redirected _ _ output run =>
    refine List.forall_mem_cons.2 ⟨fun path options opens => ?_, List.forall_mem_append.2 ⟨?_, ?_⟩⟩
    · cases opens
      exact ⟨_, output, rfl, rfl⟩
    · exact fun x hx => other (run.opensNothing x hx)
    · exact List.forall_mem_singleton.2 (other rfl)

lemma LineRun.opensFor {result : Except CommandError Flow} (h : LineRun s line t s' result)
    {x : Traffic} (hx : x ∈ t) (opens : x.opened? ≠ none) :
    ∃ plan, HasPlan s line plan ∧ OpensFor s plan x := by
  cases h with
  | refused _ | blank _ | misplaced _ _ _ => exact absurd hx List.not_mem_nil
  | builtin planned _ run =>
    exact ⟨_, planLine_eq_ok_iff.1 planned, (BuiltinPlanRun.of_runs run).opensFor x hx⟩
  | job _ _ _ run => exact absurd (run.opensNothing x hx) opens

end Places

/-! ## Steps -/

/-- What is said of the end of a line: a failure is told. -/
def complaint : Except CommandError Flow → List Traffic
  | .ok _ => []
  | .error e => [⟨.warn e.diagnostic, ()⟩]

/-- A line that is executed is run, and then it is told if it has failed. -/
theorem State.exists_run_of_runs_execute {s s' : State} {line : String} {t : List Traffic}
    {flow : Flow} (h : (s.execute line).Runs t (s', flow)) :
    ∃ u result, (s.run line).Runs u (s', result) ∧ t = u ++ complaint result := by
  rcases run_of_runs_execute h with went | ⟨u, e, failed, -, rfl⟩
  · exact ⟨t, _, went, (List.append_nil t).symm⟩
  · exact ⟨u, _, failed, rfl⟩

/-- What a step of a shell that finds `w` has to do with the working directory. -/
structure StepPlaced (w : Surroundings) (s : State) (step : PerformedStep) : Prop where
  /-- A line is run, and moves the shell if it is a `cd` that leads somewhere. -/
  lines : ∀ line, step.operation = .execute line → ∃ t result,
    (s.run line).Runs t (step.state, result) ∧ step.transcript = t ++ complaint result ∧
      Moves w s (step.operation.change? s.config.maxArgs) t step.state result
  /-- Nothing else moves it. -/
  idle : (∀ line, step.operation ≠ .execute line) → step.state.workingDir = s.workingDir
  /-- Every child that is made works in the directory of the shell. -/
  children : ∀ child answer, (⟨.fork child, answer⟩ : Traffic) ∈ step.transcript →
    child.WorksIn s.workingDir
  /-- Every file that the shell opens for itself is the output file of a line, seen from there. -/
  files : ∀ path options answer, (⟨.openOutput path options, answer⟩ : Traffic) ∈ step.transcript →
    ∃ line plan out, step.operation = .execute line ∧ HasPlan s line plan ∧
      plan.left.output = some out ∧ path = Path.join s.workingDir out.path ∧
      options = outputOptions out.mode

/-- The target of the change of directory that a step is, if nothing was complained about. -/
def PerformedStep.change? (maxArgs : Nat) (step : PerformedStep) : Option String :=
  if diagnostics step.transcript = [] then (step.operation.change? maxArgs).map (·.1) else none

namespace StepPlaced

variable {w : Surroundings} {s : State} {step : PerformedStep}

lemma idle_of_isShowing {x : Traffic} (h : ShellCall.isShowing x.request = true) :
    x.isAttempt = false ∧ x.opened? = none := by
  obtain ⟨request, answer⟩ := x
  cases request with
  | write _ _ | flush _ | warn _ | isDirectory _ => exact ⟨rfl, rfl⟩
  | _ => exact absurd h Bool.false_ne_true

/-- A step that neither opens a file nor makes a child. -/
theorem of_idle (noLine : ∀ line, step.operation ≠ .execute line)
    (same : step.state.workingDir = s.workingDir)
    (idle : ∀ x ∈ step.transcript, x.isAttempt = false ∧ x.opened? = none) :
    StepPlaced w s step where
  lines line h := absurd h (noLine line)
  idle _ := same
  children _ _ made := absurd (idle _ made).1.symm Bool.false_ne_true
  files _ _ _ opens := nomatch (idle _ opens).2

/-- A line that is executed does what its plan and the answers make of it. -/
theorem of_runs_execute {line : String} {flow : Flow}
    (start : Path.isAbsolute s.workingDir = true ∨ w.disk.IsCanonical w.cwd)
    (executes : step.operation = .execute line)
    (h : (s.execute line).Runs step.transcript (step.state, flow))
    (answered : ∀ x ∈ step.transcript, w.Answers x) : StepPlaced w s step := by
  obtain ⟨t, result, went, ht⟩ := State.exists_run_of_runs_execute h
  have lineRun := LineRun.of_runs went
  refine ⟨fun line' executes' => ?_, fun noLine => absurd executes (noLine line),
    fun child answer made => ?_, fun path options answer opens => ?_⟩
  · obtain rfl := Operation.execute.inj (executes.symm.trans executes')
    refine ⟨t, result, went, ht, ?_⟩
    rw [executes]
    refine .of_lineRun start lineRun fun x hx => answered x ?_
    rw [ht]
    exact List.mem_append_left _ hx
  · obtain ⟨plan, -, makes⟩ := makes_of_runs_execute h made
    rw [← makes.workingDir_eq]
    exact child.worksIn
  -- the diagnostic at the end of a failed line opens nothing
  · have opens' : (⟨.openOutput path options, answer⟩ : Traffic) ∈ t := by
      rw [ht] at opens
      refine (List.mem_append.1 opens).resolve_right fun told => ?_
      cases result with
      | ok _ => cases told
      | error e => cases List.mem_singleton.1 told
    obtain ⟨plan, planned, opensFor⟩ := lineRun.opensFor opens' nofun
    obtain ⟨out, output, hpath, hoptions⟩ := opensFor path options rfl
    exact ⟨line, plan, out, executes, planned, output, hpath, hoptions⟩

/-- A report asks about children and shows what it has found. -/
theorem of_runs_reportFinished {result : Except IoError Unit}
    (reports : step.operation = .reportFinished)
    (h : s.reportFinished.Runs step.transcript (step.state, result)) : StepPlaced w s step := by
  obtain ⟨asking, telling, found, ht, sweeps, hs, shows⟩ := exists_sweep_of_runs_reportFinished h
  obtain ⟨asked, -, rfl, -⟩ := Job.runs_sweep_iff.1 sweeps
  refine of_idle (fun line executes => ?_) (by rw [hs]) ?_
  · rw [reports] at executes
    cases executes
  · rw [ht]
    refine List.forall_mem_append.2 ⟨fun x hx => ?_, fun x hx => idle_of_isShowing (shows x hx)⟩
    obtain ⟨question, -, rfl⟩ := List.mem_map.1 hx
    exact ⟨rfl, rfl⟩

/-- Every step of a shell is in its place. -/
theorem of_runs_perform (start : Path.isAbsolute s.workingDir = true ∨ w.disk.IsCanonical w.cwd)
    (h : (step.operation.perform s).Runs step.transcript step.state)
    (answered : ∀ x ∈ step.transcript, w.Answers x) : StepPlaced w s step := by
  rcases Operation.runs_perform h with ⟨line, flow, executes, run⟩ | ⟨result, reports, run⟩ |
    ⟨shows, same, calls⟩
  · exact of_runs_execute start executes run answered
  · exact of_runs_reportFinished reports run
  · refine of_idle ?_ (by rw [same]) fun x hx => idle_of_isShowing (calls x hx)
    intro line executes
    rw [executes] at shows
    rcases shows with prompt | render
    · cases prompt
    · cases render

/-- A step that is a change leads where its target leads, and every other step stays. -/
theorem workingDir_eq (h : StepPlaced w s step) :
    (step.change? s.config.maxArgs = none ∧ step.state.workingDir = s.workingDir) ∨
      ∃ target l, step.change? s.config.maxArgs = some target ∧
        w.destination s.workingDir target = .ok l ∧ step.state.workingDir = l.path := by
  have other (none : step.operation.change? s.config.maxArgs = none) :
      step.change? s.config.maxArgs = .none := by
    unfold PerformedStep.change?
    rw [none]
    exact ite_self _
  by_cases isLine : ∃ line, step.operation = .execute line
  · obtain ⟨line, hline⟩ := isLine
    obtain ⟨t, result, -, ht, moves⟩ := h.lines line hline
    -- a line that fails says so, and then it has not changed the directory
    have failed {e : CommandError} (fails : result = .error e) :
        step.change? s.config.maxArgs = none := by
      refine if_neg fun silent => ?_
      rw [ht, fails, diagnostics_append] at silent
      cases (List.append_eq_nil_iff.1 silent).2
    cases moves with
    | other none same => exact .inl ⟨other none, same⟩
    | unopened _ _ fails same | unmoved _ _ _ fails same => exact .inl ⟨failed fails, by rw [same]⟩
    | @moved target output l change _ leads _ succeeds silent moved =>
      refine .inr ⟨target, l, ?_, leads, by rw [moved]⟩
      have quiet : diagnostics step.transcript = [] := by
        rw [ht, succeeds, diagnostics_append, silent]
        rfl
      unfold PerformedStep.change?
      rw [if_pos quiet, change]
      rfl
  · have noLine : ∀ line, step.operation ≠ .execute line := fun line hline => isLine ⟨line, hline⟩
    refine .inl ⟨other ?_, h.idle noLine⟩
    cases hoperation : step.operation with
    | execute line => exact absurd hoperation (noLine line)
    | _ => rfl

end StepPlaced

/-! ## Lives -/

/-- A life of a shell: the steps it has done, each with what it found at the time. -/
abbrev Life := List (PerformedStep × Surroundings)

namespace Life

/-- The steps alone. -/
def steps (life : Life) : List PerformedStep :=
  life.map (·.1)

/-- The targets of all changes of directory that nothing was complained about, each with what the
shell found at the time. -/
def changes (maxArgs : Nat) (life : Life) : List (String × Surroundings) :=
  life.filterMap fun done => (done.1.change? maxArgs).map (·, done.2)

lemma changes_cons (maxArgs : Nat) (step : PerformedStep) (w : Surroundings) (rest : Life) :
    changes maxArgs ((step, w) :: rest) =
      ((step.change? maxArgs).map (·, w)).toList ++ changes maxArgs rest := by
  unfold changes
  rw [List.filterMap_cons]
  dsimp only
  cases step.change? maxArgs <;> rfl

/-- Each step has been answered by what the shell found. -/
def Answered (life : Life) : Prop :=
  ∀ step w, (step, w) ∈ life → ∀ x ∈ step.transcript, w.Answers x

lemma Answered.cons {step : PerformedStep} {w : Surroundings} {rest : Life}
    (first : ∀ x ∈ step.transcript, w.Answers x) (later : Answered rest) :
    Answered ((step, w) :: rest) := by
  intro step' w' hmem
  rcases List.mem_cons.1 hmem with hmem | hmem
  · cases hmem
    exact first
  · exact later step' w' hmem

end Life

/-- Where a shell is in the course of a life. -/
structure Placed (start : State) (life : Life) : Prop where
  /-- Each step moves the shell as a `cd` does, or not at all, and what it does it does in the
  directory of the shell. -/
  steps : ∀ before step w after, life = before ++ (step, w) :: after →
    StepPlaced w (stateAfter start (Life.steps before)) step
  /-- So the working directory comes from following the changes one by one. -/
  followed : (life.changes start.config.maxArgs).foldlM
    (fun dir (change : String × Surroundings) =>
      (change.2.destination dir change.1).map (·.path)) start.workingDir =
        .ok (stateAfter start life.steps).workingDir

lemma Placed.nil {start : State} : Placed start [] where
  steps before step w after hlife := by
    cases (List.append_eq_nil_iff.1 hlife.symm).2
  followed := rfl

lemma Placed.cons {start : State} {step : PerformedStep} {w : Surroundings} {rest : Life}
    (first : StepPlaced w start step) (config : step.state.config = start.config)
    (later : Placed step.state rest) : Placed start ((step, w) :: rest) where
  steps before step' w' after hlife := by
    cases before with
    | nil =>
      cases hlife
      exact first
    | cons _ before =>
      cases hlife
      exact later.steps before step' w' after rfl
  followed := by
    have followed := later.followed
    rw [config] at followed
    rw [Life.changes_cons]
    rcases first.workingDir_eq with ⟨unchanged, same⟩ | ⟨target, l, change, leads, moved⟩
    · rw [same] at followed
      rw [unchanged]
      exact followed
    · rw [moved] at followed
      rw [change, Option.map_some, Option.toList_some, List.singleton_append, List.foldlM_cons,
        leads]
      exact followed

/-- **Only a change of directory moves a shell, and it moves to a canonical directory.** Whatever a
shell does, and however the disk changes from one step to the next, a shell that starts with an
absolute path, or in a canonical place, has at all times the working directory that following its
successful changes leads to. Each of these was a line with nothing but `cd` and a target, whose
output file had been opened; the path that it left was the canonical one of a directory that was
there. All other steps leave the working directory as it is, and children and output files are
where it says. -/
theorem working_dir_followed {start : State} {life : Life} (h : History start life.steps)
    (answered : life.Answered)
    (absolute : Path.isAbsolute start.workingDir = true ∨
      ∀ step w, (step, w) ∈ life → w.disk.IsCanonical w.cwd) :
    Placed start life := by
  induction life generalizing start with
  | nil => exact .nil
  | cons first rest ih =>
    obtain ⟨step, w⟩ := first
    have placed : StepPlaced w start step :=
      .of_runs_perform (absolute.imp_right fun canonical => canonical step w List.mem_cons_self) h.1
        (answered step w List.mem_cons_self)
    refine .cons placed (Operation.config_eq_of_runs_perform h.1) (ih h.2 ?_ ?_)
    · exact fun step w hmem => answered step w (List.mem_cons_of_mem _ hmem)
    · rcases placed.workingDir_eq with ⟨-, same⟩ | ⟨target, l, -, -, moved⟩
      · rw [same]
        exact absolute.imp_right fun canonical step w hmem =>
          canonical step w (List.mem_cons_of_mem _ hmem)
      · rw [moved]
        exact .inl l.isAbsolute_path

/-- `/home` is a directory with a file in it, and `/away` is a link to the directory. -/
def guestHouse : Surroundings where
  disk.nodes := #[
    .directory { entries := [("home", .stored 1), ("away", .stored 2)] },
    .directory { entries := [("notes", .stored 3)] },
    .link "home",
    .file 0o644 .empty]
  cwd := []

/-- The directory has gone away, and the link to it leads nowhere. -/
def emptyHouse : Surroundings where
  disk.nodes := #[.directory { entries := [("away", .stored 1)] }, .link "home"]
  cwd := []

/-- `cd` with this target. -/
def changing (target : String) (output : Option OutputTarget) : Plan where
  left := { program := "cd", arguments := [target], output }

/-- How a `cd` by itself goes, as a line. -/
lemma State.runs_changing {s s' : State} {target : String} {t : List Traffic}
    {result : Except BuiltinError Flow} (h : BuiltinRun s .output .cd [target] t s' result) :
    (s.runPlan (changing target none)).Runs t (s', result.mapError .builtin) := by
  have run : BuiltinPlanRun s .cd (changing target none) t s' (result.mapError .builtin) :=
    .direct nofun rfl rfl h
  exact run.runs

lemma State.runs_changing_output {s s' : State} {target : String} {out : OutputTarget} {fd : Fd}
    {closed : Except Errno Unit} {t : List Traffic} {result : Except BuiltinError Flow}
    (h : BuiltinRun s (.file fd) .cd [target] t s' result) :
    (s.runPlan (changing target (some out))).Runs
      (⟨.openOutput (Path.join s.workingDir out.path) (outputOptions out.mode), .ok fd⟩ ::
        (t ++ [⟨.close fd, closed⟩])) (s', result.mapError .builtin) := by
  have run : BuiltinPlanRun s .cd (changing target (some out))
      (⟨.openOutput (Path.join s.workingDir out.path) (outputOptions out.mode), .ok fd⟩ ::
        (t ++ [⟨.close fd, closed⟩])) s' (result.mapError .builtin) :=
    .redirected nofun rfl rfl h
  exact run.runs

/-- A shell follows a link, is not led into a file, starts a program where it is, goes back to the
root with a log of that, and finds the link broken. -/
def guestLife : Life :=
  [({ operation := .execute "cd away"
      transcript :=
        [⟨.canonical (Path.join "/" "away"), .ok "/home"⟩, ⟨.isDirectory "/home", .ok true⟩]
      state := State.start {} "/home" false }, guestHouse),
    ({ operation := .execute "cd notes"
       transcript :=
        [⟨.canonical (Path.join "/home" "notes"), .ok "/home/notes"⟩,
          ⟨.isDirectory "/home/notes", .ok false⟩] ++
            complaint (.error (.builtin (.changeDirectory "notes" (.os .ENOTDIR))))
       state := State.start {} "/home" false }, guestHouse),
    ({ operation := .execute "sleep 9 &"
       transcript := backgroundStart (napping.onlyChild "/home") 20 (.ok ())
       state := { workingDir := "/home", config := {}, jobs := [20] } }, guestHouse),
    ({ operation := .execute "cd / > log"
       transcript :=
        ⟨.openOutput (Path.join "/home" "log") (outputOptions .truncate), .ok 5⟩ ::
          ([⟨.canonical (Path.join "/home" "/"), .ok "/"⟩, ⟨.isDirectory "/", .ok true⟩] ++
            [⟨.close 5, .ok ()⟩])
       state := { workingDir := "/", config := {}, jobs := [20] } }, guestHouse),
    ({ operation := .execute "cd away"
       transcript :=
        [⟨.canonical (Path.join "/" "away"), .error (.os .ENOENT)⟩] ++
          complaint (.error (.builtin (.changeDirectory "away" (.os .ENOENT))))
       state := { workingDir := "/", config := {}, jobs := [20] } }, emptyHouse)]

lemma guestLife_answered : guestLife.Answered := by
  refine .cons ?_ (.cons ?_ (.cons ?_ (.cons ?_ (.cons ?_ ?_))))
  · refine List.forall_mem_cons.2 ⟨?_, List.forall_mem_singleton.2 ?_⟩
    · change _ = _
      cbv
    · change _ = _
      cbv
  · refine List.forall_mem_cons.2 ⟨?_, List.forall_mem_cons.2 ⟨?_, ?_⟩⟩
    · change _ = _
      cbv
    · change _ = _
      cbv
    · exact List.forall_mem_singleton.2 trivial
  · refine List.forall_mem_cons.2 ⟨trivial, List.forall_mem_cons.2 ⟨trivial, ?_⟩⟩
    exact List.forall_mem_cons.2 ⟨trivial, List.forall_mem_singleton.2 trivial⟩
  · refine List.forall_mem_cons.2 ⟨trivial, List.forall_mem_cons.2 ⟨?_, ?_⟩⟩
    · change _ = _
      cbv
    · refine List.forall_mem_cons.2 ⟨?_, List.forall_mem_singleton.2 trivial⟩
      change _ = _
      cbv
  · refine List.forall_mem_cons.2 ⟨?_, List.forall_mem_singleton.2 trivial⟩
    change _ = _
    cbv
  · intro step w hmem
    cases hmem

theorem working_dir_followed_guestLife :
    History (State.start {} "/" false) guestLife.steps ∧ guestLife.Answered ∧
      (guestLife.changes 64).map (·.1) = ["away", "/"] ∧
      (stateAfter (State.start {} "/" false) guestLife.steps).workingDir = "/" ∧
      Placed (State.start {} "/" false) guestLife := by
  have away : planLine "cd away" 64 = .ok (some (changing "away" none)) := by cbv
  have notes : planLine "cd notes" 64 = .ok (some (changing "notes" none)) := by cbv
  have nap : planLine "sleep 9 &" 64 = .ok (some napping) := by cbv
  have up : planLine "cd / > log" 64 = .ok (some (changing "/" (some ⟨"log", .truncate⟩))) := by
    cbv
  have noDirectory : (.ok false : Except IoError Bool) ≠ .ok true := by
    intro h
    cases h
  have life : History (State.start {} "/" false) guestLife.steps :=
    ⟨Operation.runs_perform_of_ok away (State.runs_changing .moved),
      Operation.runs_perform_of_error notes (State.runs_changing (.notDirectory noDirectory)),
      Operation.runs_perform_of_ok nap (Dialogue.runs_of_replay? rfl),
      Operation.runs_perform_of_ok up (State.runs_changing_output .moved),
      Operation.runs_perform_of_error away (State.runs_changing .unresolved), trivial⟩
  have changes : (guestLife.changes 64).map (·.1) = ["away", "/"] := by
    simp only [guestLife, Life.changes, List.filterMap_cons, PerformedStep.change?,
      Operation.change?_execute away, Operation.change?_execute notes,
      Operation.change?_execute nap, Operation.change?_execute up]
    rfl
  have absolute : Path.isAbsolute "/" = true := by cbv
  exact ⟨life, guestLife_answered, changes, rfl,
    working_dir_followed life guestLife_answered (.inl absolute)⟩

end CommandShell
