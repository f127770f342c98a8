import CommandShell.Proofs.Line

/-!
# Transcripts of a built-in command

Everything that a built-in command can do, once and for all, as `LaunchRun` does it for launches
and `JobRun` for programs. `BuiltinRun` has a constructor for each way in which one of the three
commands can go by itself; `BuiltinPlanRun` puts around it what a line adds, which is that a
command may not be allowed where it stands, and that its output may go to a file.
`BuiltinPlanRun.of_runs` says that there are no other ways, and `BuiltinPlanRun.runs` that each of
them is possible.

From the two come the facts about built-in commands that do not depend on which one it is: when
they end the shell (`BuiltinPlanRun.terminates`), and what is left when they fail
(`BuiltinPlanRun.fails`).
-/

namespace CommandShell

/-! ## The commands -/

/-- `BuiltinRun s sink builtin arguments t s' result`: the ways in which a built-in command can go,
its output going to `sink`, with the transcript, the state it leaves and the result of each. -/
inductive BuiltinRun (s : State) (sink : Sink) :
    Builtin → List String → List Traffic → State → Except BuiltinError Flow → Prop
  | exit {arguments : List String} : BuiltinRun s sink .exit arguments [] s (.ok .terminate)
  /-- `cd` without a target. -/
  | nowhere : BuiltinRun s sink .cd [] [] s (.error (.missingArgument .cd))
  /-- The target has no canonical path. -/
  | unresolved {target : String} {more : List String} {e : IoError} :
      BuiltinRun s sink .cd (target :: more)
        [⟨.canonical (Path.join s.workingDir target), .error e⟩] s
        (.error (.changeDirectory target e))
  /-- The canonical path does not lead to a directory. -/
  | notDirectory {target path : String} {more : List String} {answer : Except IoError Bool}
      (other : answer ≠ .ok true) :
      BuiltinRun s sink .cd (target :: more)
        [⟨.canonical (Path.join s.workingDir target), .ok path⟩, ⟨.isDirectory path, answer⟩] s
        (.error (.changeDirectory target (.os .ENOTDIR)))
  /-- The canonical path becomes the working directory. -/
  | moved {target path : String} {more : List String} :
      BuiltinRun s sink .cd (target :: more)
        [⟨.canonical (Path.join s.workingDir target), .ok path⟩, ⟨.isDirectory path, .ok true⟩]
        { s with workingDir := path } (.ok .continue)
  /-- The listing cannot be written. -/
  | unwritten {arguments : List String} {e : IoError} :
      BuiltinRun s sink .help arguments [⟨.write sink Builtin.listing, .error e⟩] s
        (.error (.output e))
  /-- The listing cannot be handed on. -/
  | unflushed {arguments : List String} {e : IoError} :
      BuiltinRun s sink .help arguments
        [⟨.write sink Builtin.listing, .ok ()⟩, ⟨.flush sink, .error e⟩] s (.error (.output e))
  | listed {arguments : List String} :
      BuiltinRun s sink .help arguments
        [⟨.write sink Builtin.listing, .ok ()⟩, ⟨.flush sink, .ok ()⟩] s (.ok .continue)

namespace BuiltinRun

variable {s s' : State} {sink : Sink} {builtin : Builtin} {arguments : List String}
  {t : List Traffic} {result : Except BuiltinError Flow}

lemma of_runs_changeDirectory {target : String} {more : List String}
    (h : (s.changeDirectory target).Runs t (s', result)) :
    BuiltinRun s sink .cd (target :: more) t s' result := by
  unfold State.changeDirectory at h
  obtain ⟨found, t, rfl, hnext⟩ := Shell.runs_call_bind_iff.1 h
  cases found with
  | error e =>
    obtain ⟨rfl, rfl, rfl⟩ := Dialogue.runs_done_mk_iff.1 hnext
    exact .unresolved
  | ok path =>
    obtain ⟨answer, t, rfl, hlast⟩ := Shell.runs_call_bind_iff.1 hnext
    by_cases hd : answer = .ok true
    · subst hd
      obtain ⟨rfl, rfl, rfl⟩ := Dialogue.runs_done_mk_iff.1 hlast
      exact .moved
    -- not a directory, or a question that failed: both are told as the same error
    · have hfailed : t = [] ∧ (s', result) =
          (s, .error (.changeDirectory target (.os .ENOTDIR))) := by
        match answer with
        | .ok true => exact absurd rfl hd
        | .ok false => exact Dialogue.runs_done_iff.1 hlast
        | .error e => exact Dialogue.runs_done_iff.1 hlast
      obtain ⟨rfl, hr⟩ := hfailed
      cases hr
      exact .notDirectory hd

lemma of_runs_writeListing {written : Except IoError Unit}
    (h : (writeListing sink).Runs t written) :
    (∃ e, t = [⟨.write sink Builtin.listing, .error e⟩] ∧ written = .error e) ∨
      t = [⟨.write sink Builtin.listing, .ok ()⟩, ⟨.flush sink, written⟩] := by
  unfold writeListing at h
  obtain ⟨answer, t, rfl, hnext⟩ := Shell.runs_call_bind_iff.1 h
  cases answer with
  | error e =>
    obtain ⟨rfl, rfl⟩ := Dialogue.runs_done_iff.1 hnext
    exact .inl ⟨e, rfl, rfl⟩
  | ok _ =>
    obtain ⟨flushed, t, rfl, hdone⟩ := Dialogue.runs_once_iff.1 hnext
    obtain ⟨rfl, rfl⟩ := Dialogue.runs_done_iff.1 hdone
    exact .inr rfl

/-- There are no other ways for a built-in command to go. -/
theorem of_runs (h : (builtin.execute arguments s sink).Runs t (s', result)) :
    BuiltinRun s sink builtin arguments t s' result := by
  cases builtin with
  | exit =>
    obtain ⟨rfl, rfl, rfl⟩ := Dialogue.runs_done_mk_iff.1 h
    exact .exit
  | cd =>
    cases arguments with
    | nil =>
      obtain ⟨rfl, rfl, rfl⟩ := Dialogue.runs_done_mk_iff.1 h
      exact .nowhere
    | cons target more => exact of_runs_changeDirectory h
  | help =>
    obtain ⟨t, u, written, rfl, hwrite, hnext⟩ := Dialogue.runs_bind_iff.1 h
    rcases of_runs_writeListing hwrite with ⟨e, rfl, rfl⟩ | rfl
    · obtain ⟨rfl, rfl, rfl⟩ := Dialogue.runs_done_mk_iff.1 hnext
      exact .unwritten
    · cases written with
      | error e =>
        obtain ⟨rfl, rfl, rfl⟩ := Dialogue.runs_done_mk_iff.1 hnext
        exact .unflushed
      | ok _ =>
        obtain ⟨rfl, rfl, rfl⟩ := Dialogue.runs_done_mk_iff.1 hnext
        exact .listed

/-- Each of these ways is one that a built-in command can go. -/
theorem runs (h : BuiltinRun s sink builtin arguments t s' result) :
    (builtin.execute arguments s sink).Runs t (s', result) := by
  cases h with
  | exit | nowhere => exact .done _
  | unresolved => exact Shell.runs_call_bind_iff.2 ⟨_, [], rfl, .done _⟩
  | @notDirectory target path more answer other =>
    refine Shell.runs_call_bind_iff.2 ⟨.ok path, _, rfl, ?_⟩
    refine Shell.runs_call_bind_iff.2 ⟨answer, [], rfl, ?_⟩
    match answer with
    | .ok true => exact absurd rfl other
    | .ok false => exact .done _
    | .error e => exact .done _
  | @moved target path more =>
    refine Shell.runs_call_bind_iff.2 ⟨.ok path, _, rfl, ?_⟩
    exact Shell.runs_call_bind_iff.2 ⟨.ok true, [], rfl, .done _⟩
  | @unwritten _ e =>
    refine Dialogue.runs_bind_iff.2 ⟨_, [], .error e, (List.append_nil _).symm, ?_, .done _⟩
    exact Shell.runs_call_bind_iff.2 ⟨.error e, [], rfl, .done _⟩
  | @unflushed _ e =>
    refine Dialogue.runs_bind_iff.2 ⟨_, [], .error e, (List.append_nil _).symm, ?_, .done _⟩
    refine Shell.runs_call_bind_iff.2 ⟨.ok (), _, rfl, ?_⟩
    exact Dialogue.runs_once_iff.2 ⟨.error e, [], rfl, .done _⟩
  | listed =>
    refine Dialogue.runs_bind_iff.2 ⟨_, [], .ok (), (List.append_nil _).symm, ?_, .done _⟩
    refine Shell.runs_call_bind_iff.2 ⟨.ok (), _, rfl, ?_⟩
    exact Dialogue.runs_once_iff.2 ⟨.ok (), [], rfl, .done _⟩

/-- Of the built-in commands only `exit` ends the shell. -/
lemma eq_exit (h : BuiltinRun s sink builtin arguments t s' (.ok .terminate)) :
    builtin = .exit := by
  cases h
  rfl

/-- A built-in command that fails has changed nothing, and it has not been refused: that is for
the line to do. -/
theorem fails {e : BuiltinError} (h : BuiltinRun s sink builtin arguments t s' (.error e)) :
    s' = s ∧ ∀ other, e ≠ .unsupported other := by
  cases h <;> exact ⟨rfl, nofun⟩

end BuiltinRun

/-! ## Lines with a built-in command -/

/-- The error is one by which a line is refused before anything is done. -/
def CommandError.isRefusal : CommandError → Bool
  | .tooManyArguments _ | .plan _ | .builtin (.unsupported _) => true
  | _ => false

/-- `BuiltinPlanRun s builtin plan t s' result`: the ways in which a plan whose left program is a
built-in command can be run. -/
inductive BuiltinPlanRun (s : State) (builtin : Builtin) (plan : Plan) :
    List Traffic → State → Except CommandError Flow → Prop
  /-- `exit` is carried out whatever else the line asks for. -/
  | exit (exits : builtin = .exit) : BuiltinPlanRun s builtin plan [] s (.ok .terminate)
  /-- Another built-in command is in a pipeline, or is to go to the background. -/
  | refused (stays : builtin ≠ .exit) (spoilt : (plan.isPipeline || plan.background) = true) :
      BuiltinPlanRun s builtin plan [] s (.error (.builtin (.unsupported builtin)))
  /-- It is carried out, and its output is that of the shell. -/
  | direct {t : List Traffic} {s' : State} {result : Except BuiltinError Flow}
      (stays : builtin ≠ .exit) (alone : (plan.isPipeline || plan.background) = false)
      (output : plan.left.output = none)
      (run : BuiltinRun s .output builtin plan.left.arguments t s' result) :
      BuiltinPlanRun s builtin plan t s' (result.mapError .builtin)
  /-- The file for its output cannot be opened. -/
  | unopened {target : OutputTarget} {e : IoError} (stays : builtin ≠ .exit)
      (alone : (plan.isPipeline || plan.background) = false)
      (output : plan.left.output = some target) :
      BuiltinPlanRun s builtin plan
        [⟨.openOutput (Path.join s.workingDir target.path) (outputOptions target.mode), .error e⟩] s
        (.error (.redirect target.path e))
  /-- It is carried out, and its output goes to a file. -/
  | redirected {target : OutputTarget} {fd : Fd} {closed : Except Errno Unit} {t : List Traffic}
      {s' : State} {result : Except BuiltinError Flow} (stays : builtin ≠ .exit)
      (alone : (plan.isPipeline || plan.background) = false)
      (output : plan.left.output = some target)
      (run : BuiltinRun s (.file fd) builtin plan.left.arguments t s' result) :
      BuiltinPlanRun s builtin plan
        (⟨.openOutput (Path.join s.workingDir target.path) (outputOptions target.mode), .ok fd⟩ ::
          (t ++ [⟨.close fd, closed⟩])) s' (result.mapError .builtin)

namespace BuiltinPlanRun

variable {s s' : State} {builtin : Builtin} {plan : Plan} {t : List Traffic}
  {result : Except CommandError Flow}

/-- There are no other ways for such a plan to be run. -/
theorem of_runs (h : (s.runBuiltin builtin plan).Runs t (s', result)) :
    BuiltinPlanRun s builtin plan t s' result := by
  by_cases exits : builtin = .exit
  · subst exits
    obtain ⟨rfl, rfl, rfl⟩ := Dialogue.runs_done_mk_iff.1 h
    exact .exit rfl
  unfold State.runBuiltin at h
  rw [if_neg exits] at h
  by_cases spoilt : (plan.isPipeline || plan.background) = true
  · rw [if_pos spoilt] at h
    obtain ⟨rfl, rfl, rfl⟩ := Dialogue.runs_done_mk_iff.1 h
    exact .refused exits spoilt
  rw [if_neg spoilt] at h
  have alone : (plan.isPipeline || plan.background) = false := by simpa using spoilt
  cases output : plan.left.output with
  | none =>
    simp only [output] at h
    obtain ⟨t, u, ⟨s₁, result₁⟩, rfl, hrun, hdone⟩ := Dialogue.runs_bind_iff.1 h
    obtain ⟨rfl, rfl, rfl⟩ := Dialogue.runs_done_mk_iff.1 hdone
    rw [List.append_nil]
    exact .direct exits alone output (.of_runs hrun)
  | some target =>
    simp only [output] at h
    obtain ⟨opened, t, rfl, hnext⟩ := Shell.runs_call_bind_iff.1 h
    cases opened with
    | error e =>
      obtain ⟨rfl, rfl, rfl⟩ := Dialogue.runs_done_mk_iff.1 hnext
      exact .unopened exits alone output
    | ok fd =>
      obtain ⟨t, u, ⟨s₁, result₁⟩, rfl, hrun, hlast⟩ := Dialogue.runs_bind_iff.1 hnext
      obtain ⟨closed, u, rfl, hdone⟩ := Shell.runs_call_bind_iff.1 hlast
      obtain ⟨rfl, rfl, rfl⟩ := Dialogue.runs_done_mk_iff.1 hdone
      exact .redirected exits alone output (.of_runs hrun)

/-- Each of these ways is one that such a plan can be run. -/
theorem runs (h : BuiltinPlanRun s builtin plan t s' result) :
    (s.runBuiltin builtin plan).Runs t (s', result) := by
  unfold State.runBuiltin
  cases h with
  | exit exits =>
    subst exits
    exact .done _
  | refused stays spoilt =>
    rw [if_neg stays, if_pos spoilt]
    exact .done _
  | direct stays alone output run =>
    rw [if_neg stays, if_neg (by simp [alone]), output]
    exact Dialogue.runs_bind_iff.2 ⟨_, [], _, (List.append_nil _).symm, run.runs, .done _⟩
  | unopened stays alone output =>
    rw [if_neg stays, if_neg (by simp [alone]), output]
    exact Shell.runs_call_bind_iff.2 ⟨_, [], rfl, .done _⟩
  | @redirected target fd closed t s' result stays alone output run =>
    rw [if_neg stays, if_neg (by simp [alone]), output]
    refine Shell.runs_call_bind_iff.2 ⟨.ok fd, _, rfl, ?_⟩
    refine Dialogue.runs_bind_iff.2 ⟨_, _, _, rfl, run.runs, ?_⟩
    exact Shell.runs_call_bind_iff.2 ⟨closed, [], rfl, .done _⟩

lemma eq_error_of_mapError {handled : Except BuiltinError Flow} {e : CommandError}
    (h : handled.mapError .builtin = .error e) : ∃ e', handled = .error e' ∧ e = .builtin e' := by
  cases handled with
  | ok flow => exact absurd h nofun
  | error e' =>
    cases h
    exact ⟨e', rfl, rfl⟩

lemma eq_ok_of_mapError {handled : Except BuiltinError Flow} {flow : Flow}
    (h : handled.mapError CommandError.builtin = .ok flow) : handled = .ok flow := by
  cases handled with
  | ok flow' =>
    cases h
    rfl
  | error e => exact absurd h nofun

/-- Only `exit` ends the shell, and it asks for nothing and changes nothing. -/
theorem terminates (h : BuiltinPlanRun s builtin plan t s' (.ok .terminate)) :
    builtin = .exit ∧ t = [] ∧ s' = s := by
  generalize hr : (.ok .terminate : Except CommandError Flow) = result at h
  cases h with
  | exit exits => exact ⟨exits, rfl, rfl⟩
  | refused _ _ | unopened _ _ _ => exact absurd hr nofun
  | direct stays _ _ run | redirected stays _ _ run =>
    rw [eq_ok_of_mapError hr.symm] at run
    exact absurd run.eq_exit stays

/-- What is left when a built-in command fails: nothing has changed, the failure is not one of the
shell's own output, and if the command was refused then nothing was asked for. -/
theorem fails {e : CommandError} (h : BuiltinPlanRun s builtin plan t s' (.error e)) :
    s' = s ∧ (∀ cause, e ≠ .output cause) ∧ (e.isRefusal = true → t = []) := by
  generalize hr : (.error e : Except CommandError Flow) = result at h
  cases h with
  | exit _ => exact absurd hr nofun
  | refused _ _ =>
    cases hr
    exact ⟨rfl, nofun, fun _ => rfl⟩
  | unopened _ _ _ =>
    cases hr
    exact ⟨rfl, nofun, nofun⟩
  | direct _ _ _ run | redirected _ _ _ run =>
    obtain ⟨e', rfl, rfl⟩ := eq_error_of_mapError hr.symm
    obtain ⟨unchanged, notRefused⟩ := run.fails
    refine ⟨unchanged, nofun, fun refused => ?_⟩
    cases e' with
    | unsupported other => exact absurd rfl (notRefused other)
    | _ => exact absurd refused Bool.false_ne_true

end BuiltinPlanRun

/-- A line ends the shell by `exit` on the left of its plan, and then it asks for nothing and
changes nothing. -/
theorem LineRun.terminates {s s' : State} {line : String} {t : List Traffic}
    (h : LineRun s line t s' (.ok .terminate)) :
    t = [] ∧ s' = s ∧ ∃ plan, planLine line s.config.maxArgs = .ok (some plan) ∧
      Builtin.ofName? plan.left.program = some .exit := by
  cases h with
  | builtin planned left run =>
    obtain ⟨rfl, silent, unchanged⟩ := (BuiltinPlanRun.of_runs run).terminates
    exact ⟨silent, unchanged, _, planned, left⟩
  | job _ _ _ run => cases run

end CommandShell
