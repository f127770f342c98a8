import CommandShell.Proofs.Launch
import CommandShell.Shell.Execute

/-!
# Transcripts of a command line

Everything that a command line can do, once and for all, as `LaunchRun` does it for launches.
`JobRun` has a constructor for each way in which a plan of programs can be run, with the
transcript, the state it leaves and the result; `LineRun` puts in front of it the ways in which a
line does not get that far, or is carried out by a built-in command. `LineRun.of_runs` and
`LineRun.of_runs_execute` say that nothing else can happen.

Built-in commands are only bounded here: `State.runBuiltin_actsAsBuiltin` says what they ask for at
most, and which parts of the state they leave alone.
-/

namespace CommandShell

/-! ## Built-in commands -/

/-- What a built-in command may ask for: it makes no child and no pipe, and asks about no
child. -/
def ShellCall.isBuiltinCall : ShellCall → Bool
  | .write _ _ | .flush _ | .isDirectory _ | .canonical _ | .openOutput _ _ | .close _ => true
  | _ => false

/-- A built-in command can change nothing but the working directory. -/
def State.AgreesButDirectory (s s' : State) : Prop :=
  s' = { s with workingDir := s'.workingDir }

lemma State.agreesButDirectory_rfl {s : State} : s.AgreesButDirectory s := rfl

lemma State.AgreesButDirectory.jobs_eq {s s' : State} (h : s.AgreesButDirectory s') :
    s'.jobs = s.jobs := by
  rw [h]

/-- A part of the shell that asks for no more than a built-in command may, and that leaves a state
which differs from `s` at most in the working directory. -/
def ActsAsBuiltin {α : Type} (s : State) (part : Shell (State × α)) : Prop :=
  part.Within (fun request : ShellCall => request.isBuiltinCall = true)
    fun r => s.AgreesButDirectory r.1

lemma State.changeDirectory_actsAsBuiltin (s : State) (target : String) :
    ActsAsBuiltin s (s.changeDirectory target) := by
  refine ⟨rfl, fun answer _ => ?_⟩
  cases answer with
  | error e => exact s.agreesButDirectory_rfl
  | ok path =>
    refine ⟨rfl, fun answer _ => ?_⟩
    match answer with
    | .ok true => exact rfl
    | .ok false => exact s.agreesButDirectory_rfl
    | .error e => exact s.agreesButDirectory_rfl

lemma writeListing_within (sink : Sink) :
    (writeListing sink).Within (fun request : ShellCall => request.isBuiltinCall = true)
      fun _ => True := by
  refine ⟨rfl, fun answer _ => ?_⟩
  cases answer with
  | error e => exact trivial
  | ok _ => exact ⟨rfl, fun _ _ => trivial⟩

lemma Builtin.execute_actsAsBuiltin (builtin : Builtin) (arguments : List String) (s : State)
    (sink : Sink) : ActsAsBuiltin s (builtin.execute arguments s sink) := by
  cases builtin with
  | exit => exact s.agreesButDirectory_rfl
  | cd =>
    cases arguments with
    | nil => exact s.agreesButDirectory_rfl
    | cons target _ => exact s.changeDirectory_actsAsBuiltin target
  | help =>
    refine (writeListing_within sink).bind fun written _ => ?_
    cases written with
    | error e => exact s.agreesButDirectory_rfl
    | ok _ => exact s.agreesButDirectory_rfl

/-- What a line with a built-in command asks for at most, and what it can change. -/
theorem State.runBuiltin_actsAsBuiltin (s : State) (builtin : Builtin) (plan : Plan) :
    ActsAsBuiltin s (s.runBuiltin builtin plan) := by
  have executed (sink : Sink) := builtin.execute_actsAsBuiltin plan.left.arguments s sink
  unfold State.runBuiltin
  split
  · exact (executed .output).bind fun r hr => hr
  split
  · exact s.agreesButDirectory_rfl
  split
  · exact (executed .output).bind fun r hr => hr
  · refine ⟨rfl, fun answer _ => ?_⟩
    cases answer with
    | error e => exact s.agreesButDirectory_rfl
    | ok fd => exact (executed (.file fd)).bind fun r hr => ⟨rfl, fun _ _ => hr⟩

/-! ## Jobs -/

/-- The line that tells of a started background job. -/
def startNotice (job : Job) : String :=
  "Started background job with PID: " ++ toString (job.pids.headD 0) ++ "\n"

/-- `JobRun s plan t s' result`: the ways in which a plan of programs can be run. -/
inductive JobRun (s : State) (plan : Plan) :
    List Traffic → State → Except CommandError Flow → Prop
  /-- What was written before cannot be passed on, so nothing is started. -/
  | unflushed {e : IoError} : JobRun s plan [⟨.flush .output, .error e⟩] s (.error (.output e))
  /-- The launch fails. -/
  | notLaunched {t : List Traffic} {e : LaunchError}
      (launched : LaunchRun plan s.workingDir t (.error e)) :
      JobRun s plan (⟨.flush .output, .ok ()⟩ :: t) s (.error (.launch e))
  /-- The job is taken into the table, and its start can be told. -/
  | background {t : List Traffic} {job : Job} (launched : LaunchRun plan s.workingDir t (.ok job))
      (goes : job.background = true) :
      JobRun s plan
        (⟨.flush .output, .ok ()⟩ :: (t ++ [⟨.write .output (startNotice job), .ok ()⟩]))
        (s.track job) (.ok .continue)
  /-- The job is taken into the table, but its start cannot be told. -/
  | backgroundUntold {t : List Traffic} {job : Job} {e : IoError}
      (launched : LaunchRun plan s.workingDir t (.ok job)) (goes : job.background = true) :
      JobRun s plan
        (⟨.flush .output, .ok ()⟩ :: (t ++ [⟨.write .output (startNotice job), .error e⟩]))
        (s.track job) (.error (.output e))
  /-- The job cannot be waited for. -/
  | unwaited {t waiting : List Traffic} {job : Job} {e : WaitError}
      (launched : LaunchRun plan s.workingDir t (.ok job)) (stays : job.background = false)
      (waits : job.wait.Runs waiting (.error e)) :
      JobRun s plan (⟨.flush .output, .ok ()⟩ :: (t ++ waiting)) s (.error (.wait e))
  /-- The job ends by itself. -/
  | exited {t waiting : List Traffic} {job : Job} {code : Nat} {pending : Bool}
      (launched : LaunchRun plan s.workingDir t (.ok job)) (stays : job.background = false)
      (waits : job.wait.Runs waiting (.ok (.exited code))) :
      JobRun s plan
        (⟨.flush .output, .ok ()⟩ :: (t ++ (waiting ++ [⟨.takeInterrupt, pending⟩])))
        { s with lastStatus := some (.exited code) } (.ok .continue)
  /-- The job is interrupted, and the line on the screen is ended. -/
  | interrupted {t waiting : List Traffic} {job : Job} {pending : Bool}
      (launched : LaunchRun plan s.workingDir t (.ok job)) (stays : job.background = false)
      (waits : job.wait.Runs waiting (.ok (.signaled .SIGINT))) :
      JobRun s plan
        (⟨.flush .output, .ok ()⟩ ::
          (t ++ (waiting ++ [⟨.takeInterrupt, pending⟩, ⟨.write .output "\n", .ok ()⟩])))
        { s with lastStatus := some (.signaled .SIGINT) } (.ok .continue)
  /-- The job is interrupted, and the line on the screen cannot be ended. -/
  | interruptedUnended {t waiting : List Traffic} {job : Job} {pending : Bool} {e : IoError}
      (launched : LaunchRun plan s.workingDir t (.ok job)) (stays : job.background = false)
      (waits : job.wait.Runs waiting (.ok (.signaled .SIGINT))) :
      JobRun s plan
        (⟨.flush .output, .ok ()⟩ ::
          (t ++ (waiting ++ [⟨.takeInterrupt, pending⟩, ⟨.write .output "\n", .error e⟩])))
        s (.error (.output e))
  /-- Another signal ends the job, and that is told. -/
  | killed {t waiting : List Traffic} {job : Job} {signal : Signal} {pending : Bool}
      (launched : LaunchRun plan s.workingDir t (.ok job)) (stays : job.background = false)
      (waits : job.wait.Runs waiting (.ok (.signaled signal))) (other : signal ≠ .SIGINT) :
      JobRun s plan
        (⟨.flush .output, .ok ()⟩ ::
          (t ++ (waiting ++ [⟨.takeInterrupt, pending⟩,
            ⟨.warn ("orbit: " ++ (JobStatus.signaled signal).text ++ "\n"), ()⟩])))
        { s with lastStatus := some (.signaled signal) } (.ok .continue)

namespace JobRun

variable {s s' : State} {plan : Plan} {t u : List Traffic} {job : Job}
  {result : Except CommandError Flow}

lemma of_runs_runBackground (launched : LaunchRun plan s.workingDir t (.ok job))
    (goes : job.background = true) (h : (s.runBackground job).Runs u (s', result)) :
    JobRun s plan (⟨.flush .output, .ok ()⟩ :: (t ++ u)) s' result := by
  unfold State.runBackground at h
  obtain ⟨answer, rest, rfl, hdone⟩ := Shell.runs_call_bind_iff.1 h
  cases answer with
  | error e =>
    obtain ⟨rfl, rfl, rfl⟩ := Dialogue.runs_done_mk_iff.1 hdone
    exact .backgroundUntold launched goes
  | ok _ =>
    obtain ⟨rfl, rfl, rfl⟩ := Dialogue.runs_done_mk_iff.1 hdone
    exact .background launched goes

lemma of_runs_runForeground (launched : LaunchRun plan s.workingDir t (.ok job))
    (stays : job.background = false) (h : (s.runForeground job).Runs u (s', result)) :
    JobRun s plan (⟨.flush .output, .ok ()⟩ :: (t ++ u)) s' result := by
  unfold State.runForeground at h
  obtain ⟨waiting, rest, ending, rfl, waits, hnext⟩ := Dialogue.runs_bind_iff.1 h
  cases ending with
  | error e =>
    obtain ⟨rfl, rfl, rfl⟩ := Dialogue.runs_done_mk_iff.1 hnext
    rw [List.append_nil]
    exact .unwaited launched stays waits
  | ok status =>
    obtain ⟨pending, rest, rfl, hlast⟩ := Shell.runs_call_bind_iff.1 hnext
    cases status with
    | exited code =>
      obtain ⟨rfl, rfl, rfl⟩ := Dialogue.runs_done_mk_iff.1 hlast
      exact .exited launched stays waits
    | signaled signal =>
      by_cases hs : signal = .SIGINT
      · subst hs
        simp only [if_true] at hlast
        obtain ⟨answer, rest, rfl, hdone⟩ := Shell.runs_call_bind_iff.1 hlast
        cases answer with
        | error e =>
          obtain ⟨rfl, rfl, rfl⟩ := Dialogue.runs_done_mk_iff.1 hdone
          exact .interruptedUnended launched stays waits
        | ok _ =>
          obtain ⟨rfl, rfl, rfl⟩ := Dialogue.runs_done_mk_iff.1 hdone
          exact .interrupted launched stays waits
      · simp only [hs, if_false] at hlast
        obtain ⟨_, rest, rfl, hdone⟩ := Shell.runs_call_bind_iff.1 hlast
        obtain ⟨rfl, rfl, rfl⟩ := Dialogue.runs_done_mk_iff.1 hdone
        exact .killed launched stays waits hs

/-- There are no other ways for a plan of programs to be run. -/
theorem of_runs (h : (s.runJob plan).Runs t (s', result)) : JobRun s plan t s' result := by
  unfold State.runJob at h
  obtain ⟨answer, rest, rfl, hnext⟩ := Shell.runs_call_bind_iff.1 h
  cases answer with
  | error e =>
    obtain ⟨rfl, rfl, rfl⟩ := Dialogue.runs_done_mk_iff.1 hnext
    exact .unflushed
  | ok _ =>
    obtain ⟨t, u, started, rfl, hlaunch, hlast⟩ := Dialogue.runs_bind_iff.1 hnext
    have launched := LaunchRun.of_runs hlaunch
    cases started with
    | error e =>
      obtain ⟨rfl, rfl, rfl⟩ := Dialogue.runs_done_mk_iff.1 hlast
      rw [List.append_nil]
      exact .notLaunched launched
    | ok job =>
      by_cases hb : job.background = true
      · simp only [hb, if_true] at hlast
        exact of_runs_runBackground launched hb hlast
      · simp only [hb] at hlast
        exact of_runs_runForeground launched (by simpa using hb) hlast

end JobRun

/-! ## Lines -/

/-- `LineRun s line t s' result`: the ways in which a command line can go. -/
inductive LineRun (s : State) (line : String) :
    List Traffic → State → Except CommandError Flow → Prop
  /-- The line has no plan. -/
  | refused {e : CommandError} (planned : planLine line s.config.maxArgs = .error e) :
      LineRun s line [] s (.error e)
  | blank (planned : planLine line s.config.maxArgs = .ok none) :
      LineRun s line [] s (.ok .continue)
  /-- The left program is a built-in command. -/
  | builtin {plan : Plan} {builtin : Builtin} {t : List Traffic} {s' : State}
      {result : Except CommandError Flow}
      (planned : planLine line s.config.maxArgs = .ok (some plan))
      (left : Builtin.ofName? plan.left.program = some builtin)
      (run : (s.runBuiltin builtin plan).Runs t (s', result)) : LineRun s line t s' result
  /-- The left program is none, but the right one is a built-in command. -/
  | misplaced {plan : Plan} {builtin : Builtin}
      (planned : planLine line s.config.maxArgs = .ok (some plan))
      (left : Builtin.ofName? plan.left.program = none)
      (right : (plan.right.bind fun right => Builtin.ofName? right.program) = some builtin) :
      LineRun s line [] s (.error (.builtin (.unsupported builtin)))
  /-- No program is a built-in command. -/
  | job {plan : Plan} {t : List Traffic} {s' : State} {result : Except CommandError Flow}
      (planned : planLine line s.config.maxArgs = .ok (some plan))
      (left : Builtin.ofName? plan.left.program = none)
      (right : (plan.right.bind fun right => Builtin.ofName? right.program) = none)
      (run : JobRun s plan t s' result) : LineRun s line t s' result

/-- Executing a line is running it, and then telling what went wrong, if something did. -/
theorem State.run_of_runs_execute {s s' : State} {line : String} {t : List Traffic} {flow : Flow}
    (h : (s.execute line).Runs t (s', flow)) :
    (s.run line).Runs t (s', .ok flow) ∨
      ∃ t' e, (s.run line).Runs t' (s', .error e) ∧ flow = .continue ∧
        t = t' ++ [⟨.warn ("orbit: " ++ e.message ++ "\n"), ()⟩] := by
  unfold State.execute at h
  obtain ⟨t₁, t₂, ⟨s₁, result⟩, rfl, hrun, hnext⟩ := Dialogue.runs_bind_iff.1 h
  cases result with
  | ok flow' =>
    obtain ⟨rfl, rfl, rfl⟩ := Dialogue.runs_done_mk_iff.1 hnext
    rw [List.append_nil]
    exact .inl hrun
  | error e =>
    obtain ⟨_, rest, rfl, hdone⟩ := Shell.runs_call_bind_iff.1 hnext
    obtain ⟨rfl, rfl, rfl⟩ := Dialogue.runs_done_mk_iff.1 hdone
    exact .inr ⟨t₁, e, hrun, rfl, rfl⟩

namespace LineRun

variable {s s' : State} {line : String} {t : List Traffic}

/-- There are no other ways for a command line to go. -/
theorem of_runs {result : Except CommandError Flow} (h : (s.run line).Runs t (s', result)) :
    LineRun s line t s' result := by
  unfold State.run at h
  split at h
  · rename_i e planned
    obtain ⟨rfl, rfl, rfl⟩ := Dialogue.runs_done_mk_iff.1 h
    exact .refused planned
  · rename_i planned
    obtain ⟨rfl, rfl, rfl⟩ := Dialogue.runs_done_mk_iff.1 h
    exact .blank planned
  · rename_i plan planned
    unfold State.runPlan at h
    split at h
    · rename_i builtin left
      exact .builtin planned left h
    · rename_i left
      split at h
      · rename_i builtin right
        obtain ⟨rfl, rfl, rfl⟩ := Dialogue.runs_done_mk_iff.1 h
        exact .misplaced planned left right
      · rename_i right
        exact .job planned left right (.of_runs h)

/-- The same for a line that is executed. -/
theorem of_runs_execute {flow : Flow} (h : (s.execute line).Runs t (s', flow)) :
    LineRun s line t s' (.ok flow) ∨
      ∃ t' e, LineRun s line t' s' (.error e) ∧ flow = .continue ∧
        t = t' ++ [⟨.warn ("orbit: " ++ e.message ++ "\n"), ()⟩] := by
  rcases State.run_of_runs_execute h with went | ⟨t', e, failed, goes, ht⟩
  · exact .inl (of_runs went)
  · exact .inr ⟨t', e, of_runs failed, goes, ht⟩

lemma config_eq {result : Except CommandError Flow} (h : LineRun s line t s' result) :
    s'.config = s.config := by
  cases h with
  | refused _ | blank _ | misplaced _ _ _ => rfl
  | @builtin plan builtin _ _ _ _ _ run =>
    obtain ⟨-, agrees⟩ := (s.runBuiltin_actsAsBuiltin builtin plan).of_runs run
    have agrees : s' = { s with workingDir := s'.workingDir } := agrees
    rw [agrees]
  | job _ _ _ run => cases run <;> rfl

end LineRun

lemma config_eq_of_runs_execute {s s' : State} {line : String} {t : List Traffic} {flow : Flow}
    (h : (s.execute line).Runs t (s', flow)) : s'.config = s.config := by
  rcases LineRun.of_runs_execute h with went | ⟨_, e, failed, -, -⟩
  · exact went.config_eq
  · exact failed.config_eq

end CommandShell
