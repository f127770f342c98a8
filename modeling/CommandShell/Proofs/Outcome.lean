import CommandShell.Proofs.Builtins
import CommandShell.Proofs.PlanText
import CommandShell.Proofs.Reports
import CommandShell.Proofs.Starting

/-!
# How a line comes out

A line ends the shell, or it goes well, or it fails, and for each of these there is a statement
here about every line, every state and every way in which the system may answer.
`execute_terminates_iff` says which lines end the shell, and that they do so without asking for
anything. `run_fails` says what a line that fails has done: its failure is told once and nothing of
it stays behind in the state, but for a background job that runs although its start could not be
told (`StartUntold`).

Both are read off `LineRun`, the list of all the ways in which a line can go. What they need of a
launch is said first: it tells nothing, and a job that goes to the background is one child which
has nothing to do with a pipe.
-/

namespace CommandShell

/-! ## Launching and waiting tell nothing -/

/-- What starting processes and waiting for them asks for: nothing is written, and no process is
asked about without waiting for it. -/
def ShellCall.isProcessCall : ShellCall → Bool
  | .makePipe | .fork _ | .ownGroup _ | .close _ => true
  | .wait _ block => block
  | _ => false

lemma Traffic.isProcessCall_of_isMaking {x : Traffic} (h : x.isMaking = true) :
    ShellCall.isProcessCall x.request = true := by
  obtain ⟨request, answer⟩ := x
  cases request with
  | fork _ | ownGroup _ => rfl
  | _ => exact absurd h Bool.false_ne_true

lemma Job.isProcessCall_of_waitFor {pid : Pid} {t : List Traffic}
    {result : Except WaitError JobStatus} (h : (waitFor pid).Runs t result) :
    ∀ x ∈ t, ShellCall.isProcessCall x.request = true := by
  obtain ⟨vain, answer, -, -, rfl⟩ := runs_waitFor_iff.1 h
  refine List.forall_mem_append.2 ⟨fun x hx => ?_, List.forall_mem_singleton.2 rfl⟩
  obtain ⟨v, -, rfl⟩ := List.mem_map.1 hx
  rfl

lemma Job.isProcessCall_of_waitAll {pids : List Pid} {before result : Except WaitError JobStatus}
    {t : List Traffic} (h : (waitAll before pids).Runs t result) :
    ∀ x ∈ t, ShellCall.isProcessCall x.request = true := by
  induction pids generalizing before t with
  | nil =>
    obtain ⟨rfl, -⟩ := Dialogue.runs_done_iff.1 h
    exact fun x hx => absurd hx List.not_mem_nil
  | cons pid pids ih =>
    obtain ⟨t₁, t₂, first, rfl, hfirst, hrest⟩ := runs_waitAll_cons_iff.1 h
    exact List.forall_mem_append.2 ⟨isProcessCall_of_waitFor hfirst, ih hrest⟩

lemma isProcessCall_throughPipe {read write : Fd} {making waiting : List Traffic}
    {first second : Except Errno Unit}
    (hmaking : ∀ x ∈ making, ShellCall.isProcessCall x.request = true)
    (hwaiting : ∀ x ∈ waiting, ShellCall.isProcessCall x.request = true) :
    ∀ x ∈ throughPipe read write making first second waiting,
      ShellCall.isProcessCall x.request = true := by
  refine List.forall_mem_cons.2 ⟨rfl, List.forall_mem_append.2 ⟨hmaking, ?_⟩⟩
  refine List.forall_mem_append.2 ⟨?_, hwaiting⟩
  exact List.forall_mem_cons.2 ⟨rfl, List.forall_mem_singleton.2 rfl⟩

namespace LaunchRun

variable {plan : Plan} {workingDir : String} {t : List Traffic}

lemma isProcessCall {result : Except LaunchError Job} (h : LaunchRun plan workingDir t result) :
    ∀ x ∈ t, ShellCall.isProcessCall x.request = true := by
  have making {child : Child} {pid : Pid} :
      ∀ x ∈ started child pid, ShellCall.isProcessCall x.request = true :=
    fun x hx => Traffic.isProcessCall_of_isMaking (isMaking_of_mem_started hx)
  cases h with
  | refused _ => exact fun x hx => absurd hx List.not_mem_nil
  | onlyFailed _ _ | pipeFailed _ _ => exact List.forall_mem_singleton.2 rfl
  | only _ _ => exact making
  | rightFailed _ _ =>
    refine isProcessCall_throughPipe (List.forall_mem_singleton.2 rfl) fun x hx => ?_
    exact absurd hx List.not_mem_nil
  | leftFailed _ _ waits =>
    refine isProcessCall_throughPipe ?_ (Job.isProcessCall_of_waitFor waits)
    exact List.forall_mem_append.2 ⟨making, List.forall_mem_singleton.2 rfl⟩
  | pipeline _ _ =>
    refine isProcessCall_throughPipe (List.forall_mem_append.2 ⟨making, making⟩) fun x hx => ?_
    exact absurd hx List.not_mem_nil

end LaunchRun

lemma HasPlan.right_eq_none {s : State} {line : String} {plan : Plan} (h : HasPlan s line plan)
    (background : plan.background = true) : plan.right = none := by
  obtain ⟨tokens, htokens, hscan⟩ := h
  obtain ⟨rfl, -⟩ := tokenize_eq_ok_iff.1 htokens
  have wellFormed := Plan.wellFormed_of_scan? (fun token => lexed_of_mem_lex) hscan
  cases hright : plan.right with
  | none => rfl
  | some right =>
    obtain ⟨foreground, -⟩ := wellFormed.pipeline right hright
    rw [background] at foreground
    exact absurd foreground (by decide)

/-- The child is in a process group of its own and has nothing to do with a pipe, as the child of a
background job is, and no other. -/
def Child.RunsApart (child : Child) : Prop :=
  child.wiring = { ownGroup := true }

instance (child : Child) : Decidable child.RunsApart :=
  inferInstanceAs (Decidable (child.wiring = _))

/-- A background job without a pipe is one child of that kind, and its launch does nothing but make
it. -/
theorem LaunchRun.eq_started {plan : Plan} {workingDir : String} {t : List Traffic} {job : Job}
    (h : LaunchRun plan workingDir t (.ok job)) (goes : job.background = true)
    (alone : plan.background = true → plan.right = none) :
    ∃ child pid, child.RunsApart ∧ t = started child pid ∧ job = ⟨[pid], true⟩ := by
  cases h with
  | @only pid _ _ =>
    have goes : plan.background = true := goes
    refine ⟨plan.onlyChild workingDir, pid, ?_, rfl, by rw [goes]⟩
    unfold Child.RunsApart Plan.onlyChild
    rw [goes]
  | pipeline _ piped =>
    rw [alone goes] at piped
    cases piped

/-- The exchanges of a line that starts a background process: what was written before is handed on,
the child is made, and its start is told, which gets the answer `told`. -/
def backgroundStart (child : Child) (pid : Pid) (told : Except IoError Unit) : List Traffic :=
  ⟨.flush .output, .ok ()⟩ :: (started child pid ++ [⟨.write .output (startLine pid), told⟩])

lemma forks_backgroundStart (child : Child) (pid : Pid) (told : Except IoError Unit) :
    forks (backgroundStart child pid told) = [(child, pid)] := by
  calc forks (backgroundStart child pid told)
      = forks (started child pid ++ [⟨.write .output (startLine pid), told⟩]) := rfl
    _ = [(child, pid)] := by rw [forks_append, forks_started]; rfl

/-! ## Lines that end the shell -/

section Terminates

variable {s s' : State} {line : String} {t : List Traffic} {flow : Flow}

lemma program_eq_iff {plan : Plan} {name : String} :
    plan.left.argv.head? = some name ↔ plan.left.program = name := by
  rw [Segment.argv, List.head?_cons, Option.some.injEq]

/-- Only `exit` ends the shell, and it does so without doing anything else. A line ends the shell if
and only if it has a plan whose left side begins with `exit`, whatever else stands in the line; then
the shell asks the system for nothing, so it writes, opens and starts nothing, and its state stays
as it is. -/
theorem execute_terminates_iff (h : (s.execute line).Runs t (s', flow)) :
    (flow = .terminate ↔ ∃ plan, HasPlan s line plan ∧ plan.left.argv.head? = some "exit") ∧
      (flow = .terminate → t = [] ∧ s' = s) := by
  have ends : flow = .terminate → (t = [] ∧ s' = s) ∧
      ∃ plan, HasPlan s line plan ∧ plan.left.argv.head? = some "exit" := by
    rintro rfl
    rcases LineRun.of_runs_execute h with went | ⟨_, _, _, told, _⟩
    · obtain ⟨silent, unchanged, plan, planned, left⟩ := went.terminates
      have left : plan.left.program = "exit" := Builtin.ofName?_eq_some_iff.1 left
      exact ⟨⟨silent, unchanged⟩, plan, planLine_eq_ok_iff.1 planned, program_eq_iff.2 left⟩
    · cases told
  refine ⟨⟨fun hflow => (ends hflow).2, ?_⟩, fun hflow => (ends hflow).1⟩
  rintro ⟨plan, planned, left⟩
  rw [execute_exit planned (program_eq_iff.1 left)] at h
  obtain ⟨-, hr⟩ := Dialogue.runs_done_iff.1 h
  cases hr
  rfl

/-- `< in exit 3 >> log | cd`, where everything but the second word asks for something that `exit`
passes over: a file to be read and one to be written, an argument, and a built-in command behind a
pipe. -/
def overloadedExit : Plan where
  left :=
    { program := "exit", arguments := ["3"], input := some "in", output := some ⟨"log", .append⟩ }
  right := some { program := "cd" }

theorem execute_terminates_iff_overloadedExit :
    ((State.start {} "/" false).execute "< in exit 3 >> log | cd").Runs []
        (State.start {} "/" false, .terminate) ∧
      (Flow.terminate = .terminate ↔ ∃ plan,
        HasPlan (State.start {} "/" false) "< in exit 3 >> log | cd" plan ∧
          plan.left.argv.head? = some "exit") ∧
      (Flow.terminate = .terminate → ([] : List Traffic) = [] ∧
        State.start {} "/" false = State.start {} "/" false) := by
  have planned : HasPlan (State.start {} "/" false) "< in exit 3 >> log | cd" overloadedExit :=
    planLine_eq_ok_iff.1 (by cbv)
  have run : ((State.start {} "/" false).execute "< in exit 3 >> log | cd").Runs []
      (State.start {} "/" false, .terminate) := by
    rw [execute_exit planned rfl]
    exact .done _
  exact ⟨run, execute_terminates_iff run⟩

end Terminates

/-! ## Lines that fail -/

/-- What an exchange writes to the standard error. -/
def Traffic.warned? : Traffic → Option String
  | ⟨.warn text, _⟩ => some text
  | _ => none

/-- What has been written to the standard error, in order. -/
def diagnostics (t : List Traffic) : List String := t.filterMap Traffic.warned?

@[simp] lemma diagnostics_append (t u : List Traffic) :
    diagnostics (t ++ u) = diagnostics t ++ diagnostics u :=
  List.filterMap_append

/-- A background child has been started, and the line that tells of it could not be written. -/
def StartUntold (t : List Traffic) (pid : Pid) : Prop :=
  ∃ child cause, (child, pid) ∈ forks t ∧ child.RunsApart ∧
    (⟨.write .output (startLine pid), .error cause⟩ : Traffic) ∈ t

/-- What a line leaves behind that has come to the error `e` by the exchanges `t`. -/
structure FailureLeaves (s : State) (t : List Traffic) (s' : State) (e : CommandError) :
    Prop where
  /-- It has told nothing on the standard error so far. -/
  silent : diagnostics t = []
  /-- An error other than one of the shell's output leaves the state as it was. -/
  unchanged : (∀ cause, e ≠ .output cause) → s' = s
  /-- An error of the output changes the table at most. -/
  table : s' = { s with jobs := s'.jobs }
  /-- It adds to the table the background child whose start could not be told, and nothing else. -/
  added : ∀ pid, s'.jobs = s.jobs ++ [pid] ↔ StartUntold t pid
  kept : (∀ pid, ¬ StartUntold t pid) → s'.jobs = s.jobs
  /-- A refused line has asked for nothing. -/
  refused : e.isRefusal = true → t = []

namespace FailureLeaves

variable {s s' : State} {t : List Traffic} {e : CommandError}

lemma diagnostics_eq_nil (h : ∀ x ∈ t, x.warned? = none) : diagnostics t = [] :=
  List.filterMap_eq_nil_iff.2 h

lemma warned?_of_isProcessCall {x : Traffic} (h : ShellCall.isProcessCall x.request = true) :
    x.warned? = none := by
  obtain ⟨request, answer⟩ := x
  cases request with
  | warn _ => exact absurd h Bool.false_ne_true
  | _ => rfl

/-- A failure that leaves the state as it was, with every start told. -/
lemma of_unchanged (silent : ∀ x ∈ t, x.warned? = none) (told : ∀ pid, ¬ StartUntold t pid)
    (refused : e.isRefusal = true → t = []) : FailureLeaves s t s e where
  silent := diagnostics_eq_nil silent
  unchanged := fun _ => rfl
  table := rfl
  added := by
    intro pid
    refine ⟨fun h => ?_, fun h => absurd h (told pid)⟩
    have hlength := congrArg List.length h
    simp at hlength
  kept := fun _ => rfl
  refused := refused

lemma of_nil : FailureLeaves s [] s e :=
  of_unchanged (by simp) (by simp [StartUntold]) fun _ => rfl

/-- The failure of a line that could only start processes and wait for them. -/
lemma of_processCalls (calls : ∀ x ∈ t, ShellCall.isProcessCall x.request = true)
    (refused : e.isRefusal = false) : FailureLeaves s (⟨.flush .output, .ok ()⟩ :: t) s e := by
  refine of_unchanged ?_ ?_ fun h => absurd h (by simp [refused])
  · exact List.forall_mem_cons.2 ⟨rfl, fun x hx => warned?_of_isProcessCall (calls x hx)⟩
  · rintro pid ⟨child, cause, -, -, hwrite⟩
    rcases List.mem_cons.1 hwrite with hflush | hcall
    · cases hflush
    · exact absurd (calls _ hcall) Bool.false_ne_true

lemma of_builtinPlanRun {builtin : Builtin} {plan : Plan}
    (run : (s.runBuiltin builtin plan).Runs t (s', .error e)) : FailureLeaves s t s' e := by
  obtain ⟨hcalls, -⟩ := (s.runBuiltin_actsAsBuiltin builtin plan).of_runs run
  obtain ⟨rfl, -, refused⟩ := (BuiltinPlanRun.of_runs run).fails
  refine of_unchanged ?_ ?_ refused
  · rintro ⟨request, answer⟩ hx
    cases request with
    | warn _ => exact absurd (hcalls _ hx) Bool.false_ne_true
    | _ => rfl
  · rintro pid ⟨child, cause, hfork, -⟩
    obtain ⟨⟨request, answer⟩, hx, hmade⟩ := List.mem_filterMap.1 hfork
    cases request with
    | fork _ => exact absurd (hcalls _ hx) Bool.false_ne_true
    | _ => cases hmade

/-- The failure of a background job that runs although its start could not be told. -/
lemma of_untold {child : Child} {pid : Pid} {cause : IoError} (apart : child.RunsApart) :
    FailureLeaves s (backgroundStart child pid (.error cause))
      { s with jobs := s.jobs ++ [pid] } (.output cause) := by
  -- the only write about a start is that about the child just made
  have untold (p : Pid) : StartUntold (backgroundStart child pid (.error cause)) p ↔ p = pid := by
    unfold StartUntold
    rw [forks_backgroundStart]
    constructor
    · rintro ⟨other, _, hother, -⟩
      cases List.mem_singleton.1 hother
      rfl
    · rintro rfl
      exact ⟨child, cause, List.mem_singleton_self _, apart, by simp [backgroundStart]⟩
  refine ⟨?_, fun notOutput => absurd rfl (notOutput cause), rfl, fun p => ?_, fun told => ?_,
    fun refused => absurd refused Bool.false_ne_true⟩
  · refine diagnostics_eq_nil (List.forall_mem_cons.2 ⟨rfl, List.forall_mem_append.2 ⟨?_, ?_⟩⟩)
    · intro x hx
      have making := Traffic.isProcessCall_of_isMaking (isMaking_of_mem_started hx)
      exact warned?_of_isProcessCall making
    · exact List.forall_mem_singleton.2 rfl
  · rw [untold, List.append_cancel_left_eq, List.singleton_inj]
    exact eq_comm
  · exact absurd ((untold pid).2 rfl) (told pid)

/-- The line that tells of a start is not the one that ends what an interrupt broke off. -/
lemma startLine_ne_newline (pid : Pid) : startLine pid ≠ "\n" := by
  intro h
  have hread := Notice.ofText?_startLine pid
  rw [h, Notice.ofText?_newline] at hread
  cases hread

/-- The failure of a plan of programs. -/
theorem of_jobRun {plan : Plan} (h : JobRun s plan t s' (.error e))
    (alone : plan.background = true → plan.right = none) : FailureLeaves s t s' e := by
  cases h with
  | unflushed =>
    refine of_unchanged (List.forall_mem_singleton.2 rfl) ?_ fun h => absurd h Bool.false_ne_true
    rintro pid ⟨child, cause, -, -, hwrite⟩
    cases List.mem_singleton.1 hwrite
  | notLaunched launched => exact of_processCalls launched.isProcessCall rfl
  | backgroundUntold launched goes =>
    obtain ⟨child, pid, apart, rfl, rfl⟩ := launched.eq_started goes alone
    exact of_untold apart
  | unwaited launched _ waits =>
    refine of_processCalls (List.forall_mem_append.2 ⟨launched.isProcessCall, ?_⟩) rfl
    exact Job.isProcessCall_of_waitAll waits
  | @interruptedUnended t waiting _ pending cause launched _ waits =>
    have calls : ∀ x ∈ t ++ waiting, ShellCall.isProcessCall x.request = true :=
      List.forall_mem_append.2 ⟨launched.isProcessCall, Job.isProcessCall_of_waitAll waits⟩
    rw [← List.append_assoc]
    refine of_unchanged ?_ ?_ fun h => absurd h Bool.false_ne_true
    · refine List.forall_mem_cons.2 ⟨rfl, List.forall_mem_append.2 ⟨?_, ?_⟩⟩
      · exact fun x hx => warned?_of_isProcessCall (calls x hx)
      · exact List.forall_mem_cons.2 ⟨rfl, List.forall_mem_singleton.2 rfl⟩
    · -- the write that failed is another one
      rintro pid ⟨child, cause, -, -, hwrite⟩
      rcases List.mem_cons.1 hwrite with hflush | hwrite
      · cases hflush
      rcases List.mem_append.1 hwrite with hcall | hwrite
      · exact absurd (calls _ hcall) Bool.false_ne_true
      rcases List.mem_cons.1 hwrite with hpending | hwrite
      · cases hpending
      · have hrequest := congrArg Exchange.request (List.mem_singleton.1 hwrite)
        exact startLine_ne_newline pid (ShellCall.write.inj hrequest).2

/-- No line leaves anything else behind when it fails. -/
theorem of_lineRun {line : String} (h : LineRun s line t s' (.error e)) :
    FailureLeaves s t s' e := by
  cases h with
  | refused _ | misplaced _ _ _ => exact of_nil
  | builtin _ _ run => exact of_builtinPlanRun run
  | job planned _ _ run =>
    exact of_jobRun run fun background => (planLine_eq_ok_iff.1 planned).right_eq_none background

end FailureLeaves

/-- The line that tells of a failure. -/
def CommandError.diagnostic (e : CommandError) : String :=
  "orbit: " ++ e.message ++ "\n"

/-- A failed line, and what becomes of it when it is executed. -/
structure FailureContained (s : State) (line : String) (t : List Traffic) (s' : State)
    (e : CommandError) : Prop extends FailureLeaves s t s' e where
  /-- The failure is told next, and then the shell goes on with the state that it left. -/
  told : ∀ u r, (s.execute line).Runs (t ++ u) r ↔
    u = [⟨.warn e.diagnostic, ()⟩] ∧ r = (s', .continue)
  /-- So there is exactly one diagnostic. -/
  once : ∀ u r, (s.execute line).Runs (t ++ u) r → diagnostics (t ++ u) = [e.diagnostic]

/-- Executing a line that fails is running it, then telling of the failure, and nothing more. -/
lemma runs_execute_of_error {s s' : State} {line : String} {t u : List Traffic}
    {e : CommandError} {r : State × Flow} (h : (s.run line).Runs t (s', .error e)) :
    (s.execute line).Runs (t ++ u) r ↔ u = [⟨.warn e.diagnostic, ()⟩] ∧ r = (s', .continue) := by
  unfold State.execute
  rw [Dialogue.bind_eq, h.runs_bind_append_iff]
  refine Shell.runs_call_bind_iff.trans ⟨?_, ?_⟩
  · rintro ⟨_, rest, rfl, hdone⟩
    obtain ⟨rfl, rfl⟩ := Dialogue.runs_done_iff.1 hdone
    exact ⟨rfl, rfl⟩
  · rintro ⟨rfl, rfl⟩
    exact ⟨(), [], rfl, .done _⟩

/-- **Failed lines leave the state as it was.** Whatever goes wrong in a line is told once on the
standard error, and the shell goes on. Unless it was the output of the shell that failed, the state
is the one from before the line; and if it was, the table has at most one process more, namely the
background child that was started but could not be told of. A line that is refused has asked the
system for nothing. -/
theorem run_fails {s s' : State} {line : String} {t : List Traffic} {e : CommandError}
    (h : (s.run line).Runs t (s', .error e)) : FailureContained s line t s' e := by
  have leaves := FailureLeaves.of_lineRun (LineRun.of_runs h)
  refine ⟨leaves, fun u r => runs_execute_of_error h, fun u r run => ?_⟩
  obtain ⟨rfl, -⟩ := (runs_execute_of_error h).1 run
  rw [diagnostics_append, leaves.silent]
  rfl

/-- The exchanges of `sleep 9 &` when the process is made, but the line that tells of it finds no
room. -/
def untoldNap : List Traffic :=
  backgroundStart ⟨{ program := "sleep", arguments := ["9"] }, "/", { ownGroup := true }⟩ 21
    (.error (.os .ENOSPC))

theorem run_fails_untoldNap :
    (({ State.start {} "/" false with jobs := [20] }).run "sleep 9 &").Runs untoldNap
        ({ State.start {} "/" false with jobs := [20, 21] }, .error (.output (.os .ENOSPC))) ∧
      FailureContained { State.start {} "/" false with jobs := [20] } "sleep 9 &" untoldNap
        { State.start {} "/" false with jobs := [20, 21] } (.output (.os .ENOSPC)) := by
  have planned : planLine "sleep 9 &" 64 = .ok (some
      { left := { program := "sleep", arguments := ["9"] }, background := true }) := by cbv
  have run : (({ State.start {} "/" false with jobs := [20] }).run "sleep 9 &").Runs untoldNap
      ({ State.start {} "/" false with jobs := [20, 21] }, .error (.output (.os .ENOSPC))) := by
    rw [run_eq_runPlan (planLine_eq_ok_iff.1 planned)]
    exact Dialogue.runs_of_replay? rfl
  exact ⟨run, run_fails run⟩

end CommandShell
