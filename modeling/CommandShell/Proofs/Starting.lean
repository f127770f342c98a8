import CommandShell.Proofs.Balance
import CommandShell.Proofs.Line
import CommandShell.Proofs.Stages
import Mathlib

/-!
# When a line starts processes

A line asks for a pipe or for a child only if a number of conditions hold, which different parts of
the shell look at one after the other: the cap on the tokens, the grammar of the line, the names
of the built-in commands on either side, what was written before being out, and the strings that
the system cannot take. `Startable` collects those that depend on the line and the state alone.

`execute_attempts` says that the conditions are necessary and sufficient, at every stage of every
run: before a line is over, or while it waits for a child that never ends, what has been asked for
is a beginning of one of the sequences in `Plan.Attempts`. It also says how the lines go that fail
one of the conditions on built-in commands.
-/

namespace CommandShell

/-! ## Attempts -/

/-- The exchange asks for a pipe or a child, whatever the answer. -/
def Traffic.isAttempt : Traffic → Bool
  | ⟨.makePipe, _⟩ => true
  | ⟨.fork _, _⟩ => true
  | _ => false

/-- The exchanges that ask for a pipe or a child, in order. -/
def attempts (t : List Traffic) : List Traffic := t.filter Traffic.isAttempt

@[simp] lemma attempts_append (t u : List Traffic) :
    attempts (t ++ u) = attempts t ++ attempts u :=
  List.filter_append ..

lemma attempts_eq_nil_iff {t : List Traffic} :
    attempts t = [] ↔ ∀ x ∈ t, x.isAttempt = false := by
  simp [attempts, List.filter_eq_nil_iff]

/-- `plan.Attempts workingDir asked`: what starting a plan asks for. No more is asked for once a
call has failed. -/
inductive Plan.Attempts (plan : Plan) (workingDir : String) : List Traffic → Prop
  | single (single : plan.right = none) (answer : Except Errno Pid) :
      plan.Attempts workingDir [⟨.fork (plan.onlyChild workingDir), answer⟩]
  | noPipe {right : Segment} (piped : plan.right = some right) (errno : Errno) :
      plan.Attempts workingDir [⟨.makePipe, .error errno⟩]
  | noRight {right : Segment} (piped : plan.right = some right) (read write : Fd) (errno : Errno) :
      plan.Attempts workingDir
        [⟨.makePipe, .ok (read, write)⟩,
          ⟨.fork (plan.readingChild right workingDir read write), .error errno⟩]
  | both {right : Segment} (piped : plan.right = some right) (read write : Fd) (rightPid : Pid)
      (answer : Except Errno Pid) :
      plan.Attempts workingDir
        [⟨.makePipe, .ok (read, write)⟩,
          ⟨.fork (plan.readingChild right workingDir read write), .ok rightPid⟩,
          ⟨.fork (plan.writingChild workingDir read write), answer⟩]

lemma Plan.Attempts.ne_nil {plan : Plan} {workingDir : String} {asked : List Traffic}
    (h : plan.Attempts workingDir asked) : asked ≠ [] := by
  cases h <;> exact List.cons_ne_nil _ _

lemma attempts_started (child : Child) (pid : Pid) :
    attempts (started child pid) = [⟨.fork child, .ok pid⟩] := by
  unfold started
  split <;> rfl

/-- Whatever is asked for is asked for before anything is waited for. -/
def AttemptsFirst (t : List Traffic) : Prop :=
  ∃ making after, t = making ++ after ∧ (∀ x ∈ making, x.isWait = false) ∧ attempts after = []

namespace AttemptsFirst

variable {x : Traffic} {t u : List Traffic}

lemma of_noWait (h : ∀ x ∈ t, x.isWait = false) : AttemptsFirst t :=
  ⟨t, [], (List.append_nil t).symm, h, rfl⟩

lemma cons (hx : x.isWait = false) (h : AttemptsFirst t) : AttemptsFirst (x :: t) := by
  obtain ⟨making, after, rfl, hmaking, hafter⟩ := h
  exact ⟨x :: making, after, rfl, List.forall_mem_cons.2 ⟨hx, hmaking⟩, hafter⟩

lemma append (h : AttemptsFirst t) (hu : attempts u = []) : AttemptsFirst (t ++ u) := by
  obtain ⟨making, after, rfl, hmaking, hafter⟩ := h
  exact ⟨making, after ++ u, List.append_assoc _ _ _, hmaking, by simp [hafter, hu]⟩

/-- With a wait and after it nothing is asked for any more. -/
lemma attempts_eq_nil (h : AttemptsFirst (t ++ x :: u)) (hx : x.isWait = true) :
    attempts (x :: u) = [] := by
  obtain ⟨making, after, heq, hmaking, hafter⟩ := h
  rcases List.append_eq_append_iff.1 heq with ⟨between, rfl, hxu⟩ | ⟨between, rfl, rfl⟩
  · cases between with
    | nil => rwa [hxu]
    | cons y between =>
      obtain ⟨rfl, -⟩ := List.cons_eq_cons.1 hxu
      have hx' := hmaking x (by simp)
      rw [hx] at hx'
      exact absurd hx' (by decide)
  · rw [attempts_append] at hafter
    exact (List.append_eq_nil_iff.1 hafter).2

end AttemptsFirst

/-! ## Launches -/

lemma attempts_of_isWait {t : List Traffic} (h : ∀ x ∈ t, x.isWait = true) :
    attempts t = [] := by
  refine attempts_eq_nil_iff.2 fun x hx => ?_
  obtain ⟨request, answer⟩ := x
  cases request with
  | wait pid block => rfl
  | _ => exact absurd (h _ hx) Bool.false_ne_true

lemma Job.attempts_waitAll {pids : List Pid} {before result : Except WaitError JobStatus}
    {t : List Traffic} (h : (waitAll before pids).Runs t result) : attempts t = [] := by
  induction pids generalizing before t with
  | nil =>
    obtain ⟨rfl, -⟩ := Dialogue.runs_done_iff.1 h
    rfl
  | cons pid pids ih =>
    obtain ⟨t₁, t₂, first, rfl, hfirst, hrest⟩ := Job.runs_waitAll_cons_iff.1 h
    rw [attempts_append, attempts_of_isWait (Job.views_waitFor hfirst).1, ih hrest]
    rfl

section ThroughPipe

variable {read write : Fd} {making waiting : List Traffic} {first second : Except Errno Unit}

lemma attempts_throughPipe (hw : ∀ x ∈ waiting, x.isWait = true) :
    attempts (throughPipe read write making first second waiting) =
      ⟨.makePipe, .ok (read, write)⟩ :: attempts making := by
  have hclosing : attempts (closing read write first second) = [] := rfl
  calc attempts (throughPipe read write making first second waiting)
      = ⟨.makePipe, .ok (read, write)⟩ ::
          attempts (making ++ (closing read write first second ++ waiting)) := rfl
    _ = ⟨.makePipe, .ok (read, write)⟩ :: attempts making := by
        rw [attempts_append, attempts_append, hclosing, attempts_of_isWait hw]
        simp

lemma attemptsFirst_throughPipe (hm : ∀ x ∈ making, x.isWait = false)
    (hw : ∀ x ∈ waiting, x.isWait = true) :
    AttemptsFirst (throughPipe read write making first second waiting) := by
  refine ⟨⟨.makePipe, .ok (read, write)⟩ :: (making ++ closing read write first second), waiting,
    by simp [throughPipe], ?_, attempts_of_isWait hw⟩
  refine List.forall_mem_cons.2 ⟨rfl, List.forall_mem_append.2 ⟨hm, ?_⟩⟩
  simp [closing, Traffic.isWait]

end ThroughPipe

lemma isWait_of_mem_started {child : Child} {pid : Pid} {x : Traffic}
    (h : x ∈ started child pid) : x.isWait = false :=
  (Traffic.views_of_isMaking (isMaking_of_mem_started h)).2.2.1

namespace LaunchRun

variable {plan : Plan} {workingDir : String} {t : List Traffic} {result : Except LaunchError Job}

lemma attemptsFirst (h : LaunchRun plan workingDir t result) : AttemptsFirst t := by
  cases h with
  | refused nul => exact .of_noWait (by simp)
  | onlyFailed nul single => exact .of_noWait (by simp [Traffic.isWait])
  | only nul single => exact .of_noWait fun x hx => isWait_of_mem_started hx
  | pipeFailed nul piped => exact .of_noWait (by simp [Traffic.isWait])
  | rightFailed nul piped => exact attemptsFirst_throughPipe (by simp [Traffic.isWait]) (by simp)
  | leftFailed nul piped waits =>
    refine attemptsFirst_throughPipe ?_ (Job.views_waitFor waits).1
    refine List.forall_mem_append.2 ⟨fun x hx => isWait_of_mem_started hx, ?_⟩
    simp [Traffic.isWait]
  | pipeline nul piped =>
    refine attemptsFirst_throughPipe ?_ (by simp)
    exact List.forall_mem_append.2
      ⟨fun x hx => isWait_of_mem_started hx, fun x hx => isWait_of_mem_started hx⟩

lemma attempts_of_nul (h : LaunchRun plan workingDir t result)
    (nul : plan.nul? workingDir ≠ none) : attempts t = [] := by
  cases h with
  | refused _ => rfl
  | onlyFailed clean | only clean | pipeFailed clean | rightFailed clean | leftFailed clean
  | pipeline clean => exact absurd clean nul

/-- A launch asks for what its plan needs, up to the first call that fails. -/
lemma attempts_of_clean (h : LaunchRun plan workingDir t result)
    (clean : plan.nul? workingDir = none) : plan.Attempts workingDir (attempts t) := by
  cases h with
  | refused nul => simp [clean] at nul
  | onlyFailed _ single => exact .single single _
  | only _ single =>
    rw [attempts_started]
    exact .single single _
  | pipeFailed _ piped => exact .noPipe piped _
  | rightFailed _ piped =>
    rw [attempts_throughPipe (by simp)]
    exact .noRight piped _ _ _
  | leftFailed _ piped waits =>
    rw [attempts_throughPipe (Job.views_waitFor waits).1, attempts_append, attempts_started]
    exact .both piped _ _ _ _
  | pipeline _ piped =>
    rw [attempts_throughPipe (by simp), attempts_append, attempts_started, attempts_started]
    exact .both piped _ _ _ _

end LaunchRun

/-! ## Lines -/

/-- What was written before has been handed on, first of all. -/
def Flushed (t : List Traffic) : Prop :=
  t.head? = some ⟨.flush .output, .ok ()⟩

/-- What a plan that is run in a directory has asked for in the exchanges `t`. -/
structure PlanAttempts (plan : Plan) (workingDir : String) (t : List Traffic) : Prop where
  first : AttemptsFirst t
  flushed : attempts t ≠ [] → Flushed t
  clean : attempts t ≠ [] → plan.nul? workingDir = none
  all : Flushed t → plan.nul? workingDir = none → plan.Attempts workingDir (attempts t)

/-- A plan that is launched asks for nothing outside its launch. -/
lemma LaunchRun.planAttempts {plan : Plan} {workingDir : String} {t u : List Traffic}
    {result : Except LaunchError Job} (launched : LaunchRun plan workingDir t result)
    (idle : attempts u = []) :
    PlanAttempts plan workingDir (⟨.flush .output, .ok ()⟩ :: (t ++ u)) := by
  have hattempts : attempts (⟨.flush .output, .ok ()⟩ :: (t ++ u)) = attempts t := by
    calc attempts (⟨.flush .output, .ok ()⟩ :: (t ++ u))
        = attempts (t ++ u) := rfl
      _ = attempts t := by rw [attempts_append, idle, List.append_nil]
  refine ⟨.cons rfl (launched.attemptsFirst.append idle), fun _ => rfl, ?_, ?_⟩
  · rw [hattempts]
    exact fun asked => Classical.byContradiction fun nul => asked (launched.attempts_of_nul nul)
  · rw [hattempts]
    exact fun _ clean => launched.attempts_of_clean clean

lemma JobRun.planAttempts {s s' : State} {plan : Plan} {t : List Traffic}
    {result : Except CommandError Flow} (h : JobRun s plan t s' result) :
    PlanAttempts plan s.workingDir t := by
  -- waiting starts nothing, and neither does what is told behind it
  have idle {job : Job} {waiting told : List Traffic} {ending : Except WaitError JobStatus}
      (waits : job.wait.Runs waiting ending) (htold : attempts told = []) :
      attempts (waiting ++ told) = [] := by
    rw [attempts_append, Job.attempts_waitAll waits, htold]
    rfl
  cases h with
  | unflushed =>
    exact ⟨.of_noWait (by simp [Traffic.isWait]), by simp [attempts, Traffic.isAttempt],
      by simp [attempts, Traffic.isAttempt], fun flushed => by cases flushed⟩
  | @notLaunched t _ launched =>
    have h := launched.planAttempts (u := []) rfl
    rwa [List.append_nil] at h
  | background launched _ => exact launched.planAttempts rfl
  | backgroundUntold launched _ => exact launched.planAttempts rfl
  | unwaited launched _ waits => exact launched.planAttempts (Job.attempts_waitAll waits)
  | exited launched _ waits => exact launched.planAttempts (idle waits rfl)
  | interrupted launched _ waits => exact launched.planAttempts (idle waits rfl)
  | interruptedUnended launched _ waits => exact launched.planAttempts (idle waits rfl)
  | killed launched _ waits _ => exact launched.planAttempts (idle waits rfl)

/-- The names of the built-in commands. -/
def builtinNames : List String := ["cd", "exit", "help"]

namespace Builtin

lemma ofName?_eq_some_iff {name : String} {builtin : Builtin} :
    ofName? name = some builtin ↔ name = builtin.name := by
  constructor
  · intro h
    unfold ofName? at h
    have hname := List.find?_some h
    exact (eq_of_beq hname).symm
  · rintro rfl
    cases builtin <;> decide

lemma ofName?_eq_none_iff {name : String} : ofName? name = none ↔ name ∉ builtinNames := by
  constructor
  · intro h hmem
    simp only [builtinNames, List.mem_cons, List.not_mem_nil, or_false] at hmem
    rcases hmem with rfl | rfl | rfl <;> exact absurd h (by decide)
  · intro h
    cases hname : ofName? name with
    | none => rfl
    | some builtin =>
      rw [ofName?_eq_some_iff.1 hname] at h
      cases builtin <;> exact absurd (by decide) h

end Builtin

/-- The line is a plan: it has no more tokens than fit, and they can be interpreted. -/
def HasPlan (s : State) (line : String) (plan : Plan) : Prop :=
  ∃ tokens, tokenize line s.config.maxArgs = .ok tokens ∧ Plan.scan? tokens = .ok (some plan)

lemma planLine_eq_ok_iff {s : State} {line : String} {plan : Plan} :
    planLine line s.config.maxArgs = .ok (some plan) ↔ HasPlan s line plan := by
  unfold planLine HasPlan
  cases htokens : tokenize line s.config.maxArgs with
  | error e => simp [bind, Except.bind, Except.mapError]
  | ok tokens =>
    cases hplan : Plan.scan? tokens <;> simp [bind, Except.bind, Except.mapError, hplan]

/-- The line asks for programs that can be started: it is a plan, no program of it is a built-in
command, and the system can take all its strings. -/
structure Startable (s : State) (line : String) (plan : Plan) : Prop where
  planned : HasPlan s line plan
  left : plan.left.program ∉ builtinNames
  right : ∀ right, plan.right = some right → right.program ∉ builtinNames
  clean : ∀ str ∈ plan.strings s.workingDir, '\x00' ∉ str.toList

/-- What a built-in command asks for is no pipe, no child and no wait. -/
theorem Traffic.idle_of_isBuiltinCall {x : Traffic} (h : ShellCall.isBuiltinCall x.request = true) :
    x.isWait = false ∧ x.isAttempt = false := by
  obtain ⟨request, answer⟩ := x
  cases request with
  | write _ _ | flush _ | isDirectory _ | canonical _ | openOutput _ _ | close _ => exact ⟨rfl, rfl⟩
  | _ => exact absurd h Bool.false_ne_true

section LineAttempts

variable {s s' : State} {line : String} {t : List Traffic}

lemma HasPlan.eq {plan plan' : Plan} (h : HasPlan s line plan) (h' : HasPlan s line plan') :
    plan = plan' := by
  have hplan := planLine_eq_ok_iff.2 h
  rw [planLine_eq_ok_iff.2 h'] at hplan
  simpa using hplan.symm

lemma rightBuiltin?_eq_none_iff {plan : Plan} :
    (plan.right.bind fun right => Builtin.ofName? right.program) = none ↔
      ∀ right, plan.right = some right → right.program ∉ builtinNames := by
  simp [Option.bind_eq_none_iff, Builtin.ofName?_eq_none_iff]

/-- What a line has asked for in the exchanges `t`. -/
structure LineAttempts (s : State) (line : String) (t : List Traffic) : Prop where
  first : AttemptsFirst t
  needed : attempts t ≠ [] → Flushed t ∧ ∃ plan, Startable s line plan
  all : ∀ plan, Startable s line plan → Flushed t → plan.Attempts s.workingDir (attempts t)

namespace LineAttempts

lemma of_idle (wait : ∀ x ∈ t, x.isWait = false) (idle : attempts t = [])
    (not_startable : ∀ plan, ¬ Startable s line plan) : LineAttempts s line t :=
  ⟨.of_noWait wait, fun asked => absurd idle asked,
    fun plan startable => absurd startable (not_startable plan)⟩

lemma of_planAttempts {plan : Plan} (planned : HasPlan s line plan)
    (left : plan.left.program ∉ builtinNames)
    (right : ∀ right, plan.right = some right → right.program ∉ builtinNames)
    (h : PlanAttempts plan s.workingDir t) : LineAttempts s line t := by
  refine ⟨h.first, fun asked => ⟨h.flushed asked, plan, planned, left, right, ?_⟩, ?_⟩
  · exact Plan.nul?_eq_none_iff.1 (h.clean asked)
  · intro plan' startable flushed
    obtain rfl := planned.eq startable.planned
    exact h.all flushed (Plan.nul?_eq_none_iff.2 startable.clean)

/-- No line does anything else. -/
theorem of_lineRun {result : Except CommandError Flow} (h : LineRun s line t s' result) :
    LineAttempts s line t := by
  cases h with
  | refused planned =>
    refine of_idle (by simp) rfl fun plan startable => ?_
    simp [planLine_eq_ok_iff.2 startable.planned] at planned
  | blank planned =>
    refine of_idle (by simp) rfl fun plan startable => ?_
    simp [planLine_eq_ok_iff.2 startable.planned] at planned
  | @builtin plan builtin _ _ _ planned left run =>
    obtain ⟨hcalls, -⟩ := (s.runBuiltin_actsAsBuiltin builtin plan).of_runs run
    have idle := fun x hx => Traffic.idle_of_isBuiltinCall (hcalls x hx)
    -- a built-in makes neither a pipe nor a child
    refine of_idle (fun x hx => (idle x hx).1) (attempts_eq_nil_iff.2 fun x hx => (idle x hx).2) ?_
    intro plan' startable
    obtain rfl := (planLine_eq_ok_iff.1 planned).eq startable.planned
    simp [Builtin.ofName?_eq_none_iff.2 startable.left] at left
  | @misplaced plan builtin planned left right =>
    refine of_idle (by simp) rfl fun plan' startable => ?_
    obtain rfl := (planLine_eq_ok_iff.1 planned).eq startable.planned
    simp [rightBuiltin?_eq_none_iff.2 startable.right] at right
  | job planned left right run =>
    exact of_planAttempts (planLine_eq_ok_iff.1 planned) (Builtin.ofName?_eq_none_iff.1 left)
      (rightBuiltin?_eq_none_iff.1 right) run.planAttempts

lemma concat_warn {text : String} (h : LineAttempts s line t) :
    LineAttempts s line (t ++ [⟨.warn text, ()⟩]) := by
  have hattempts : attempts (t ++ [⟨.warn text, ()⟩]) = attempts t := by
    rw [attempts_append]
    exact List.append_nil _
  have hflushed : Flushed (t ++ [⟨.warn text, ()⟩]) ↔ Flushed t := by
    cases t with
    | nil =>
      constructor
      · intro flushed
        cases flushed
      · intro flushed
        cases flushed
    | cons x t => exact Iff.rfl
  refine ⟨h.first.append rfl, ?_, ?_⟩
  · rw [hattempts, hflushed]
    exact h.needed
  · rw [hattempts, hflushed]
    exact h.all

lemma of_runs_execute {flow : Flow} (h : (s.execute line).Runs t (s', flow)) :
    LineAttempts s line t := by
  rcases LineRun.of_runs_execute h with went | ⟨t, e, failed, -, rfl⟩
  · exact of_lineRun went
  · exact (of_lineRun failed).concat_warn

end LineAttempts

end LineAttempts

/-! ## Lines with built-in commands -/

/-- What goes wrong in a line is told, and the shell goes on. -/
def State.complain (s : State) (e : CommandError) : Shell (State × Flow) := do
  Shell.call (.warn ("orbit: " ++ e.message ++ "\n"))
  return (s, .continue)

section Builtins

variable {s : State} {line : String} {plan : Plan}

lemma run_eq_runPlan (h : HasPlan s line plan) : s.run line = s.runPlan plan := by
  unfold State.run
  rw [planLine_eq_ok_iff.2 h]

/-- `exit` on the left ends the shell at once, whatever else the line asks for. -/
theorem execute_exit (h : HasPlan s line plan) (left : plan.left.program = "exit") :
    s.execute line = .done (s, .terminate) := by
  have hleft : Builtin.ofName? plan.left.program = some .exit := Builtin.ofName?_eq_some_iff.2 left
  rw [State.execute, run_eq_runPlan h, State.runPlan, hleft]
  rfl

/-- No other built-in command can stand on the left of a pipe or go to the background. -/
lemma execute_left_unsupported {builtin : Builtin} (h : HasPlan s line plan)
    (notExit : builtin ≠ .exit) (left : plan.left.program = builtin.name)
    (spoilt : plan.right.isSome ∨ plan.background = true) :
    s.execute line = s.complain (.builtin (.unsupported builtin)) := by
  have hleft := Builtin.ofName?_eq_some_iff.2 left
  have hspoilt : (plan.isPipeline || plan.background) = true := by
    rw [Bool.or_eq_true]
    exact spoilt
  rw [State.execute, run_eq_runPlan h, State.runPlan, hleft]
  simp only [State.runBuiltin, if_neg notExit, if_pos hspoilt]
  rfl

/-- No built-in command can stand on the right of a pipe. -/
lemma execute_right_unsupported {builtin : Builtin} {right : Segment} (h : HasPlan s line plan)
    (left : plan.left.program ∉ builtinNames) (piped : plan.right = some right)
    (hright : right.program = builtin.name) :
    s.execute line = s.complain (.builtin (.unsupported builtin)) := by
  have hright := Builtin.ofName?_eq_some_iff.2 hright
  rw [State.execute, run_eq_runPlan h, State.runPlan, Builtin.ofName?_eq_none_iff.2 left]
  simp only [piped, Option.bind_some, hright]
  rfl

end Builtins

/-! ## Stages of a line -/

/-- The part is over, or it waits for a child. -/
def Shell.AtRest {α : Type} : Shell α → Prop
  | .done _ => True
  | .ask request _ _ => ∃ pid, request = .wait pid true

/-- A part that is over asks for nothing more, and one that waits goes on with the wait. -/
theorem Shell.AtRest.of_runs {α : Type} {rest : Shell α} {u : List Traffic} {a : α}
    (h : rest.AtRest) (run : rest.Runs u a) : u = [] ∨ ∃ x u', u = x :: u' ∧ x.isWait = true := by
  cases run with
  | done a => exact .inl rfl
  | again answer _ _ | next answer _ _ =>
    obtain ⟨pid, rfl⟩ := h
    exact .inr ⟨_, _, rfl, rfl⟩

lemma Flushed.append {t : List Traffic} (h : Flushed t) (u : List Traffic) :
    Flushed (t ++ u) := by
  cases t with
  | nil => cases h
  | cons x t => exact h

lemma Flushed.of_append {t u : List Traffic} (h : Flushed (t ++ u)) (ht : t ≠ []) :
    Flushed t := by
  cases t with
  | nil => exact absurd rfl ht
  | cons x t => exact h

/-- What a line has asked for in the exchanges `t`, at the stage at which `rest` is left to do. -/
structure AttemptsDecided (s : State) (line : String) (t : List Traffic)
    (rest : Shell (State × Flow)) : Prop where
  /-- Pipes and children are asked for only if the line can be started, and only after what was
  written before has been handed on. -/
  only_startable : attempts t ≠ [] → Flushed t ∧ ∃ plan, Startable s line plan
  /-- They are asked for in every such case. -/
  iff_startable : rest.AtRest → (attempts t ≠ [] ↔ Flushed t ∧ ∃ plan, Startable s line plan)
  /-- What has been asked for is a beginning of what the plan needs, and all of it when the line is
  over or waits for a child. -/
  sequence : ∀ plan, Startable s line plan → Flushed t → ∃ later,
    plan.Attempts s.workingDir (attempts t ++ later) ∧ (rest.AtRest → later = [])
  /-- `exit` on the left ends the shell, whatever else the line asks for. -/
  exit : ∀ plan, HasPlan s line plan → plan.left.program = "exit" →
    s.execute line = .done (s, .terminate)
  /-- The other built-in commands can neither be piped nor go to the background. -/
  left_unsupported : ∀ (plan : Plan) (builtin : Builtin), HasPlan s line plan →
    builtin ≠ .exit → plan.left.program = builtin.name →
      (plan.right.isSome ∨ plan.background = true) →
        s.execute line = s.complain (.builtin (.unsupported builtin))
  /-- No built-in command, `exit` included, can be piped into. -/
  right_unsupported : ∀ (plan : Plan) (builtin : Builtin) (right : Segment),
    HasPlan s line plan → plan.left.program ∉ builtinNames → plan.right = some right →
      right.program = builtin.name →
        s.execute line = s.complain (.builtin (.unsupported builtin))

/-- Pipes and children are asked for if a line can be started and what was written before has been
handed on, and in no other case. -/
theorem execute_attempts {s : State} {line : String} {t : List Traffic}
    {rest : Shell (State × Flow)} (h : (s.execute line).Reaches t rest) :
    AttemptsDecided s line t rest := by
  -- any stage can be completed, and what is true of finished runs is carried back to it
  have patient : rest.RepeatsWaits := (s.execute_repeatsWaits line).of_reaches h
  obtain ⟨u, ⟨s', flow⟩, run⟩ := Shell.RepeatsWaits.exists_runs patient
  have done : LineAttempts s line (t ++ u) := .of_runs_execute (h.runs_append run)
  have nothing_later : rest.AtRest → attempts u = [] := by
    intro atRest
    rcases atRest.of_runs run with rfl | ⟨x, u, rfl, hx⟩
    · rfl
    · exact done.first.attempts_eq_nil hx
  have needed : attempts t ≠ [] → Flushed t ∧ ∃ plan, Startable s line plan := by
    intro asked
    obtain ⟨flushed, startable⟩ := done.needed (by simp [asked])
    refine ⟨flushed.of_append ?_, startable⟩
    rintro rfl
    exact asked rfl
  have all : ∀ plan, Startable s line plan → Flushed t →
      plan.Attempts s.workingDir (attempts t ++ attempts u) := by
    intro plan startable flushed
    rw [← attempts_append]
    exact done.all plan startable (flushed.append u)
  refine ⟨needed, fun atRest => ⟨needed, ?_⟩, ?_, fun plan => execute_exit,
    fun plan builtin => execute_left_unsupported,
    fun plan builtin right => execute_right_unsupported⟩
  · rintro ⟨flushed, plan, startable⟩
    have asked := (all plan startable flushed).ne_nil
    rwa [nothing_later atRest, List.append_nil] at asked
  · intro plan startable flushed
    exact ⟨attempts u, all plan startable flushed, nothing_later⟩

/-- `tac < in | wc > out` -/
def reversedCount : Plan where
  left := { program := "tac", input := some "in" }
  right := some { program := "wc", output := some ⟨"out", .truncate⟩ }

/-- The exchanges of a line whose left side cannot be made, up to a wait that has been interrupted
once and may never come to an end. -/
def stuckLine : List Traffic :=
  let right : Segment := { program := "wc", output := some ⟨"out", .truncate⟩ }
  [⟨.flush .output, .ok ()⟩, ⟨.makePipe, .ok (3, 4)⟩,
    ⟨.fork (reversedCount.readingChild right "/" 3 4), .ok 7⟩,
    ⟨.fork (reversedCount.writingChild "/" 3 4), .error .EAGAIN⟩,
    ⟨.close 3, .ok ()⟩, ⟨.close 4, .ok ()⟩, ⟨.wait 7 true, .error .EINTR⟩]

theorem execute_attempts_stuckLine :
    Startable (State.start {} "/" false) "tac < in | wc > out" reversedCount ∧
      ∃ rest : Shell (State × Flow),
        ((State.start {} "/" false).execute "tac < in | wc > out").Reaches stuckLine rest ∧
        rest.AtRest ∧
        AttemptsDecided (State.start {} "/" false) "tac < in | wc > out" stuckLine rest := by
  have planned : HasPlan (State.start {} "/" false) "tac < in | wc > out" reversedCount :=
    planLine_eq_ok_iff.1 (by cbv)
  have startable : Startable (State.start {} "/" false) "tac < in | wc > out" reversedCount :=
    ⟨planned, by decide, by decide, by decide⟩
  have reached : ∃ rest : Shell (State × Flow),
      ((State.start {} "/" false).execute "tac < in | wc > out").Reaches stuckLine rest ∧
        rest.AtRest := by
    rw [State.execute, run_eq_runPlan planned]
    exact ⟨_, .step _ (.step _ (.step _ (.step _ (.step _ (.step _ (.step _ (.refl _))))))),
      ⟨7, rfl⟩⟩
  obtain ⟨rest, reached, atRest⟩ := reached
  exact ⟨startable, rest, reached, atRest, execute_attempts reached⟩

end CommandShell
