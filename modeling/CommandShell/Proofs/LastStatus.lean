import CommandShell.Proofs.Announcements

/-!
# The status of the last foreground job

A shell keeps how its last foreground job ended. `last_status_kept` says how far that goes, over
every history: the status kept is the last one noted, which is the one that the wait for the job
came to; and a job that was waited for with success is passed over in one case only, namely if it
was interrupted and the line that it broke off on the screen could not be ended.
`last_status_unkept` is a history in which that happens.

What became of a foreground job is read off the transcript (`completed?`), and
`completed?_eq_some_iff` says that this is what the program makes of it: a line of programs was
started, it did not go to the background, and the wait for it came to this status.
-/

namespace CommandShell

/-! ## What a transcript tells of a foreground job -/

/-- What an exchange settles about a process that the shell waits for. -/
def Traffic.verdict? : Traffic → Option (Except WaitError JobStatus)
  | ⟨.wait pid true, answer⟩ => Job.verdict? pid answer
  | _ => none

lemma Traffic.verdict?_of_noWait {x : Traffic} (h : x.isWait = false) : x.verdict? = none := by
  obtain ⟨request, answer⟩ := x
  cases request with
  | wait _ _ => exact absurd h (by simp [isWait])
  | _ => rfl

/-- What the waits of a transcript have come to, one by one. -/
def verdicts (t : List Traffic) : List (Except WaitError JobStatus) :=
  t.filterMap Traffic.verdict?

lemma verdicts_append (t u : List Traffic) : verdicts (t ++ u) = verdicts t ++ verdicts u :=
  List.filterMap_append

/-- How the foreground job of a transcript ended: nothing failed when it was started, and all of
its processes were waited for with success. -/
def completed? (t : List Traffic) : Option JobStatus :=
  match firstFailure? t, verdicts t with
  | none, first :: rest => (rest.foldl Job.combine first).toOption
  | _, _ => none

/-- The status that the shell takes note of: that of the foreground job, unless something could not
be written. -/
def noted? (t : List Traffic) : Option JobStatus :=
  if t.any Traffic.isFailedWrite then none else completed? t

lemma completed?_eq_none {t : List Traffic} (unasked : verdicts t = []) :
    completed? t = none := by
  unfold completed?
  rw [unasked]
  cases firstFailure? t <;> rfl

lemma noted?_eq_none {t : List Traffic} (h : completed? t = none) : noted? t = none := by
  rw [noted?, h, ite_self]

/-- The exchange is none of those by which a foreground job is started and waited for, and nothing
has failed to be written in it. -/
structure Traffic.Aside (x : Traffic) : Prop where
  unasked : x.verdict? = none
  unmade : x.launchFailure? = none
  written : x.isFailedWrite = false

/-- Such exchanges at the end of a transcript change nothing about the job. -/
lemma noted?_append {t u : List Traffic} (aside : ∀ x ∈ u, x.Aside) :
    completed? (t ++ u) = completed? t ∧ noted? (t ++ u) = noted? t := by
  have unasked : verdicts u = [] := List.filterMap_eq_nil_iff.2 fun x hx => (aside x hx).unasked
  have unmade : firstFailure? u = none :=
    List.findSome?_eq_none_iff.2 fun x hx => (aside x hx).unmade
  have written : u.any Traffic.isFailedWrite = false :=
    List.any_eq_false.2 fun x hx => by simp [(aside x hx).written]
  have same : completed? (t ++ u) = completed? t := by
    unfold completed?
    rw [firstFailure?_append, verdicts_append, unasked, unmade, Option.or_none, List.append_nil]
  refine ⟨same, ?_⟩
  rw [noted?, same, List.any_append, written, Bool.or_false, noted?]

/-! ## Waiting -/

namespace Job

lemma verdicts_of_waitFor {pid : Pid} {t : List Traffic} {result : Except WaitError JobStatus}
    (h : (waitFor pid).Runs t result) : verdicts t = [result] := by
  obtain ⟨vain, answer, hvain, hverdict, rfl⟩ := runs_waitFor_iff.1 h
  have unsettled : verdicts (vain.map (Exchange.mk (I := ShellCalls) (.wait pid true))) = [] := by
    refine List.filterMap_eq_nil_iff.2 fun x hx => ?_
    obtain ⟨v, hv, rfl⟩ := List.mem_map.1 hx
    exact hvain v hv
  rw [verdicts_append, unsettled, List.nil_append]
  exact List.filterMap_cons_some hverdict

/-- Waiting for some processes is a verdict for each, and comes to what they combine to. -/
lemma verdicts_of_waitAll {pids : List Pid} {t : List Traffic}
    {before result : Except WaitError JobStatus} (h : (waitAll before pids).Runs t result) :
    (verdicts t).length = pids.length ∧ result = (verdicts t).foldl combine before := by
  induction pids generalizing before t with
  | nil =>
    obtain ⟨rfl, rfl⟩ := Dialogue.runs_done_iff.1 h
    exact ⟨rfl, rfl⟩
  | cons pid pids ih =>
    obtain ⟨t₁, t₂, first, rfl, hfirst, hrest⟩ := runs_waitAll_cons_iff.1 h
    obtain ⟨hlength, rfl⟩ := ih hrest
    rw [verdicts_append, verdicts_of_waitFor hfirst]
    exact ⟨by simp [hlength], rfl⟩

lemma firstFailure?_of_waitAll {pids : List Pid} {t : List Traffic}
    {before result : Except WaitError JobStatus} (h : (waitAll before pids).Runs t result) :
    firstFailure? t = none := by
  induction pids generalizing before t with
  | nil =>
    obtain ⟨rfl, -⟩ := Dialogue.runs_done_iff.1 h
    rfl
  | cons pid pids ih =>
    obtain ⟨t₁, t₂, first, rfl, hfirst, hrest⟩ := runs_waitAll_cons_iff.1 h
    have unfailed : firstFailure? t₁ = none := List.findSome?_eq_none_iff.2 fun x hx =>
      (Traffic.views_of_isWait ((views_waitFor hfirst).1 x hx)).2.2.2.1
    rw [firstFailure?_append, unfailed, ih hrest]
    rfl

end Job

/-! ## Launching -/

namespace LaunchRun

variable {plan : Plan} {workingDir : String} {t : List Traffic}

lemma verdicts_started (child : Child) (pid : Pid) : verdicts (started child pid) = [] :=
  List.filterMap_eq_nil_iff.2 fun _ hx => Traffic.verdict?_of_noWait (isWait_of_mem_started hx)

/-- A launch that comes to a job has not failed and has waited for nothing, and the job has
processes. -/
lemma views_of_ok {job : Job} (h : LaunchRun plan workingDir t (.ok job)) :
    firstFailure? t = none ∧ verdicts t = [] ∧ job.pids ≠ [] := by
  cases h with
  | only nul single => exact ⟨firstFailure?_started _ _, verdicts_started _ _, by simp⟩
  | pipeline nul piped =>
    refine ⟨?_, ?_, by simp⟩
    · rw [firstFailure?_throughPipe (by simp), firstFailure?_append, firstFailure?_started,
        firstFailure?_started]
      rfl
    · simp only [throughPipe, closing, verdicts, List.filterMap_cons, List.filterMap_append]
      simp only [← verdicts.eq_def, verdicts_started]
      rfl

/-- A launch that fails comes to no job, also if it has waited. -/
lemma completed?_of_error {e : LaunchError} (h : LaunchRun plan workingDir t (.error e)) :
    completed? t = none := by
  have failed (failure : LaunchError) (h : firstFailure? t = some failure) :
      completed? t = none := by
    unfold completed?
    rw [h]
  cases h with
  | refused nul => rfl
  | onlyFailed nul single | pipeFailed nul piped => rfl
  | rightFailed nul piped => exact failed _ rfl
  | @leftFailed _ _ _ _ errno _ _ _ _ nul piped waits =>
    refine failed (.failed .fork errno) ?_
    rw [firstFailure?_throughPipe (Job.views_waitFor waits).1, firstFailure?_append,
      firstFailure?_started]
    rfl

end LaunchRun

/-! ## Foreground jobs -/

/-- A plan of programs was started, its job stayed in the foreground, and the wait for it came to
`status`. -/
inductive PlanCompletes (s : State) (plan : Plan) : List Traffic → JobStatus → Prop
  | intro {launching waiting rest : List Traffic} {job : Job} {status : JobStatus}
      (launched : (launch plan s.workingDir).Runs launching (.ok job))
      (stays : job.background = false) (waits : job.wait.Runs waiting (.ok status)) :
      PlanCompletes s plan (⟨.flush .output, .ok ()⟩ :: (launching ++ (waiting ++ rest))) status

namespace PlanCompletes

variable {s : State} {plan : Plan} {t u : List Traffic} {status : JobStatus}

lemma of_launched {result : Except LaunchError Job}
    (h : PlanCompletes s plan (⟨.flush .output, .ok ()⟩ :: (t ++ u)) status)
    (launched : LaunchRun plan s.workingDir t result) :
    ∃ job waiting rest, result = .ok job ∧ job.background = false ∧
      job.wait.Runs waiting (.ok status) ∧ u = waiting ++ rest := by
  generalize ht : (⟨.flush .output, .ok ()⟩ :: (t ++ u) : List Traffic) = whole at h
  cases h with
  | @intro launching waiting rest job status launched' stays waits =>
    obtain ⟨-, rfl, rfl⟩ := launched.runs.append_inj launched' (List.cons.inj ht).2
    exact ⟨job, waiting, rest, rfl, stays, waits, rfl⟩

/-- What the wait behind it has come to is that status. -/
theorem of_waited {job : Job} {waiting rest : List Traffic}
    {ending : Except WaitError JobStatus}
    (h : PlanCompletes s plan (⟨.flush .output, .ok ()⟩ :: (t ++ (waiting ++ rest))) status)
    (launched : LaunchRun plan s.workingDir t (.ok job)) (waits : job.wait.Runs waiting ending) :
    ending = .ok status := by
  obtain ⟨_, _, _, hjob, -, waits', hwaiting⟩ := h.of_launched launched
  cases hjob
  exact (waits.append_inj waits' hwaiting).2.1

end PlanCompletes

section Waited

variable {plan : Plan} {workingDir : String} {job : Job} {t waiting rest : List Traffic}
  {ending : Except WaitError JobStatus}

/-- What is read off the transcript of a job that was launched and waited for is what the wait came
to. -/
lemma completed?_of_waited (launched : LaunchRun plan workingDir t (.ok job))
    (waits : job.wait.Runs waiting ending) (unasked : verdicts rest = [])
    (unmade : firstFailure? rest = none) :
    completed? (⟨.flush .output, .ok ()⟩ :: (t ++ (waiting ++ rest))) = ending.toOption := by
  obtain ⟨started, silent, processes⟩ := launched.views_of_ok
  obtain ⟨hlength, hending⟩ := Job.verdicts_of_waitAll waits
  have failure : firstFailure? (⟨.flush .output, .ok ()⟩ :: (t ++ (waiting ++ rest))) = none := by
    change firstFailure? (t ++ (waiting ++ rest)) = none
    rw [firstFailure?_append, firstFailure?_append, started, Job.firstFailure?_of_waitAll waits,
      unmade]
    rfl
  have asked : verdicts (⟨.flush .output, .ok ()⟩ :: (t ++ (waiting ++ rest))) =
      verdicts waiting := by
    change verdicts (t ++ (waiting ++ rest)) = verdicts waiting
    rw [verdicts_append, verdicts_append, silent, unasked, List.append_nil, List.nil_append]
  -- a launched job has processes, so at least one verdict has been given
  unfold completed?
  rw [failure, asked, hending]
  cases hv : verdicts waiting with
  | nil =>
    rw [hv] at hlength
    exact absurd (List.length_eq_zero_iff.1 hlength.symm) processes
  | cons first more => rfl

/-- Nothing has failed to be written before the job was over. -/
lemma any_isFailedWrite_of_waited (launched : LaunchRun plan workingDir t (.ok job))
    (waits : job.wait.Runs waiting ending) :
    (⟨.flush .output, .ok ()⟩ :: (t ++ (waiting ++ rest)) : List Traffic).any
      Traffic.isFailedWrite = rest.any Traffic.isFailedWrite := by
  have silent {u : List Traffic} (h : ∀ x ∈ u, ShellCall.isProcessCall x.request = true) :
      u.any Traffic.isFailedWrite = false := by
    refine List.any_eq_false.2 fun x hx => ?_
    obtain ⟨request, answer⟩ := x
    have := h _ hx
    cases request with
    | write _ _ => exact absurd this Bool.false_ne_true
    | _ => exact Bool.false_ne_true
  rw [List.any_cons, List.any_append, List.any_append, silent launched.isProcessCall,
    silent (Job.isProcessCall_of_waitAll waits)]
  rfl

end Waited

/-- An exchange in which the end of a line could not be written. -/
def Traffic.isLostBreak : Traffic → Bool
  | ⟨.write .output text, .error _⟩ => text == "\n"
  | _ => false

lemma Traffic.isFailedWrite_of_isLostBreak {x : Traffic} (h : x.isLostBreak = true) :
    x.isFailedWrite = true := by
  unfold isLostBreak at h
  split at h
  · rfl
  · exact absurd h Bool.false_ne_true

/-- What a line of programs does to the status that is kept. -/
structure StatusStep (s : State) (t : List Traffic) (s' : State) : Prop where
  /-- What is noted is kept, and otherwise what was there before. -/
  kept : s'.lastStatus = (noted? t).or s.lastStatus
  /-- A job that was waited for with success is passed over if it was interrupted and its line could
  not be ended. -/
  lost : ∀ status, completed? t = some status →
    (noted? t = none ↔ status = .signaled .SIGINT ∧ t.any Traffic.isLostBreak = true)

namespace StatusStep

variable {s s' : State} {t u : List Traffic}

lemma of_none (h : completed? t = none) (same : s'.lastStatus = s.lastStatus) :
    StatusStep s t s' where
  kept := by rw [noted?_eq_none h, same, Option.none_or]
  lost := by simp [h]

lemma append (h : StatusStep s t s') (aside : ∀ x ∈ u, x.Aside) : StatusStep s (t ++ u) s' := by
  obtain ⟨completed, noted⟩ := noted?_append aside (t := t)
  refine ⟨by rw [noted, h.kept], fun status hstatus => ?_⟩
  rw [completed] at hstatus
  have ended : u.any Traffic.isLostBreak = false := List.any_eq_false.2 fun x hx lost =>
    absurd (Traffic.isFailedWrite_of_isLostBreak lost) (by simp [(aside x hx).written])
  rw [noted, h.lost status hstatus, List.any_append, ended, Bool.or_false]

section Waited

variable {plan : Plan} {job : Job} {waiting rest : List Traffic}
  (unasked : verdicts rest = []) (unmade : firstFailure? rest = none)

include unasked unmade

/-- A job was waited for, and after that nothing failed to be written. -/
lemma of_written {ending : Except WaitError JobStatus}
    (launched : LaunchRun plan s.workingDir t (.ok job)) (waits : job.wait.Runs waiting ending)
    (written : rest.any Traffic.isFailedWrite = false)
    (kept : s'.lastStatus = ending.toOption.or s.lastStatus) :
    StatusStep s (⟨.flush .output, .ok ()⟩ :: (t ++ (waiting ++ rest))) s' := by
  have completed := completed?_of_waited launched waits unasked unmade
  rw [← any_isFailedWrite_of_waited launched waits] at written
  constructor
  · rw [noted?, if_neg (by simp [written]), completed, kept]
  · intro status hstatus
    rw [noted?, if_neg (by simp [written]), hstatus]
    refine iff_of_false nofun fun ⟨_, lost⟩ => ?_
    obtain ⟨x, hx, lost⟩ := List.any_eq_true.1 lost
    exact List.any_eq_false.1 written x hx (Traffic.isFailedWrite_of_isLostBreak lost)

/-- A job was interrupted, and its line could not be ended. -/
lemma of_unended {e : IoError} (launched : LaunchRun plan s.workingDir t (.ok job))
    (waits : job.wait.Runs waiting (.ok (.signaled .SIGINT)))
    (unended : ⟨.write .output "\n", .error e⟩ ∈ rest) (same : s'.lastStatus = s.lastStatus) :
    StatusStep s (⟨.flush .output, .ok ()⟩ :: (t ++ (waiting ++ rest))) s' := by
  have completed := completed?_of_waited launched waits unasked unmade
  have unwritten : rest.any Traffic.isFailedWrite = true := List.any_eq_true.2 ⟨_, unended, rfl⟩
  rw [← any_isFailedWrite_of_waited launched waits] at unwritten
  constructor
  · rw [noted?, if_pos unwritten, same, Option.none_or]
  · intro status hstatus
    rw [completed] at hstatus
    cases hstatus
    rw [noted?, if_pos unwritten]
    have hmem : ⟨.write .output "\n", .error e⟩ ∈ t ++ (waiting ++ rest) :=
      List.mem_append_right t (List.mem_append_right waiting unended)
    exact iff_of_true rfl ⟨rfl, List.any_eq_true.2 ⟨_, List.mem_cons_of_mem _ hmem, rfl⟩⟩

end Waited

end StatusStep

/-! ## Plans -/

namespace JobRun

variable {s s' : State} {plan : Plan} {t u : List Traffic} {result : Except CommandError Flow}

lemma completed?_of_background {job : Job} {answer : Except IoError Unit}
    (launched : LaunchRun plan s.workingDir t (.ok job)) :
    completed? (⟨.flush .output, .ok ()⟩ ::
      (t ++ [⟨.write .output (startNotice job), answer⟩])) = none := by
  refine completed?_eq_none ?_
  change verdicts (t ++ _) = []
  rw [verdicts_append, launched.views_of_ok.2.1]
  rfl

/-- However a plan of programs is run, the status that is kept is what was noted. -/
lemma statusStep (h : JobRun s plan t s' result) : StatusStep s t s' := by
  cases h with
  | unflushed => exact .of_none rfl rfl
  | notLaunched launched => exact .of_none launched.completed?_of_error rfl
  | background launched _ | backgroundUntold launched _ =>
    exact .of_none (completed?_of_background launched) rfl
  | @unwaited t waiting job e launched stays waits =>
    rw [← List.append_nil waiting]
    exact .of_written rfl rfl launched waits rfl rfl
  | exited launched _ waits | interrupted launched _ waits | killed launched _ waits _ =>
    exact .of_written rfl rfl launched waits rfl rfl
  | interruptedUnended launched stays waits =>
    exact .of_unended rfl rfl launched waits (List.mem_cons_of_mem _ List.mem_cons_self) rfl

/-- A job that was waited for has completed with what the wait came to, if that is a status. -/
lemma completed?_iff_of_waited {job : Job} {waiting rest : List Traffic} {status : JobStatus}
    {ending : Except WaitError JobStatus} (launched : LaunchRun plan s.workingDir t (.ok job))
    (stays : job.background = false) (waits : job.wait.Runs waiting ending)
    (unasked : verdicts rest = []) (unmade : firstFailure? rest = none) :
    completed? (⟨.flush .output, .ok ()⟩ :: (t ++ (waiting ++ rest))) = some status ↔
      PlanCompletes s plan (⟨.flush .output, .ok ()⟩ :: (t ++ (waiting ++ rest)) ++ u) status := by
  rw [completed?_of_waited launched waits unasked unmade, List.cons_append, List.append_assoc,
    List.append_assoc]
  constructor
  · intro h
    cases ending with
    | error e => cases h
    | ok ended =>
      cases h
      exact .intro launched.runs stays waits
  · intro h
    rw [h.of_waited launched waits]
    rfl

/-- What is read off the transcript of a plan is what the program has made of it. What is done
behind it does not matter if it has nothing to do with the job. -/
theorem completed?_eq_some_iff {status : JobStatus} (h : JobRun s plan t s' result)
    (aside : ∀ x ∈ u, x.Aside) :
    completed? (t ++ u) = some status ↔ PlanCompletes s plan (t ++ u) status := by
  have without (none : completed? t = none) (never : ¬ PlanCompletes s plan (t ++ u) status) :
      completed? t = some status ↔ PlanCompletes s plan (t ++ u) status := by
    rw [none]
    exact iff_of_false nofun never
  rw [(noted?_append aside).1]
  -- one case for each way a job can go: only where it has been waited for is there a status
  cases h with
  | unflushed => exact without rfl nofun
  | notLaunched launched =>
    refine without launched.completed?_of_error fun completes => ?_
    obtain ⟨_, _, _, hjob, -⟩ := completes.of_launched launched
    cases hjob
  | background launched goes | backgroundUntold launched goes =>
    refine without (completed?_of_background launched) fun completes => ?_
    rw [List.cons_append, List.append_assoc] at completes
    obtain ⟨_, _, _, hjob, stays, -⟩ := completes.of_launched launched
    cases hjob
    exact absurd goes (by simp [stays])
  | @unwaited t waiting job e launched stays waits =>
    rw [← List.append_nil waiting]
    exact completed?_iff_of_waited launched stays waits rfl rfl
  | exited launched stays waits | interrupted launched stays waits
  | interruptedUnended launched stays waits | killed launched stays waits _ =>
    exact completed?_iff_of_waited launched stays waits rfl rfl

end JobRun

/-! ## Lines -/

/-- The line asks for programs, they were started as a foreground job, and the wait for it came to
`status`. -/
def LineCompletes (s : State) (line : String) (t : List Traffic) (status : JobStatus) : Prop :=
  ∃ plan, HasPlan s line plan ∧ plan.left.program ∉ builtinNames ∧
    (∀ right, plan.right = some right → right.program ∉ builtinNames) ∧
    PlanCompletes s plan t status

/-- What a line does to the status that is kept, and what is read off its transcript. -/
structure LineStatus (s : State) (line : String) (t : List Traffic) (s' : State) : Prop
    extends StatusStep s t s' where
  completed : ∀ status, completed? t = some status ↔ LineCompletes s line t status

namespace LineStatus

variable {s s' : State} {line : String} {t u : List Traffic}

lemma of_unlaunched (none : completed? t = none) (same : s'.lastStatus = s.lastStatus)
    (spoilt : ∀ plan, HasPlan s line plan → plan.left.program ∈ builtinNames ∨
      ∃ right, plan.right = some right ∧ right.program ∈ builtinNames) :
    LineStatus s line t s' where
  toStatusStep := .of_none none same
  completed status := by
    rw [none]
    refine iff_of_false nofun ?_
    rintro ⟨plan, planned, left, right, -⟩
    rcases spoilt plan planned with named | ⟨side, piped, named⟩
    · exact left named
    · exact right side piped named

/-- However a line goes, the status that is kept is what was noted. What is done behind it does not
matter if it has nothing to do with a job. -/
theorem of_lineRun {result : Except CommandError Flow} (h : LineRun s line t s' result)
    (aside : ∀ x ∈ u, x.Aside) : LineStatus s line (t ++ u) s' := by
  have idle (h : ∀ x ∈ t, x.verdict? = none) : completed? (t ++ u) = none := by
    rw [(noted?_append aside).1]
    exact completed?_eq_none (List.filterMap_eq_nil_iff.2 h)
  cases h with
  | refused planned =>
    refine of_unlaunched (idle (by simp)) rfl fun plan hplan => ?_
    rw [planLine_eq_ok_iff.2 hplan] at planned
    cases planned
  | blank planned =>
    refine of_unlaunched (idle (by simp)) rfl fun plan hplan => ?_
    rw [planLine_eq_ok_iff.2 hplan] at planned
    cases planned
  -- a built-in waits for nothing and changes at most the working directory
  | @builtin plan builtin _ _ _ planned left run =>
    obtain ⟨hcalls, agrees⟩ := (s.runBuiltin_actsAsBuiltin builtin plan).of_runs run
    have agrees : s' = { s with workingDir := s'.workingDir } := agrees
    refine of_unlaunched (idle ?_) (by rw [agrees]) fun plan' hplan => .inl ?_
    · exact fun x hx => Traffic.verdict?_of_noWait (Traffic.idle_of_isBuiltinCall (hcalls x hx)).1
    · obtain rfl := (planLine_eq_ok_iff.1 planned).eq hplan
      by_contra named
      rw [Builtin.ofName?_eq_none_iff.2 named] at left
      cases left
  | @misplaced plan builtin planned left right =>
    refine of_unlaunched (idle (by simp)) rfl fun plan' hplan => .inr ?_
    obtain rfl := (planLine_eq_ok_iff.1 planned).eq hplan
    by_contra named
    push Not at named
    rw [rightBuiltin?_eq_none_iff.2 named] at right
    cases right
  | @job plan _ _ _ planned left right run =>
    refine ⟨run.statusStep.append aside, fun status => ?_⟩
    rw [run.completed?_eq_some_iff aside]
    constructor
    -- both sides now speak of the one plan that the line stands for
    · intro completes
      exact ⟨plan, planLine_eq_ok_iff.1 planned, Builtin.ofName?_eq_none_iff.1 left,
        rightBuiltin?_eq_none_iff.1 right, completes⟩
    · rintro ⟨plan', hplan, -, -, completes⟩
      rwa [(planLine_eq_ok_iff.1 planned).eq hplan]

lemma of_runs_execute {flow : Flow} (h : (s.execute line).Runs t (s', flow)) :
    LineStatus s line t s' := by
  rcases LineRun.of_runs_execute h with went | ⟨t, e, failed, -, rfl⟩
  · have done := of_lineRun went (u := []) (by simp)
    rwa [List.append_nil] at done
  · exact of_lineRun failed (List.forall_mem_singleton.2 ⟨rfl, rfl, rfl⟩)

end LineStatus

/-! ## Histories -/

/-- In this step a line was executed, its programs ran as a foreground job, and the wait for it came
to `status`. -/
def Completes (s : State) (step : PerformedStep) (status : JobStatus) : Prop :=
  ∃ line, step.operation = .execute line ∧ LineCompletes s line step.transcript status

/-- The statuses that were noted in some steps. -/
def notes (steps : List PerformedStep) : List JobStatus :=
  steps.filterMap fun step => noted? step.transcript

/-- What becomes of the status that is kept when a step is done. -/
structure StepStatus (s : State) (step : PerformedStep) : Prop
    extends StatusStep s step.transcript step.state where
  completed : ∀ status, completed? step.transcript = some status ↔ Completes s step status

/-- An operation that waits for no job leaves the status as it is. -/
theorem StepStatus.of_idle {s : State} {step : PerformedStep}
    (unasked : ∀ x ∈ step.transcript, x.verdict? = none)
    (same : step.state.lastStatus = s.lastStatus)
    (other : ∀ line, step.operation ≠ .execute line) : StepStatus s step := by
  have none := completed?_eq_none (List.filterMap_eq_nil_iff.2 unasked)
  refine ⟨.of_none none same, fun status => ?_⟩
  rw [none]
  refine iff_of_false nofun ?_
  rintro ⟨line, executes, -⟩
  exact other line executes

lemma StepStatus.of_runs_perform {s : State} {step : PerformedStep}
    (h : (step.operation.perform s).Runs step.transcript step.state) : StepStatus s step := by
  obtain ⟨operation, t, s'⟩ := step
  have shown {x : Traffic} (h : ShellCall.isShowing x.request = true) : x.verdict? = none := by
    obtain ⟨request, answer⟩ := x
    cases request with
    | wait _ _ => exact absurd h Bool.false_ne_true
    | _ => rfl
  rcases Operation.runs_perform h with ⟨line, flow, rfl, run⟩ | ⟨result, rfl, run⟩ |
    ⟨prompting, rfl, shows⟩
  · obtain ⟨status, completed⟩ := LineStatus.of_runs_execute run
    refine ⟨status, fun ended => (completed ended).trans ?_⟩
    constructor
    · exact fun completes => ⟨line, rfl, completes⟩
    · rintro ⟨_, executes, completes⟩
      cases executes
      exact completes
  -- a sweep asks without waiting, which counts as no verdict
  · obtain ⟨asking, telling, found, rfl, hsweep, rfl, shows⟩ :=
      exists_sweep_of_runs_reportFinished run
    obtain ⟨asked, -, rfl, -⟩ := Job.runs_sweep_iff.1 hsweep
    refine .of_idle (List.forall_mem_append.2 ⟨fun x hx => ?_, fun x hx => shown (shows x hx)⟩)
      rfl nofun
    obtain ⟨question, -, rfl⟩ := List.mem_map.1 hx
    rfl
  · refine .of_idle (fun x hx => shown (shows x hx)) rfl fun line executes => ?_
    rcases prompting with rfl | rfl <;> cases executes

/-- The status that a shell keeps is the last one that was noted. -/
lemma lastStatus_stateAfter {s : State} {steps : List PerformedStep} (h : History s steps) :
    (stateAfter s steps).lastStatus = (notes steps).getLast?.or s.lastStatus := by
  induction steps generalizing s with
  | nil => rfl
  | cons step steps ih =>
    have kept := (StepStatus.of_runs_perform h.1).kept
    have later : (stateAfter s (step :: steps)).lastStatus =
        (notes steps).getLast?.or step.state.lastStatus := ih h.2
    rw [later, kept, ← Option.or_assoc]
    congr 1
    cases hnoted : noted? step.transcript with
    | none =>
      have unnoted : notes (step :: steps) = notes steps := List.filterMap_cons_none hnoted
      rw [unnoted, Option.or_none]
    | some status =>
      have noted : notes (step :: steps) = status :: notes steps :=
        List.filterMap_cons_some hnoted
      rw [noted, List.getLast?_cons]
      cases (notes steps).getLast? <;> rfl

/-- What a shell has kept of the foreground jobs of its life, in which it has done these steps. -/
structure StatusKept (start : State) (steps : List PerformedStep) : Prop where
  /-- It is the status that was noted last. -/
  last : (stateAfter start steps).lastStatus = (notes steps).getLast?
  /-- What was noted in a step is the status that the wait for its foreground job came to, unless
  that job was interrupted and its line could not be ended, in which case nothing was. -/
  noted : ∀ before step after, steps = before ++ step :: after → ∀ status,
    Completes (stateAfter start before) step status →
      noted? step.transcript =
        if status = .signaled .SIGINT ∧ step.transcript.any Traffic.isLostBreak = true then none
        else some status
  /-- A step in which no foreground job was waited for with success notes nothing, and leaves the
  status as it was. -/
  unchanged : ∀ before step after, steps = before ++ step :: after →
    (∀ status, ¬ Completes (stateAfter start before) step status) →
      noted? step.transcript = none ∧
        step.state.lastStatus = (stateAfter start before).lastStatus

/-- The status of the last foreground job is kept. In every history of a shell it is the one that
the wait for the last such job came to, where a job is passed over if it was interrupted and the
line feed for it could not be written; nothing else that a shell does changes it. -/
theorem last_status_kept {config : Config} {workingDir : String} {onTerminal : Bool}
    {steps : List PerformedStep} (h : History (State.start config workingDir onTerminal) steps) :
    StatusKept (State.start config workingDir onTerminal) steps := by
  have done {before step after} (hsteps : steps = before ++ step :: after) :
      StepStatus (stateAfter (State.start config workingDir onTerminal) before) step := by
    subst hsteps
    exact .of_runs_perform h.right.1
  constructor
  · rw [lastStatus_stateAfter h]
    exact Option.or_none
  · intro before step after hsteps status completes
    have completed := ((done hsteps).completed status).2 completes
    have lost := (done hsteps).lost status completed
    split
    · rename_i unended
      exact lost.2 unended
    · rename_i ended
      have written := mt lost.1 ended
      unfold noted? at written ⊢
      split
      · rename_i unwritten
        exact absurd (if_pos unwritten) written
      · exact completed
  · intro before step after hsteps never
    have none : completed? step.transcript = none := by
      refine Option.eq_none_iff_forall_ne_some.2 fun status completed => ?_
      exact never status (((done hsteps).completed status).1 completed)
    have unnoted := noted?_eq_none none
    refine ⟨unnoted, ?_⟩
    rw [(done hsteps).kept, unnoted, Option.none_or]

/-- `./sig INT` -/
def signalling : Plan := { left := { program := "./sig", arguments := ["INT"] } }

/-- The program is interrupted while the output takes nothing. -/
def unendedStep : PerformedStep where
  operation := .execute "./sig INT"
  transcript :=
    [⟨.flush .output, .ok ()⟩, ⟨.fork (signalling.onlyChild "/"), .ok 20⟩,
      ⟨.wait 20 true, .ok (.signaled .SIGINT false)⟩, ⟨.takeInterrupt, false⟩,
      ⟨.write .output "\n", .error (.os .ENOSPC)⟩,
      ⟨.warn ("orbit: " ++ (CommandError.output (.os .ENOSPC)).message ++ "\n"), ()⟩]
  state := State.start {} "/" false

lemma history_unendedStep : History (State.start {} "/" false) [unendedStep] := by
  have planned : planLine "./sig INT" 64 = .ok (some signalling) := by cbv
  exact ⟨Operation.runs_perform_of_error planned
    (t := unendedStep.transcript.take 5) (Dialogue.runs_of_replay? rfl), trivial⟩

/-- A program that is waited for with success, and whose status is not kept. -/
theorem last_status_unkept :
    History (State.start {} "/" false) [unendedStep] ∧
      Completes (State.start {} "/" false) unendedStep (.signaled .SIGINT) ∧
      (stateAfter (State.start {} "/" false) [unendedStep]).lastStatus = none := by
  refine ⟨history_unendedStep, ?_, rfl⟩
  exact ((StepStatus.of_runs_perform history_unendedStep.1).completed _).1 rfl

/-- A shell in which a program fails, another one is put into the background, and a third one is
interrupted. -/
def interruptedLife : List PerformedStep :=
  let start := State.start {} "/" false
  let failed := { start with lastStatus := some (.exited 1) }
  [{ operation := .execute "./sig INT"
     transcript :=
      [⟨.flush .output, .ok ()⟩, ⟨.fork (signalling.onlyChild "/"), .ok 20⟩,
        ⟨.wait 20 true, .ok (.stopped .SIGSTOP)⟩, ⟨.wait 20 true, .ok (.exited 1)⟩,
        ⟨.takeInterrupt, false⟩]
     state := failed },
    { operation := .execute "sleep 9 &"
      transcript :=
        ⟨.flush .output, .ok ()⟩ :: (started (napping.onlyChild "/") 21 ++
          [⟨.write .output (startNotice ⟨[21], true⟩), .ok ()⟩])
      state := { failed with jobs := [21] } },
    { operation := .execute "./sig INT"
      transcript :=
        [⟨.flush .output, .ok ()⟩, ⟨.fork (signalling.onlyChild "/"), .ok 22⟩,
          ⟨.wait 22 true, .ok (.signaled .SIGINT false)⟩, ⟨.takeInterrupt, true⟩,
          ⟨.write .output "\n", .ok ()⟩]
      state := { failed with jobs := [21], lastStatus := some (.signaled .SIGINT) } }]

theorem last_status_kept_interruptedLife :
    History (State.start {} "/" false) interruptedLife ∧
      notes interruptedLife = [.exited 1, .signaled .SIGINT] ∧
      StatusKept (State.start {} "/" false) interruptedLife := by
  have signalled : planLine "./sig INT" 64 = .ok (some signalling) := by cbv
  have nap : planLine "sleep 9 &" 64 = .ok (some napping) := by cbv
  have life : History (State.start {} "/" false) interruptedLife :=
    ⟨Operation.runs_perform_of_ok signalled (Dialogue.runs_of_replay? rfl),
      Operation.runs_perform_of_ok nap (Dialogue.runs_of_replay? rfl),
      Operation.runs_perform_of_ok signalled (Dialogue.runs_of_replay? rfl), trivial⟩
  exact ⟨life, rfl, last_status_kept life⟩

end CommandShell
