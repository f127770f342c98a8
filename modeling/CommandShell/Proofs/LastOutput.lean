import CommandShell.Proofs.Directory
import CommandShell.Proofs.Scanning
import CommandShell.Proofs.SetupEffects

/-!
# The output that counts

A line can redirect an output several times. Only the last of these redirections is looked at: it is
the one that the plan has for its side of the line (`HasPlan.outputs_eq`), and no other file is
opened for output, neither by the shell nor by a child (`opensLast_of_runs_execute`).
-/

namespace CommandShell

/-- The segments of a plan, in the order of the line. -/
def Plan.segments (plan : Plan) : List Segment :=
  plan.left :: plan.right.toList

variable {s s' : State} {line : String} {plan : Plan} {t : List Traffic}

/-- The output of each segment is the last one that is redirected to on its side of the line. -/
theorem HasPlan.outputs_eq (h : HasPlan s line plan) :
    ∃ tokens, tokenize line s.config.maxArgs = .ok tokens ∧
      plan.segments.map (·.output) = (Plan.sides tokens).map Tokens.lastOutput? := by
  obtain ⟨tokens, cut, read⟩ := h
  refine ⟨tokens, cut, ?_⟩
  unfold Plan.segments
  rcases Plan.sides_cases tokens with ⟨single, sides⟩ | ⟨before, after, rfl, first, sides⟩
  · obtain ⟨sound, left, hplan⟩ := Plan.eq_of_scan?_of_notMem single read
    have output := (Plan.tells_of_lineGist sound left).output
    rw [hplan, sides, List.map_singleton, ← output]
    rfl
  · obtain ⟨soundBefore, soundAfter, right, left, right', hplan⟩ :=
      Plan.eq_of_scan?_append_pipe first read
    have outputLeft := (Plan.tells_of_gist soundBefore left).output
    have outputRight := (Plan.tells_of_gist soundAfter right').output
    have last : [before, after].map Tokens.lastOutput? = [plan.left.output, right.output] := by
      rw [List.map_cons, List.map_singleton, outputLeft, outputRight]
    rw [hplan, sides, last]
    rfl

/-! ## Children -/

/-- Of all that a child opens while it sets itself up, only the output of its segment is opened for
output. -/
def Child.OpensOutputOnly (c : Child) : Prop :=
  ∀ u started, c.setup.Runs u started → ∀ x ∈ u, ∀ path mode closeOnExec,
    x.request = .openFile path mode closeOnExec → mode ≠ .read →
      ∃ target, c.segment.output = some target ∧ path = target.path ∧
        mode = .output (outputFlags target.mode)

lemma Child.opensOutputOnly (c : Child) : c.OpensOutputOnly := by
  intro u started run x hx path mode closeOnExec opens writes
  have known := ((c.setupRun_of_runs _ _ run).setupCall x hx).request_cases
  rw [opens] at known
  rcases known with arranges | ⟨step, own, asks⟩ | ⟨subject, reason, told⟩
  · cases arranges
  · obtain ⟨target, output, rfl⟩ := mem_steps_openFile own asks.symm writes
    cases asks
    exact ⟨target, output, rfl, (openMode_outputFlags _).symm⟩
  · obtain ⟨bytes, told⟩ := exists_of_mem_diagnostic told
    cases told

/-! ## Lines -/

/-- Whatever is opened for output in this transcript is the output of the plan in the directory:
once by the shell, or by the children that are made. -/
structure Plan.OpensLast (plan : Plan) (dir : String) (t : List Traffic) : Prop where
  shell : t.filterMap Traffic.opened? = [] ∨ ∃ target, plan.left.output = some target ∧
    t.filterMap Traffic.opened? = [(Path.join dir target.path, outputOptions target.mode)]
  children : ∀ child answer, (⟨.fork child, answer⟩ : Traffic) ∈ t →
    child.workingDir = dir ∧ child.segment ∈ plan.segments ∧ child.OpensOutputOnly

lemma Plan.Makes.segment_mem {dir : String} {child : Child} (h : plan.Makes dir child) :
    child.segment ∈ plan.segments := by
  cases h with
  | only single => exact List.mem_cons_self
  | reading piped =>
    rw [segments, piped]
    exact List.mem_cons_of_mem _ List.mem_cons_self
  | writing piped => exact List.mem_cons_self

/-- A built-in command opens the output of its plan at most, and that once. -/
lemma BuiltinPlanRun.opened_eq {builtin : Builtin} {result : Except CommandError Flow}
    (h : BuiltinPlanRun s builtin plan t s' result) :
    t.filterMap Traffic.opened? = [] ∨ ∃ target, plan.left.output = some target ∧
      t.filterMap Traffic.opened? =
        [(Path.join s.workingDir target.path, outputOptions target.mode)] := by
  cases h with
  | exit _ | refused _ _ => exact .inl rfl
  | direct _ _ _ run => exact .inl (List.filterMap_eq_nil_iff.2 run.opensNothing)
  | unopened _ _ output => exact .inr ⟨_, output, rfl⟩
  | @redirected target fd closed t s' result _ _ output run =>
    refine .inr ⟨_, output, ?_⟩
    have inside : t.filterMap Traffic.opened? = [] := List.filterMap_eq_nil_iff.2 run.opensNothing
    rw [List.filterMap_cons, List.filterMap_append, inside]
    rfl

lemma LineRun.opened_eq {result : Except CommandError Flow} (h : LineRun s line t s' result)
    (planned : HasPlan s line plan) :
    t.filterMap Traffic.opened? = [] ∨ ∃ target, plan.left.output = some target ∧
      t.filterMap Traffic.opened? =
        [(Path.join s.workingDir target.path, outputOptions target.mode)] := by
  cases h with
  | refused _ | blank _ | misplaced _ _ _ => exact .inl rfl
  | builtin planned' _ run =>
    cases planned'.symm.trans (planLine_eq_ok_iff.2 planned)
    exact (BuiltinPlanRun.of_runs run).opened_eq
  | job _ _ _ run => exact .inl (List.filterMap_eq_nil_iff.2 run.opensNothing)

/-- **Only the last output redirection touches a file.** -/
theorem opensLast_of_runs_execute {flow : Flow} (planned : HasPlan s line plan)
    (h : (s.execute line).Runs t (s', flow)) : plan.OpensLast s.workingDir t := by
  constructor
  · obtain ⟨u, result, run, rfl⟩ := State.exists_run_of_runs_execute h
    have told : (complaint result).filterMap Traffic.opened? = [] := by
      cases result with
      | ok _ => rfl
      | error e => rfl
    rw [List.filterMap_append, told, List.append_nil]
    exact (LineRun.of_runs run).opened_eq planned
  · intro child answer made
    obtain ⟨plan', planned', makes⟩ := makes_of_runs_execute h made
    cases (planLine_eq_ok_iff.2 planned').symm.trans (planLine_eq_ok_iff.2 planned)
    exact ⟨makes.workingDir_eq, makes.segment_mem, child.opensOutputOnly⟩

end CommandShell
