import CommandShell.Proofs.Line

/-!
# Histories of a shell

What a shell does over its life is a sequence of operations on its state: it executes lines, tells
of background jobs that have ended, and shows prompts. A `History` is such a sequence with the
transcript of each operation and the state it left, in any order and of any length; every
statement about whole sessions is one about histories.

The operations other than command lines are taken to pieces here:
`exists_sweep_of_runs_reportFinished` for the reports, and `State.prompt_within` for prompts.
-/

namespace CommandShell

/-- Something that a shell does with its state. -/
inductive Operation
  | execute (line : String)
  | reportFinished
  /-- Works out the prompt. -/
  | prompt
  /-- Works out the prompt and writes it. -/
  | render
  deriving DecidableEq, Repr

/-- Does it, and comes to the state after it. -/
def Operation.perform (s : State) : Operation → Shell State
  | .execute line => do return (← s.execute line).1
  | .reportFinished => do return (← s.reportFinished).1
  | .prompt => do
    let _ ← s.prompt
    return s
  | .render => do
    let _ ← s.render
    return s

/-- A line whose plan is run with success. -/
theorem Operation.runs_perform_of_ok {s s' : State} {line : String} {plan : Plan} {flow : Flow}
    {t : List Traffic} (planned : planLine line s.config.maxArgs = .ok (some plan))
    (run : (s.runPlan plan).Runs t (s', .ok flow)) :
    ((Operation.execute line).perform s).Runs t s' := by
  have executed : (s.execute line).Runs t (s', flow) := by
    unfold State.execute State.run
    rw [planned]
    exact Dialogue.runs_bind_iff.2 ⟨t, [], _, by simp, run, .done _⟩
  exact Dialogue.runs_bind_iff.2 ⟨t, [], _, by simp, executed, .done _⟩

/-- A line whose plan fails, which is told. -/
theorem Operation.runs_perform_of_error {s s' : State} {line : String} {plan : Plan}
    {e : CommandError} {t : List Traffic}
    (planned : planLine line s.config.maxArgs = .ok (some plan))
    (run : (s.runPlan plan).Runs t (s', .error e)) :
    ((Operation.execute line).perform s).Runs
      (t ++ [⟨.warn ("orbit: " ++ e.message ++ "\n"), ()⟩]) s' := by
  have executed : (s.execute line).Runs
      (t ++ [⟨.warn ("orbit: " ++ e.message ++ "\n"), ()⟩]) (s', .continue) := by
    unfold State.execute State.run
    rw [planned]
    refine Dialogue.runs_bind_iff.2 ⟨t, _, _, rfl, run, ?_⟩
    exact Shell.runs_call_bind_iff.2 ⟨(), [], rfl, .done _⟩
  exact Dialogue.runs_bind_iff.2 ⟨_, [], _, by simp, executed, .done _⟩

/-- One operation that has been done: its transcript, and the state it left. -/
structure PerformedStep where
  operation : Operation
  transcript : List Traffic
  state : State

/-- The steps are what a shell can have done since it was in the state `s`. -/
def History : State → List PerformedStep → Prop
  | _, [] => True
  | s, step :: steps =>
    (step.operation.perform s).Runs step.transcript step.state ∧ History step.state steps

/-- The state after some steps. -/
def stateAfter (s : State) : List PerformedStep → State
  | [] => s
  | step :: steps => stateAfter step.state steps

lemma stateAfter_concat (s : State) (steps : List PerformedStep) (last : PerformedStep) :
    stateAfter s (steps ++ [last]) = last.state := by
  induction steps generalizing s with
  | nil => rfl
  | cons step steps ih => exact ih step.state

/-- All exchanges of some steps. -/
def transcript (steps : List PerformedStep) : List Traffic := steps.flatMap (·.transcript)

@[simp] lemma transcript_nil : transcript [] = [] := rfl

@[simp] lemma transcript_cons (step : PerformedStep) (steps : List PerformedStep) :
    transcript (step :: steps) = step.transcript ++ transcript steps := List.flatMap_cons

lemma transcript_append (first second : List PerformedStep) :
    transcript (first ++ second) = transcript first ++ transcript second := List.flatMap_append

lemma History.left {s : State} {first second : List PerformedStep}
    (h : History s (first ++ second)) : History s first := by
  induction first generalizing s with
  | nil => trivial
  | cons step first ih => exact ⟨h.1, ih h.2⟩

lemma History.right {s : State} {first second : List PerformedStep}
    (h : History s (first ++ second)) : History (stateAfter s first) second := by
  induction first generalizing s with
  | nil => exact h
  | cons step first ih => exact ih h.2

/-! ## Reports and prompts -/

/-- What is neither a command line nor a report: it looks at directories and writes. -/
def ShellCall.isShowing : ShellCall → Bool
  | .write _ _ | .flush _ | .warn _ | .isDirectory _ => true
  | _ => false

lemma State.announce_within (finished : List (Pid × JobStatus)) :
    (State.announce finished).Within (fun request : ShellCall => request.isShowing = true)
      fun _ => True := by
  induction finished with
  | nil => exact trivial
  | cons first rest ih =>
    obtain ⟨pid, status⟩ := first
    refine ⟨rfl, fun answer _ => ?_⟩
    cases answer with
    | error e => exact trivial
    | ok _ => exact ih

theorem State.prompt_within (s : State) :
    s.prompt.Within (fun request : ShellCall => request.isShowing = true) fun _ => True := by
  refine ⟨rfl, fun answer _ => ?_⟩
  match answer with
  | .ok true => exact trivial
  | .ok false => exact ⟨rfl, fun _ _ => trivial⟩
  | .error e => exact ⟨rfl, fun _ _ => trivial⟩

lemma State.render_within (s : State) :
    s.render.Within (fun request : ShellCall => request.isShowing = true) fun _ => True := by
  refine s.prompt_within.bind fun text _ => ⟨rfl, fun answer _ => ?_⟩
  cases answer with
  | error e => exact trivial
  | ok _ => exact ⟨rfl, fun _ _ => trivial⟩

/-- A report is a sweep, after which the table holds what the sweep kept, and then at most writing.
-/
theorem exists_sweep_of_runs_reportFinished {s s' : State} {t : List Traffic}
    {result : Except IoError Unit} (h : s.reportFinished.Runs t (s', result)) :
    ∃ asking telling found, t = asking ++ telling ∧ (Job.sweep s.jobs).Runs asking found ∧
      s' = { s with jobs := found.kept } ∧ ∀ x ∈ telling, x.request.isShowing = true := by
  unfold State.reportFinished at h
  obtain ⟨asking, telling, found, rfl, hsweep, hnext⟩ := Dialogue.runs_bind_iff.1 h
  refine ⟨asking, telling, found, rfl, hsweep, ?_⟩
  dsimp only at hnext
  split at hnext
  · obtain ⟨told, _, written, rfl, hannounce, hdone⟩ := Dialogue.runs_bind_iff.1 hnext
    obtain ⟨rfl, rfl, rfl⟩ := Dialogue.runs_done_mk_iff.1 hdone
    rw [List.append_nil]
    exact ⟨rfl, ((State.announce_within found.finished).of_runs hannounce).1⟩
  · obtain ⟨rfl, rfl, rfl⟩ := Dialogue.runs_done_mk_iff.1 hnext
    exact ⟨rfl, by simp⟩

/-- What an operation comes to, by its kind. -/
theorem Operation.runs_perform {s s' : State} {operation : Operation} {t : List Traffic}
    (h : (operation.perform s).Runs t s') :
    (∃ line flow, operation = .execute line ∧ (s.execute line).Runs t (s', flow)) ∨
      (∃ result, operation = .reportFinished ∧ s.reportFinished.Runs t (s', result)) ∨
        ((operation = .prompt ∨ operation = .render) ∧ s' = s ∧
          ∀ x ∈ t, x.request.isShowing = true) := by
  cases operation with
  | execute line =>
    obtain ⟨t, _, ⟨s₁, flow⟩, rfl, hrun, hdone⟩ := Dialogue.runs_bind_iff.1 h
    obtain ⟨rfl, rfl⟩ := Dialogue.runs_done_iff.1 hdone
    rw [List.append_nil]
    exact .inl ⟨line, flow, rfl, hrun⟩
  | reportFinished =>
    obtain ⟨t, _, ⟨s₁, result⟩, rfl, hrun, hdone⟩ := Dialogue.runs_bind_iff.1 h
    obtain ⟨rfl, rfl⟩ := Dialogue.runs_done_iff.1 hdone
    rw [List.append_nil]
    exact .inr (.inl ⟨result, rfl, hrun⟩)
  | prompt =>
    obtain ⟨t, _, _, rfl, hrun, hdone⟩ := Dialogue.runs_bind_iff.1 h
    obtain ⟨rfl, hs⟩ := Dialogue.runs_done_iff.1 hdone
    rw [List.append_nil]
    exact .inr (.inr ⟨.inl rfl, hs, (s.prompt_within.of_runs hrun).1⟩)
  | render =>
    obtain ⟨t, _, _, rfl, hrun, hdone⟩ := Dialogue.runs_bind_iff.1 h
    obtain ⟨rfl, hs⟩ := Dialogue.runs_done_iff.1 hdone
    rw [List.append_nil]
    exact .inr (.inr ⟨.inr rfl, hs, (s.render_within.of_runs hrun).1⟩)

end CommandShell
