import CommandShell.Proofs.Stages
import CommandShell.Proofs.Wiring

/-!
# The steps of a setup

A setup has few steps that can fail for what the line asks for: the child enters the working
directory, opens the file of its input, opens that of its output, and turns into its program.
Between them it wires up descriptors, and an opening that is interrupted is made again.

`GetsPast` says how far some exchanges bring a child, and `SetupRun` in which ways a setup can go:
it gets past all steps, or the first step that fails is the last one, or the wiring between two
steps fails. After a failure nothing is done but to tell the user, in one line that is written part
by part. There are no other ways, whatever is answered (`Child.setupRun_of_runs`), and this is
proved along the program, a lemma for each of its parts.
-/

namespace CommandShell

open Dialogue

/-! ## Steps -/

/-- A step of a setup. -/
inductive SetupStep
  | enter (path : String)
  | openInput (path : String)
  | openOutput (target : OutputTarget)
  | exec (program : String) (argv : List String)

namespace SetupStep

/-- The call by which a step is taken. -/
def request : SetupStep → Syscall
  | .enter path => .enter path
  | .openInput path => .openFile path .read true
  | .openOutput target => .openFile target.path (.write target.mode 0o644) true
  | .exec program argv => .exec program argv

/-- The exchange in which a step fails. -/
def failed : SetupStep → Errno → Exchange Syscalls
  | .enter path, e => ⟨.enter path, .error e⟩
  | .openInput path, e => ⟨.openFile path .read true, .error e⟩
  | .openOutput target, e => ⟨.openFile target.path (.write target.mode 0o644) true, .error e⟩
  | .exec program argv, e => ⟨.exec program argv, some e⟩

/-- An exchange in which a step is taken. -/
inductive Done : SetupStep → Exchange Syscalls → Prop
  | enter (path : String) : Done (.enter path) ⟨.enter path, .ok ()⟩
  | openInput (path : String) (fd : Fd) :
      Done (.openInput path) ⟨.openFile path .read true, .ok fd⟩
  | openOutput (target : OutputTarget) (fd : Fd) :
      Done (.openOutput target) ⟨.openFile target.path (.write target.mode 0o644) true, .ok fd⟩
  | exec (program : String) (argv : List String) :
      Done (.exec program argv) ⟨.exec program argv, none⟩

/-- The step opens a file. -/
def opens : SetupStep → Bool
  | .openInput _ | .openOutput _ => true
  | .enter _ | .exec _ _ => false

/-- What a failure of the step is told about. -/
def subject : SetupStep → String
  | .enter path => path
  | .openInput path => path
  | .openOutput target => target.path
  | .exec program _ => program

/-- Why it failed, as it is told. Only a bare name is one that is searched for. -/
def reason : SetupStep → Errno → String
  | .exec program _, e =>
    if e = .ENOENT ∧ '/' ∉ program.toList then "command not found" else e.describe
  | _, e => e.describe

/-- With which exit code the child ends. -/
def code : SetupStep → Errno → Nat
  | .exec _ _, e => if e = .ENOENT then 127 else if e = .EACCES then 126 else 1
  | _, _ => 1

lemma request_failed (step : SetupStep) (e : Errno) : (step.failed e).request = step.request := by
  cases step <;> rfl

lemma Done.request_eq {step : SetupStep} {x : Exchange Syscalls} (h : step.Done x) :
    x.request = step.request := by
  cases h <;> rfl

end SetupStep

/-- The steps of a child, in order. -/
def Child.steps (c : Child) : List SetupStep :=
  .enter c.workingDir ::
    (c.segment.input.toList.map .openInput ++ c.segment.output.toList.map .openOutput ++
      [.exec c.segment.program c.segment.argv])

/-- The line that tells the user of a failure, in the parts in which it is written. -/
def diagnosticParts (subject reason : String) : List String :=
  ["orbit: ", subject, ": ", reason, "\n"]

lemma join_diagnosticParts (subject reason : String) :
    String.join (diagnosticParts subject reason) =
      "orbit: " ++ subject ++ ": " ++ reason ++ "\n" := by
  simp [diagnosticParts, String.join, String.append_assoc]

/-- The calls that tell the user of a failure. -/
def diagnostic (subject reason : String) : List Syscall :=
  (diagnosticParts subject reason).map fun part => .write Fd.stderr (Text.bytes part)

lemma exists_of_mem_diagnostic {subject reason : String} {r : Syscall}
    (h : r ∈ diagnostic subject reason) : ∃ bytes, r = .write Fd.stderr bytes := by
  obtain ⟨part, -, rfl⟩ := List.mem_map.1 h
  exact ⟨_, rfl⟩

/-- The call is one that arranges the process and its descriptors, and no step. -/
def Syscall.isWiring : Syscall → Bool
  | .defaultSignals | .ownGroup | .close _ | .duplicate _ _ | .keepOnExec _ => true
  | _ => false

/-- `WiringFails x name e`: a descriptor could not be brought to its place, for which the user is
told the name of a call. -/
inductive WiringFails : Exchange Syscalls → String → Errno → Prop
  | duplicate (source target : Fd) (e : Errno) (fatal : e ≠ .EINTR) :
      WiringFails ⟨.duplicate source target, .error e⟩ "dup2" e
  | keepOnExec (fd : Fd) (e : Errno) : WiringFails ⟨.keepOnExec fd, .error e⟩ "fcntl" e

/-! ## The ways of a setup -/

/-- `GetsPast steps t left`: the exchanges bring a child that has these steps to take to where it
has `left` to take. -/
inductive GetsPast : List SetupStep → List (Exchange Syscalls) → List SetupStep → Prop
  | refl (steps : List SetupStep) : GetsPast steps [] steps
  | step {step : SetupStep} {x : Exchange Syscalls} {steps left : List SetupStep}
      {t : List (Exchange Syscalls)} (done : step.Done x) (rest : GetsPast steps t left) :
      GetsPast (step :: steps) (x :: t) left
  /-- The next opening is interrupted, and is still to be made. -/
  | again {step : SetupStep} {steps left : List SetupStep} {t : List (Exchange Syscalls)}
      (opens : step.opens = true) (rest : GetsPast (step :: steps) t left) :
      GetsPast (step :: steps) (step.failed .EINTR :: t) left
  | wiring {x : Exchange Syscalls} {steps left : List SetupStep} {t : List (Exchange Syscalls)}
      (arranges : x.request.isWiring = true) (rest : GetsPast steps t left) :
      GetsPast steps (x :: t) left

/-- `SetupRun steps t result`: the ways in which a setup can go that has these steps to take. -/
inductive SetupRun (steps : List SetupStep) : List (Exchange Syscalls) → Started → Prop
  | running {t : List (Exchange Syscalls)} (past : GetsPast steps t []) : SetupRun steps t .running
  /-- A step fails. That is told, and nothing else is done. -/
  | stepFails {t : List (Exchange Syscalls)} {step : SetupStep} {after : List SetupStep}
      {e : Errno} {told : List (Exchange Syscalls)} (past : GetsPast steps t (step :: after))
      (fatal : step.opens = true → e ≠ .EINTR)
      (tells : told.map (·.request) = diagnostic step.subject (step.reason e)) :
      SetupRun steps (t ++ step.failed e :: told) (.ended (step.code e))
  /-- The wiring fails between two steps. That is told, and nothing else is done. -/
  | wiringFails {t : List (Exchange Syscalls)} {next : SetupStep} {after : List SetupStep}
      {x : Exchange Syscalls} {name : String} {e : Errno} {told : List (Exchange Syscalls)}
      (past : GetsPast steps t (next :: after)) (fails : WiringFails x name e)
      (tells : told.map (·.request) = diagnostic name e.describe) :
      SetupRun steps (t ++ x :: told) (.ended 1)

namespace SetupRun

variable {step next : SetupStep} {steps : List SetupStep} {t : List (Exchange Syscalls)}
  {x : Exchange Syscalls} {result : Started}

/-- An exchange that gets from some steps to others can stand in front. -/
lemma of_getsPast {before : List SetupStep}
    (extend : ∀ {t left}, GetsPast steps t left → GetsPast before (x :: t) left)
    (h : SetupRun steps t result) : SetupRun before (x :: t) result := by
  cases h with
  | running past => exact .running (extend past)
  | stepFails past fatal tells => exact .stepFails (extend past) fatal tells
  | wiringFails past fails tells => exact .wiringFails (extend past) fails tells

lemma cons_done (done : step.Done x) (h : SetupRun steps t result) :
    SetupRun (step :: steps) (x :: t) result :=
  h.of_getsPast fun past => .step done past

lemma cons_interrupted (opens : step.opens = true) (h : SetupRun (step :: steps) t result) :
    SetupRun (step :: steps) (step.failed .EINTR :: t) result :=
  h.of_getsPast fun past => .again opens past

lemma cons_wiring (arranges : x.request.isWiring = true) (h : SetupRun steps t result) :
    SetupRun steps (x :: t) result :=
  h.of_getsPast fun past => .wiring arranges past

end SetupRun

/-! ## The parts of a setup -/

namespace Child

/-- A part of a setup that has these steps to take. -/
def Takes (part : Dialogue Syscalls Started) (steps : List SetupStep) : Prop :=
  ∀ t result, part.Runs t result → SetupRun steps t result

variable {next : Dialogue Syscalls Started} {step first : SetupStep} {steps : List SetupStep}
  {t : List (Exchange Syscalls)} {result : Started}

lemma runs_tell {parts : List String} {first : Started}
    (h : (tell parts (.done first)).Runs t result) :
    t.map (·.request) = parts.map (fun part => .write Fd.stderr (Text.bytes part)) ∧
      result = first := by
  induction parts generalizing t with
  | nil =>
    obtain ⟨rfl, rfl⟩ := runs_done_iff.1 h
    exact ⟨rfl, rfl⟩
  | cons part parts ih =>
    obtain ⟨answer, rest, rfl, later⟩ := runs_call_bind_iff.1 h
    obtain ⟨requests, rfl⟩ := ih later
    exact ⟨congrArg _ requests, rfl⟩

/-- To end is to tell why, and nothing else. -/
lemma runs_die {subject reason : String} {code : Nat}
    (h : (die subject reason code).Runs t result) :
    t.map (·.request) = diagnostic subject reason ∧ result = .ended code :=
  runs_tell h

/-- A step that fails in front of a report is one that fails at once. -/
lemma setupRun_of_failed {e : Errno} {x : Exchange Syscalls} {subject reason : String}
    {code : Nat} (fatal : step.opens = true → e ≠ .EINTR) (exchange : x = step.failed e)
    (named : subject = step.subject) (explained : reason = step.reason e)
    (ends : code = step.code e) (h : (die subject reason code).Runs t result) :
    SetupRun (step :: steps) (x :: t) result := by
  obtain ⟨tells, rfl⟩ := runs_die h
  subst exchange named explained ends
  exact .stepFails (.refl _) fatal tells

lemma setupRun_of_wiringFails {x : Exchange Syscalls} {name : String} {e : Errno}
    (fails : WiringFails x name e) (h : (die name e.describe setupFailed).Runs t result) :
    SetupRun (step :: steps) (x :: t) result := by
  obtain ⟨tells, rfl⟩ := runs_die h
  exact .wiringFails (.refl _) fails tells

/-- With which code the child ends whose program could not be started, and why. -/
lemma execFailure_eq {program : String} (argv : List String) (e : Errno) :
    execFailure program e =
      ((SetupStep.exec program argv).code e, (SetupStep.exec program argv).reason e) := by
  unfold execFailure SetupStep.code SetupStep.reason
  by_cases missing : e = .ENOENT
  · subst missing
    by_cases path : '/' ∈ program.toList <;> simp [path, notFound]
  · simp only [missing, if_false, false_and]
    split <;> rfl

lemma start_takes (segment : Segment) :
    Takes (start segment) [.exec segment.program segment.argv] := by
  intro t result h
  obtain ⟨answer, rest, rfl, hnext⟩ := runs_call_bind_iff.1 h
  cases answer with
  | none =>
    obtain ⟨rfl, rfl⟩ := runs_done_iff.1 hnext
    exact .cons_done (.exec _ _) (.running (.refl _))
  | some e =>
    change (die segment.program (execFailure segment.program e).2
      (execFailure segment.program e).1).Runs rest result at hnext
    rw [execFailure_eq segment.argv] at hnext
    exact setupRun_of_failed (by simp [SetupStep.opens]) rfl rfl rfl rfl hnext

lemma attach_takes (fd target : Fd) (some : steps ≠ []) (h : Takes next steps) :
    Takes (attach fd target next) steps := by
  obtain ⟨step, steps, rfl⟩ := List.exists_cons_of_ne_nil some
  intro t result run
  unfold attach at run
  split at run
  · obtain ⟨answer, rest, rfl, hnext⟩ := runs_call_bind_iff.1 run
    cases answer with
    | error e => exact setupRun_of_wiringFails (.keepOnExec fd e) hnext
    | ok _ => exact (h _ _ hnext).cons_wiring rfl
  · obtain ⟨vain, answer, settles, rest, unsettled, rfl, hnext⟩ := runs_ask_iff.1 run
    -- the answer that counts is the last, after all that were asked in vain
    have last : SetupRun (step :: steps) (⟨.duplicate fd target, answer⟩ :: rest) result := by
      cases answer with
      | error e =>
        exact setupRun_of_wiringFails (.duplicate fd target e (by simpa [wasInterrupted] using
          settles)) hnext
      | ok _ =>
        obtain ⟨closed, rest, rfl, hlast⟩ := runs_call_bind_iff.1 hnext
        exact ((h _ _ hlast).cons_wiring rfl).cons_wiring rfl
    clear unsettled run
    -- an interrupted call of the wiring is one more that arranges nothing
    induction vain with
    | nil => exact last
    | cons v vain ih => exact ih.cons_wiring rfl

lemma attachPipe_takes (fd : Option Fd) (target : Fd) (some : steps ≠ [])
    (h : Takes next steps) : Takes (attachPipe fd target next) steps := by
  cases fd with
  | none => exact h
  | some fd => exact attach_takes fd target some h

/-- Opening a file is a step, and attaching it takes no further one. -/
lemma attachFile_takes (first : SetupStep) {path : String} {mode : OpenMode} {target : Fd}
    (opens : first.opens = true) (named : path = first.subject)
    (failure : ∀ e, first.failed e = ⟨.openFile path mode true, .error e⟩)
    (success : ∀ fd, first.Done ⟨.openFile path mode true, .ok fd⟩) (some : steps ≠ [])
    (h : Takes next steps) : Takes (attachFile path mode target next) (first :: steps) := by
  intro t result run
  obtain ⟨vain, answer, settles, rest, unsettled, rfl, hnext⟩ := runs_ask_iff.1 run
  have last : SetupRun (first :: steps) (⟨.openFile path mode true, answer⟩ :: rest) result := by
    cases answer with
    | error e =>
      have fatal : e ≠ .EINTR := by simpa [wasInterrupted] using settles
      refine setupRun_of_failed (fun _ => fatal) (failure e).symm named ?_ ?_ hnext
      · cases first <;> first | rfl | cases opens
      · cases first <;> first | rfl | cases opens
    | ok fd => exact ((attach_takes fd target some h) _ _ hnext).cons_done (success fd)
  clear run
  -- opening again is part of the same step
  induction vain with
  | nil => exact last
  | cons v vain ih =>
    obtain ⟨interrupted, others⟩ := List.forall_mem_cons.1 unsettled
    clear unsettled
    cases v with
    | ok fd => cases interrupted
    | error e =>
      obtain rfl : e = .EINTR := by simpa [wasInterrupted] using interrupted
      have vainly := (ih others).cons_interrupted opens
      rwa [failure] at vainly

lemma attachOutput_takes (segment : Segment) (some : steps ≠ []) (h : Takes next steps) :
    Takes (attachOutput segment next) (segment.output.toList.map .openOutput ++ steps) := by
  unfold attachOutput
  cases segment.output with
  | none => exact h
  | some target =>
    dsimp only
    rw [openMode_outputFlags]
    exact attachFile_takes (.openOutput target) rfl rfl (fun _ => rfl) (.openOutput target) some h

lemma attachInput_takes (segment : Segment) (some : steps ≠ []) (h : Takes next steps) :
    Takes (attachInput segment next) (segment.input.toList.map .openInput ++ steps) := by
  unfold attachInput
  cases segment.input with
  | none => exact h
  | some path =>
    exact attachFile_takes (.openInput path) rfl rfl (fun _ => rfl) (.openInput path) some h

lemma furnish_takes (c : Child) : Takes c.furnish c.steps := by
  intro t result run
  rw [furnish_eq] at run
  obtain ⟨answer, rest, rfl, hnext⟩ := runs_call_bind_iff.1 run
  cases answer with
  | error e => exact setupRun_of_failed (by simp [SetupStep.opens]) rfl rfl rfl rfl hnext
  | ok _ =>
    have output := attachOutput_takes c.segment (by simp) (start_takes c.segment)
    have input := attachInput_takes c.segment (by simp) output
    have outfit : Takes c.outfit _ :=
      attachPipe_takes _ _ (by simp) (attachPipe_takes _ _ (by simp) input)
    have later := outfit _ _ hnext
    rw [← List.append_assoc] at later
    exact later.cons_done (.enter c.workingDir)

/-- There are no other ways for a setup to go. -/
theorem setupRun_of_runs (c : Child) : Takes c.setup c.steps := by
  intro t result run
  rw [setup_eq] at run
  obtain ⟨_, rest, rfl, hnext⟩ := runs_call_bind_iff.1 run
  have dropped : Takes (c.dropUnused c.furnish) c.steps := by
    unfold dropUnused
    split
    · exact c.furnish_takes
    · intro t result run
      obtain ⟨_, rest, rfl, hlast⟩ := runs_call_bind_iff.1 run
      exact (c.furnish_takes _ _ hlast).cons_wiring rfl
  refine SetupRun.cons_wiring rfl ?_
  unfold joinGroup at hnext
  split at hnext
  · obtain ⟨_, rest, rfl, hlast⟩ := runs_call_bind_iff.1 hnext
    exact (dropped _ _ hlast).cons_wiring rfl
  · exact dropped _ _ hnext

/-- A part of a setup in which every call has an answer that settles it. -/
abbrev Settles (part : Dialogue Syscalls Started) : Prop :=
  part.Asks fun _ again => ∃ answer, again answer = false

lemma settles_die (subject reason : String) (code : Nat) : Settles (die subject reason code) := by
  have told (parts : List String) : Settles (tell parts (.done (.ended code))) := by
    induction parts with
    | nil => exact trivial
    | cons part parts ih => exact ⟨⟨Except.ok (), rfl⟩, fun _ _ => ih⟩
  exact told _

lemma settles_attach (fd target : Fd) (h : Settles next) : Settles (attach fd target next) := by
  unfold attach
  split
  · refine ⟨⟨Except.ok (), rfl⟩, fun answer _ => ?_⟩
    cases answer with
    | error e => exact settles_die _ _ _
    | ok _ => exact h
  · refine ⟨⟨Except.ok (), rfl⟩, fun answer _ => ?_⟩
    cases answer with
    | error e => exact settles_die _ _ _
    | ok _ => exact ⟨⟨Except.ok (), rfl⟩, fun _ _ => h⟩

lemma settles_attachPipe (fd : Option Fd) (target : Fd) (h : Settles next) :
    Settles (attachPipe fd target next) := by
  cases fd with
  | none => exact h
  | some fd => exact settles_attach fd target h

lemma settles_attachFile (path : String) (mode : OpenMode) (target : Fd) (h : Settles next) :
    Settles (attachFile path mode target next) := by
  refine ⟨⟨Except.ok (0 : Fd), rfl⟩, fun answer _ => ?_⟩
  cases answer with
  | error e => exact settles_die _ _ _
  | ok fd => exact settles_attach fd target h

lemma settles_start (segment : Segment) : Settles (start segment) := by
  refine ⟨⟨(none : Option Errno), rfl⟩, fun answer _ => ?_⟩
  cases answer with
  | none => exact trivial
  | some e => exact settles_die _ _ _

lemma settles_outfit (c : Child) : Settles c.outfit := by
  refine settles_attachPipe _ _ (settles_attachPipe _ _ ?_)
  have output : Settles (attachOutput c.segment (start c.segment)) := by
    unfold attachOutput
    split
    · exact settles_start _
    · exact settles_attachFile _ _ _ (settles_start _)
  unfold attachInput
  split
  · exact output
  · exact settles_attachFile _ _ _ output

/-- A setup can come to an end at every stage, so what is true of all its runs says something about
all its stages. -/
lemma exists_runs_append (c : Child) {rest : Dialogue Syscalls Started}
    (h : c.setup.Reaches t rest) : ∃ u result, c.setup.Runs (t ++ u) result := by
  have furnish : Settles c.furnish := by
    refine ⟨⟨Except.ok (), rfl⟩, fun answer _ => ?_⟩
    cases answer with
    | error e => exact settles_die _ _ _
    | ok _ => exact c.settles_outfit
  have dropped : Settles (c.dropUnused c.furnish) := by
    unfold dropUnused
    split
    · exact furnish
    · exact ⟨⟨Except.ok (), rfl⟩, fun _ _ => furnish⟩
  have setup : Settles c.setup := by
    rw [setup_eq]
    refine ⟨⟨(), rfl⟩, fun _ _ => ?_⟩
    unfold joinGroup
    split
    · exact ⟨⟨(), rfl⟩, fun _ _ => dropped⟩
    · exact dropped
  obtain ⟨u, result, run⟩ := Asks.exists_runs (fun _ _ settles => settles) (setup.of_reaches h)
  exact ⟨u, result, h.runs_append run⟩

end Child

/-! ## What is not done any more -/

namespace SetupStep

/-- Which place a step has in the order. -/
def rank : SetupStep → Nat
  | .enter _ => 0
  | .openInput _ => 1
  | .openOutput _ => 2
  | .exec _ _ => 3

variable {first second : SetupStep}

lemma rank_eq_of_request_eq (h : first.request = second.request) : first.rank = second.rank := by
  cases first <;> cases second <;> first | rfl | simp [request] at h

lemma request_not_wiring (step : SetupStep) : step.request.isWiring = false := by
  cases step <;> rfl

lemma request_not_mem_diagnostic (step : SetupStep) (subject reason : String) :
    step.request ∉ diagnostic subject reason := by
  intro told
  obtain ⟨bytes, h⟩ := exists_of_mem_diagnostic told
  cases step <;> cases h

lemma opens_of_request_eq (h : first.request = second.request) (opens : second.opens = true) :
    first.opens = true := by
  cases first <;> cases second <;>
    first
    | rfl
    | exact absurd opens Bool.false_ne_true
    | simp [request] at h

/-- The error with which a step fails, if the exchange is one in which a step does. -/
def refusal? : Exchange Syscalls → Option Errno
  | ⟨.enter _, .error e⟩ => some e
  | ⟨.openFile _ _ _, .error e⟩ => some e
  | ⟨.exec _ _, some e⟩ => some e
  | _ => none

lemma refusal?_failed (step : SetupStep) (e : Errno) : refusal? (step.failed e) = some e := by
  cases step <;> rfl

lemma Done.refusal?_eq_none {step : SetupStep} {x : Exchange Syscalls} (h : step.Done x) :
    refusal? x = none := by
  cases h <;> rfl

end SetupStep

lemma Child.steps_sorted (c : Child) :
    c.steps.Pairwise fun first second => first.rank < second.rank := by
  unfold steps
  cases c.segment.input <;> cases c.segment.output <;> simp [SetupStep.rank]

namespace GetsPast

variable {steps left : List SetupStep} {t : List (Exchange Syscalls)}

/-- The calls of a child on its way: it arranges things, it takes the steps that it gets past, and
it opens files in vain. -/
lemma exists_taken (h : GetsPast steps t left) :
    ∃ taken, steps = taken ++ left ∧ ∀ x ∈ t, x.request.isWiring = true ∨
      (∃ step ∈ taken, step.Done x) ∨
        ∃ step ∈ taken ++ left.head?.toList, step.opens = true ∧ x = step.failed .EINTR := by
  induction h with
  | refl steps => exact ⟨[], rfl, fun x hx => absurd hx List.not_mem_nil⟩
  | @step first x steps left t done rest ih =>
    obtain ⟨taken, rfl, calls⟩ := ih
    refine ⟨first :: taken, rfl, List.forall_mem_cons.2 ⟨?_, fun x hx => ?_⟩⟩
    · exact .inr (.inl ⟨first, List.mem_cons_self, done⟩)
    · rcases calls x hx with wiring | ⟨step, hstep, done⟩ | ⟨step, hstep, vain⟩
      · exact .inl wiring
      · exact .inr (.inl ⟨step, List.mem_cons_of_mem _ hstep, done⟩)
      · exact .inr (.inr ⟨step, List.mem_cons_of_mem _ hstep, vain⟩)
  | @again first steps left t opens rest ih =>
    obtain ⟨taken, hsteps, calls⟩ := ih
    refine ⟨taken, hsteps, List.forall_mem_cons.2 ⟨?_, calls⟩⟩
    refine .inr (.inr ⟨first, ?_, opens, rfl⟩)
    -- the step that is about to be taken is the first of those that are taken, or of those left
    cases taken with
    | nil =>
      rw [List.nil_append] at hsteps
      rw [← hsteps]
      exact List.mem_cons_self
    | cons step taken =>
      cases hsteps
      exact List.mem_cons_self
  | wiring arranges rest ih =>
    obtain ⟨taken, hsteps, calls⟩ := ih
    exact ⟨taken, hsteps, List.forall_mem_cons.2 ⟨.inl arranges, calls⟩⟩

lemma not_mem_failed (h : GetsPast steps t left) {step : SetupStep} {e : Errno}
    (fatal : step.opens = true → e ≠ .EINTR) : step.failed e ∉ t := by
  intro failed
  obtain ⟨taken, -, calls⟩ := h.exists_taken
  rcases calls _ failed with wiring | ⟨other, -, done⟩ | ⟨other, -, opens, same⟩
  · rw [step.request_failed, step.request_not_wiring] at wiring
    cases wiring
  · have refused := step.refusal?_failed e
    rw [done.refusal?_eq_none] at refused
    cases refused
  · have reasons := congrArg SetupStep.refusal? same
    have requests := congrArg Exchange.request same
    rw [SetupStep.refusal?_failed, SetupStep.refusal?_failed] at reasons
    rw [SetupStep.request_failed, SetupStep.request_failed] at requests
    exact fatal (SetupStep.opens_of_request_eq requests opens) (Option.some.inj reasons)

/-- What a child has done that is about to take a step is wiring, or belongs to that step or to an
earlier one. -/
lemma rank_le {step : SetupStep} {after : List SetupStep} (h : GetsPast steps t (step :: after))
    (sorted : steps.Pairwise fun first second => first.rank < second.rank)
    {x : Exchange Syscalls} (hx : x ∈ t) :
    x.request.isWiring = true ∨ ∃ earlier : SetupStep, earlier.rank ≤ step.rank ∧
      x.request = earlier.request := by
  obtain ⟨taken, rfl, calls⟩ := h.exists_taken
  have earlier (s : SetupStep) (hs : s ∈ taken) : s.rank < step.rank :=
    (List.pairwise_append.1 sorted).2.2 s hs step List.mem_cons_self
  rcases calls x hx with wiring | ⟨s, hs, done⟩ | ⟨s, hs, -, rfl⟩
  · exact .inl wiring
  · exact .inr ⟨s, Nat.le_of_lt (earlier s hs), done.request_eq⟩
  · refine .inr ⟨s, ?_, s.request_failed _⟩
    rcases List.mem_append.1 hs with hs | hs
    · exact Nat.le_of_lt (earlier s hs)
    · obtain rfl := List.mem_singleton.1 hs
      exact Nat.le_refl _

end GetsPast

/-- What an exchange of a setup is. -/
inductive SetupCall (steps : List SetupStep) : Exchange Syscalls → Prop
  | wiring {x : Exchange Syscalls} (arranges : x.request.isWiring = true) : SetupCall steps x
  | done {step : SetupStep} {x : Exchange Syscalls} (own : step ∈ steps) (done : step.Done x) :
      SetupCall steps x
  | failed {step : SetupStep} {e : Errno} (own : step ∈ steps) : SetupCall steps (step.failed e)
  | told {x : Exchange Syscalls} (subject reason : String)
      (tells : x.request ∈ diagnostic subject reason) : SetupCall steps x

lemma SetupCall.request_cases {steps : List SetupStep} {x : Exchange Syscalls}
    (h : SetupCall steps x) :
    x.request.isWiring = true ∨ (∃ step ∈ steps, x.request = step.request) ∨
      ∃ subject reason, x.request ∈ diagnostic subject reason := by
  cases h with
  | wiring arranges => exact .inl arranges
  | done own done => exact .inr (.inl ⟨_, own, done.request_eq⟩)
  | @failed step e own => exact .inr (.inl ⟨step, own, step.request_failed e⟩)
  | told subject reason tells => exact .inr (.inr ⟨subject, reason, tells⟩)

lemma GetsPast.setupCall {steps left : List SetupStep} {t : List (Exchange Syscalls)}
    (h : GetsPast steps t left) : ∀ x ∈ t, SetupCall steps x := by
  obtain ⟨taken, rfl, calls⟩ := h.exists_taken
  intro x hx
  rcases calls x hx with wiring | ⟨step, hstep, done⟩ | ⟨step, hstep, -, rfl⟩
  · exact .wiring wiring
  · exact .done (List.mem_append_left _ hstep) done
  · refine .failed ?_
    rcases List.mem_append.1 hstep with hstep | hstep
    · exact List.mem_append_left _ hstep
    · exact List.mem_append_right _ (List.mem_of_mem_head? (Option.mem_toList.1 hstep))

/-- Every exchange of a setup arranges something, belongs to a step, or tells of a failure. -/
theorem SetupRun.setupCall {steps : List SetupStep} {t : List (Exchange Syscalls)}
    {result : Started} (h : SetupRun steps t result) : ∀ x ∈ t, SetupCall steps x := by
  cases h with
  | running past => exact past.setupCall
  | @stepFails t step after e told past fatal tells =>
    obtain ⟨taken, hsteps, -⟩ := past.exists_taken
    refine List.forall_mem_append.2 ⟨past.setupCall, List.forall_mem_cons.2 ⟨.failed ?_, ?_⟩⟩
    · rw [hsteps]
      exact List.mem_append_right _ List.mem_cons_self
    · exact fun x hx => .told _ _ (tells ▸ List.mem_map_of_mem hx)
  | wiringFails past fails tells =>
    refine List.forall_mem_append.2 ⟨past.setupCall, List.forall_mem_cons.2 ⟨.wiring ?_, ?_⟩⟩
    · cases fails <;> rfl
    · exact fun x hx => .told _ _ (tells ▸ List.mem_map_of_mem hx)

/-- **After a failed step nothing is tried any more.** If a step has failed, then no later step is
asked for at any time. -/
lemma SetupRun.not_requested {steps : List SetupStep} {t : List (Exchange Syscalls)}
    {result : Started} (h : SetupRun steps t result)
    (sorted : steps.Pairwise fun first second => first.rank < second.rank)
    {step later : SetupStep} {e : Errno} (fatal : step.opens = true → e ≠ .EINTR)
    (failed : step.failed e ∈ t) (order : step.rank < later.rank) :
    ∀ x ∈ t, x.request ≠ later.request := by
  cases h with
  | running past => exact absurd failed (past.not_mem_failed fatal)
  | @wiringFails t next after x name e' told past fails tells =>
    -- then the failure would be one of the wiring, or the report
    exfalso
    rcases List.mem_append.1 failed with failed | failed
    · exact past.not_mem_failed fatal failed
    · rcases List.mem_cons.1 failed with same | failed
      · have wiring : x.request.isWiring = true := by cases fails <;> rfl
        rw [← same, step.request_failed, step.request_not_wiring] at wiring
        cases wiring
      · have same : (step.failed e).request ∈ diagnostic name e'.describe :=
          tells ▸ List.mem_map_of_mem failed
        rw [step.request_failed] at same
        exact step.request_not_mem_diagnostic _ _ same
  | @stepFails t first after e' told past fatal' tells =>
    have same : step.rank = first.rank := by
      rcases List.mem_append.1 failed with failed | failed
      · exact absurd failed (past.not_mem_failed fatal)
      · rcases List.mem_cons.1 failed with same | failed
        · have requests := congrArg Exchange.request same
          rw [step.request_failed, first.request_failed] at requests
          exact SetupStep.rank_eq_of_request_eq requests
        · have same : (step.failed e).request ∈ diagnostic first.subject (first.reason e') :=
            tells ▸ List.mem_map_of_mem failed
          rw [step.request_failed] at same
          exact absurd same (step.request_not_mem_diagnostic _ _)
    -- steps of another rank ask for other things
    have other {earlier : SetupStep} (early : earlier.rank ≤ first.rank) :
        earlier.request ≠ later.request := by
      intro requests
      have ranks := SetupStep.rank_eq_of_request_eq requests
      omega
    intro x hx requested
    rcases List.mem_append.1 hx with hx | hx
    · rcases past.rank_le sorted hx with wiring | ⟨earlier, early, hearlier⟩
      · rw [requested, later.request_not_wiring] at wiring
        cases wiring
      · exact other early (hearlier.symm.trans requested)
    · rcases List.mem_cons.1 hx with rfl | hx
      · exact other (Nat.le_refl _) ((first.request_failed e').symm.trans requested)
      · have told : x.request ∈ diagnostic first.subject (first.reason e') :=
          tells ▸ List.mem_map_of_mem hx
        rw [requested] at told
        exact later.request_not_mem_diagnostic _ _ told

end CommandShell
