import CommandShell.Proofs.Wait

/-!
# Transcripts of a launch

Everything that starting a plan can do, once and for all. `LaunchRun` has a constructor for each
way in which a launch can go, with its whole transcript and its result, `LaunchRun.of_runs` says
that there are no others, and `LaunchRun.runs` that each of them can happen. What is proved
elsewhere about launches is a case analysis of it.

A launch that is refused for a NUL character has an empty transcript; `Plan.nul?_eq_none_iff` says
when that does not happen.
-/

namespace CommandShell

/-! ## Strings without NUL characters -/

lemma nulPosition?_eq_none_iff {cs : List Char} : nulPosition? cs = none ↔ '\x00' ∉ cs := by
  induction cs with
  | nil => simp [nulPosition?]
  | cons c rest ih =>
    by_cases hc : c = '\x00'
    · simp [nulPosition?, hc]
    · simp [nulPosition?, hc, ih, Ne.symm hc]

/-- A plan can be started in a directory if none of the strings concerned has a NUL character. -/
theorem Plan.nul?_eq_none_iff {plan : Plan} {workingDir : String} :
    plan.nul? workingDir = none ↔ ∀ s ∈ plan.strings workingDir, '\x00' ∉ s.toList := by
  simp only [Plan.nul?, List.findSome?_eq_none_iff, nulPosition?_eq_none_iff]

/-! ## The children of a plan -/

namespace Plan

/-- The child of a plan without a pipe. -/
def onlyChild (plan : Plan) (workingDir : String) : Child :=
  ⟨plan.left, workingDir, { ownGroup := plan.background }⟩

/-- The child that writes to the pipe. -/
def writingChild (plan : Plan) (workingDir : String) (read write : Fd) : Child :=
  ⟨plan.left, workingDir, ⟨none, some write, some read, plan.background⟩⟩

/-- The child that reads from the pipe. -/
def readingChild (plan : Plan) (right : Segment) (workingDir : String) (read write : Fd) : Child :=
  ⟨right, workingDir, ⟨some read, none, some write, plan.background⟩⟩

/-- The children that starting a plan in a directory can make. -/
inductive Makes (plan : Plan) (workingDir : String) : Child → Prop
  | only (single : plan.right = none) : plan.Makes workingDir (plan.onlyChild workingDir)
  | reading {right : Segment} {read write : Fd} (piped : plan.right = some right) :
      plan.Makes workingDir (plan.readingChild right workingDir read write)
  | writing {right : Segment} {read write : Fd} (piped : plan.right = some right) :
      plan.Makes workingDir (plan.writingChild workingDir read write)

end Plan

/-- The exchanges that make a child. -/
def started (child : Child) (pid : Pid) : List Traffic :=
  ⟨.fork child, .ok pid⟩ :: if child.wiring.ownGroup then [⟨.ownGroup pid, ()⟩] else []

/-- The exchanges that close a pipe, with the answers to them. -/
def closing (read write : Fd) (first second : Except Errno Unit) : List Traffic :=
  [⟨.close read, first⟩, ⟨.close write, second⟩]

/-- The exchanges of a launch that has a pipe: the pipe is opened, children are made, the pipe is
closed, and a child may be left to wait for. -/
def throughPipe (read write : Fd) (making : List Traffic) (first second : Except Errno Unit)
    (waiting : List Traffic) : List Traffic :=
  ⟨.makePipe, .ok (read, write)⟩ :: (making ++ (closing read write first second ++ waiting))

lemma runs_spawn_iff {child : Child} {t : List Traffic} {result : Except LaunchError Pid} :
    (spawn child).Runs t result ↔
      (∃ errno, t = [⟨.fork child, .error errno⟩] ∧ result = .error (.failed .fork errno)) ∨
        ∃ pid, t = started child pid ∧ result = .ok pid := by
  unfold spawn
  refine Shell.runs_call_bind_iff.trans ⟨?_, ?_⟩
  · rintro ⟨answer, rest, rfl, h⟩
    cases answer with
    | error errno =>
      obtain ⟨rfl, rfl⟩ := Dialogue.runs_done_iff.1 h
      exact .inl ⟨errno, rfl, rfl⟩
    | ok pid =>
      refine .inr ⟨pid, ?_⟩
      -- a child that gets a group of its own is put there by one more call
      by_cases hg : child.wiring.ownGroup = true
      · simp only [hg, if_true] at h
        obtain ⟨_, rest, rfl, hdone⟩ := Shell.runs_call_bind_iff.1 h
        obtain ⟨rfl, rfl⟩ := Dialogue.runs_done_iff.1 hdone
        refine ⟨?_, rfl⟩
        simp only [started, hg, if_true]
        rfl
      · simp only [hg] at h
        obtain ⟨rfl, rfl⟩ := Dialogue.runs_done_iff.1 h
        simp [started, hg]
  · rintro (⟨errno, rfl, rfl⟩ | ⟨pid, rfl, rfl⟩)
    · exact ⟨.error errno, [], rfl, .done _⟩
    · refine ⟨.ok pid, _, rfl, ?_⟩
      by_cases hg : child.wiring.ownGroup = true
      · simp only [hg, if_true]
        exact Shell.runs_call_bind_iff.2 ⟨(), [], rfl, .done _⟩
      · simp only [hg]
        exact .done _

lemma runs_closePipe_iff {read write : Fd} {t : List Traffic} {result : Unit} :
    (closePipe read write).Runs t result ↔ ∃ first second, t = closing read write first second := by
  unfold closePipe
  refine Shell.runs_call_bind_iff.trans ⟨?_, ?_⟩
  · rintro ⟨first, rest, rfl, h⟩
    obtain ⟨second, rest, rfl, hdone⟩ := Shell.runs_call_bind_iff.1 h
    obtain ⟨rfl, _⟩ := Dialogue.runs_done_iff.1 hdone
    exact ⟨first, second, rfl⟩
  · rintro ⟨first, second, rfl⟩
    refine ⟨first, _, rfl, Shell.runs_call_bind_iff.2 ⟨second, [], rfl, .done _⟩⟩

/-! ## The ways of a launch -/

/-- `LaunchRun plan workingDir t result`: the ways in which starting a plan in a directory can go,
with the transcript and the result of each. -/
inductive LaunchRun (plan : Plan) (workingDir : String) :
    List Traffic → Except LaunchError Job → Prop
  /-- A string has a NUL character, so nothing is done. -/
  | refused {position : Nat} (nul : plan.nul? workingDir = some position) :
      LaunchRun plan workingDir [] (.error (.nul position))
  /-- The only child cannot be made. -/
  | onlyFailed {errno : Errno} (nul : plan.nul? workingDir = none) (single : plan.right = none) :
      LaunchRun plan workingDir [⟨.fork (plan.onlyChild workingDir), .error errno⟩]
        (.error (.failed .fork errno))
  /-- The only child is made. -/
  | only {pid : Pid} (nul : plan.nul? workingDir = none) (single : plan.right = none) :
      LaunchRun plan workingDir (started (plan.onlyChild workingDir) pid)
        (.ok ⟨[pid], plan.background⟩)
  /-- There is no pipe to be had. -/
  | pipeFailed {right : Segment} {errno : Errno} (nul : plan.nul? workingDir = none)
      (piped : plan.right = some right) :
      LaunchRun plan workingDir [⟨.makePipe, .error errno⟩] (.error (.failed .pipe errno))
  /-- The right side cannot be made, and the pipe is closed. -/
  | rightFailed {right : Segment} {read write : Fd} {errno : Errno}
      {first second : Except Errno Unit} (nul : plan.nul? workingDir = none)
      (piped : plan.right = some right) :
      LaunchRun plan workingDir
        (throughPipe read write
          [⟨.fork (plan.readingChild right workingDir read write), .error errno⟩] first second [])
        (.error (.failed .fork errno))
  /-- The left side cannot be made: the pipe is closed, and the right side is waited for. -/
  | leftFailed {right : Segment} {read write : Fd} {rightPid : Pid} {errno : Errno}
      {first second : Except Errno Unit} {waiting : List Traffic}
      {ending : Except WaitError JobStatus} (nul : plan.nul? workingDir = none)
      (piped : plan.right = some right) (waits : (Job.waitFor rightPid).Runs waiting ending) :
      LaunchRun plan workingDir
        (throughPipe read write (started (plan.readingChild right workingDir read write) rightPid ++
          [⟨.fork (plan.writingChild workingDir read write), .error errno⟩]) first second waiting)
        (.error (.failed .fork errno))
  /-- Both sides are made, and the pipe is closed. -/
  | pipeline {right : Segment} {read write : Fd} {leftPid rightPid : Pid}
      {first second : Except Errno Unit} (nul : plan.nul? workingDir = none)
      (piped : plan.right = some right) :
      LaunchRun plan workingDir
        (throughPipe read write (started (plan.readingChild right workingDir read write) rightPid ++
          started (plan.writingChild workingDir read write) leftPid) first second [])
        (.ok ⟨[leftPid, rightPid], plan.background⟩)

lemma Job.runs_wait_singleton {pid : Pid} {t : List Traffic}
    {result : Except WaitError JobStatus} {background : Bool}
    (h : (Job.wait ⟨[pid], background⟩).Runs t result) : (Job.waitFor pid).Runs t result := by
  obtain ⟨t₁, t₂, first, rfl, hwait, hrest⟩ := Job.runs_waitAll_cons_iff.1 h
  obtain ⟨rfl, rfl⟩ := Dialogue.runs_done_iff.1 hrest
  simpa [Job.combine] using hwait

/-- The transcript of a pipeline whose pipe is open. -/
lemma LaunchRun.of_runs_launchSides {plan : Plan} {right : Segment} {workingDir : String}
    {read write : Fd} {t : List Traffic} {result : Except LaunchError Job}
    (nul : plan.nul? workingDir = none) (piped : plan.right = some right)
    (h : (launchSides plan.left right workingDir plan.background read write).Runs t result) :
    LaunchRun plan workingDir (⟨.makePipe, .ok (read, write)⟩ :: t) result := by
  unfold launchSides at h
  obtain ⟨_, t, rightSide, rfl, hright, hnext⟩ := Dialogue.runs_bind_iff.1 h
  -- whichever fork fails, both ends of the pipe are closed behind the last one tried
  rcases runs_spawn_iff.1 hright with ⟨errno, rfl, rfl⟩ | ⟨rightPid, rfl, rfl⟩
  · obtain ⟨_, t, _, rfl, hclose, hdone⟩ := Dialogue.runs_bind_iff.1 hnext
    obtain ⟨first, second, rfl⟩ := runs_closePipe_iff.1 hclose
    obtain ⟨rfl, rfl⟩ := Dialogue.runs_done_iff.1 hdone
    exact .rightFailed nul piped
  · obtain ⟨_, t, leftSide, rfl, hleft, hnext⟩ := Dialogue.runs_bind_iff.1 hnext
    obtain ⟨_, t, _, rfl, hclose, hlast⟩ := Dialogue.runs_bind_iff.1 hnext
    obtain ⟨first, second, rfl⟩ := runs_closePipe_iff.1 hclose
    rcases runs_spawn_iff.1 hleft with ⟨errno, rfl, rfl⟩ | ⟨leftPid, rfl, rfl⟩
    · obtain ⟨waiting, _, ending, rfl, hwait, hdone⟩ := Dialogue.runs_bind_iff.1 hlast
      obtain ⟨rfl, rfl⟩ := Dialogue.runs_done_iff.1 hdone
      rw [List.append_nil, ← List.append_assoc (started _ _)]
      exact .leftFailed nul piped (Job.runs_wait_singleton hwait)
    · obtain ⟨rfl, rfl⟩ := Dialogue.runs_done_iff.1 hlast
      rw [← List.append_assoc (started _ _)]
      exact .pipeline nul piped

/-- There are no other ways for a launch to go. -/
theorem LaunchRun.of_runs {plan : Plan} {workingDir : String} {t : List Traffic}
    {result : Except LaunchError Job} (h : (launch plan workingDir).Runs t result) :
    LaunchRun plan workingDir t result := by
  unfold launch at h
  cases hn : plan.nul? workingDir with
  | some position =>
    simp only [hn] at h
    obtain ⟨rfl, rfl⟩ := Dialogue.runs_done_iff.1 h
    exact .refused hn
  | none =>
    simp only [hn] at h
    cases hr : plan.right with
    | none =>
      simp only [hr] at h
      obtain ⟨_, _, only, rfl, hspawn, hdone⟩ := Dialogue.runs_bind_iff.1 h
      rcases runs_spawn_iff.1 hspawn with ⟨errno, rfl, rfl⟩ | ⟨pid, rfl, rfl⟩
      · obtain ⟨rfl, rfl⟩ := Dialogue.runs_done_iff.1 hdone
        exact .onlyFailed hn hr
      · obtain ⟨rfl, rfl⟩ := Dialogue.runs_done_iff.1 hdone
        rw [List.append_nil]
        exact .only hn hr
    | some right =>
      simp only [hr] at h
      obtain ⟨answer, rest, rfl, hnext⟩ := Shell.runs_call_bind_iff.1 h
      cases answer with
      | error errno =>
        obtain ⟨rfl, rfl⟩ := Dialogue.runs_done_iff.1 hnext
        exact .pipeFailed hn hr
      | ok ends => exact .of_runs_launchSides hn hr hnext

/-- Each of the ways in which a launch can go is one. -/
theorem LaunchRun.runs {plan : Plan} {workingDir : String} {t : List Traffic}
    {result : Except LaunchError Job} (h : LaunchRun plan workingDir t result) :
    (launch plan workingDir).Runs t result := by
  have made (child : Child) (pid : Pid) : (spawn child).Runs (started child pid) (.ok pid) :=
    runs_spawn_iff.2 (.inr ⟨pid, rfl, rfl⟩)
  have failed (child : Child) (errno : Errno) :
      (spawn child).Runs [⟨.fork child, .error errno⟩] (.error (.failed .fork errno)) :=
    runs_spawn_iff.2 (.inl ⟨errno, rfl, rfl⟩)
  have closed (read write : Fd) (first second : Except Errno Unit) :
      (closePipe read write).Runs (closing read write first second) () :=
    runs_closePipe_iff.2 ⟨first, second, rfl⟩
  unfold launch
  cases h with
  | refused nul =>
    rw [nul]
    exact .done _
  | onlyFailed nul single =>
    simp only [nul, single]
    exact Dialogue.runs_bind_iff.2 ⟨_, [], _, (List.append_nil _).symm, failed _ _, .done _⟩
  | only nul single =>
    simp only [nul, single]
    exact Dialogue.runs_bind_iff.2 ⟨_, [], _, (List.append_nil _).symm, made _ _, .done _⟩
  | pipeFailed nul piped =>
    simp only [nul, piped]
    exact Shell.runs_call_bind_iff.2 ⟨_, [], rfl, .done _⟩
  | @rightFailed right read write _ _ _ nul piped =>
    simp only [nul, piped]
    -- the transcript is put together call by call as `launchSides` makes them
    refine Shell.runs_call_bind_iff.2 ⟨.ok (read, write), _, rfl, ?_⟩
    refine Dialogue.runs_bind_iff.2 ⟨_, _, _, rfl, failed _ _, ?_⟩
    exact Dialogue.runs_bind_iff.2 ⟨_, [], _, (List.append_nil _).symm, closed _ _ _ _, .done _⟩
  | @leftFailed right read write rightPid _ _ _ waiting ending nul piped waits =>
    simp only [nul, piped]
    refine Shell.runs_call_bind_iff.2 ⟨.ok (read, write), _, rfl, ?_⟩
    rw [List.append_assoc]
    refine Dialogue.runs_bind_iff.2 ⟨_, _, _, rfl, made _ _, ?_⟩
    refine Dialogue.runs_bind_iff.2 ⟨_, _, _, rfl, failed _ _, ?_⟩
    refine Dialogue.runs_bind_iff.2 ⟨_, _, _, rfl, closed _ _ _ _, ?_⟩
    have waited : (Job.wait ⟨[rightPid], false⟩).Runs waiting ending :=
      Job.runs_waitAll_cons_iff.2 ⟨_, [], _, by simp, waits, .done _⟩
    exact Dialogue.runs_bind_iff.2 ⟨_, [], _, by simp, waited, .done _⟩
  | @pipeline right read write _ _ _ _ nul piped =>
    simp only [nul, piped]
    refine Shell.runs_call_bind_iff.2 ⟨.ok (read, write), _, rfl, ?_⟩
    rw [List.append_assoc]
    refine Dialogue.runs_bind_iff.2 ⟨_, _, _, rfl, made _ _, ?_⟩
    refine Dialogue.runs_bind_iff.2 ⟨_, _, _, rfl, made _ _, ?_⟩
    exact Dialogue.runs_bind_iff.2 ⟨_, [], _, (List.append_nil _).symm, closed _ _ _ _, .done _⟩

end CommandShell
