import CommandShell.Proofs.Launch

/-!
# What a launch leaves behind

A launch opens a pipe, makes children, closes descriptors and, in one case, waits. This file
follows the descriptors of the shell along a transcript (`tableAfter`) and reads off what a launch
has done when it is over: `LaunchBalanced` collects it, and `launch_balanced` proves it for every
plan whose strings the system can take, every table of descriptors and every way in which the
calls may fail.

The system is trusted in one point only: the ends of a new pipe have numbers of their own that
were not in use (`OpensFresh`). That a failing `close` closes all the same is part of
`tableAfter`.
-/

namespace CommandShell

/-! ## Descriptor tables -/

namespace Descriptors

lemma get?_put (d : Descriptors) (fd other : Nat) (slot : Option Slot) :
    (d.put fd slot).get? other = if fd = other then slot else d.get? other := by
  have hlen : fd < d.slots.length + (fd + 1 - d.slots.length) := by omega
  by_cases h : fd = other
  · subst h
    simp [get?, put, hlen]
  · simp only [get?, put, List.getElem?_set, h, if_false]
    by_cases hin : other < d.slots.length
    · rw [List.getElem?_append_left hin]
    · rw [List.getElem?_append_right (by omega), List.getElem?_replicate,
        List.getElem?_eq_none (by omega : d.slots.length ≤ other)]
      split <;> rfl

end Descriptors

/-- The descriptors of the shell after an exchange. What stands behind a descriptor that the
exchange opens is told by `behind`. -/
def tableAfter (behind : Fd → Slot) (table : Descriptors) : Traffic → Descriptors
  | ⟨.makePipe, .ok (read, write)⟩ =>
    (table.put read (some (behind read))).put write (some (behind write))
  | ⟨.openOutput _ _, .ok fd⟩ => table.put fd (some (behind fd))
  | ⟨.close fd, _⟩ => table.put fd none
  | _ => table

/-- The ends of a new pipe are two descriptors that were not in use. -/
def OpensFresh (table : Descriptors) (x : Traffic) : Prop :=
  ∀ ends ∈ x.pipe?,
    ends.1 ≠ ends.2 ∧ table.get? ends.1 = none ∧ table.get? ends.2 = none

instance (table : Descriptors) (x : Traffic) : Decidable (OpensFresh table x) :=
  inferInstanceAs (Decidable (∀ ends ∈ x.pipe?, _))

/-! ## Reading transcripts in parts

A launch makes children between opening a pipe and closing it, and may wait after that. So its
transcript is made of exchanges that make children, exchanges that wait, and the three that deal
with the pipe; none of the first two kinds touches a descriptor. -/

namespace Traffic

variable {x : Traffic}

lemma views_of_isMaking (h : x.isMaking = true) :
    x.pipe? = none ∧ x.closed? = none ∧ x.isWait = false ∧
      ∀ behind table, tableAfter behind table x = table := by
  obtain ⟨request, answer⟩ := x
  cases request with
  | fork child => exact ⟨rfl, rfl, rfl, fun _ _ => rfl⟩
  | ownGroup pid => exact ⟨rfl, rfl, rfl, fun _ _ => rfl⟩
  | _ => exact absurd h Bool.false_ne_true

lemma views_of_isWait (h : x.isWait = true) :
    x.pipe? = none ∧ x.closed? = none ∧ x.fork? = none ∧ x.launchFailure? = none ∧
      ∀ behind table, tableAfter behind table x = table := by
  obtain ⟨request, answer⟩ := x
  cases request with
  | wait pid block => exact ⟨rfl, rfl, rfl, rfl, fun _ _ => rfl⟩
  | _ => exact absurd h Bool.false_ne_true

end Traffic

lemma isMaking_of_mem_started {child : Child} {pid : Pid} {x : Traffic}
    (h : x ∈ started child pid) : x.isMaking = true := by
  unfold started at h
  rcases List.mem_cons.1 h with rfl | h
  · rfl
  · split at h
    · rw [List.mem_singleton.1 h]
      rfl
    · simp at h

lemma forks_started (child : Child) (pid : Pid) :
    forks (started child pid) = [(child, pid)] := by
  unfold started
  split <;> rfl

lemma firstFailure?_started (child : Child) (pid : Pid) :
    firstFailure? (started child pid) = none := by
  unfold started
  split <;> rfl

/-- All of a blocking wait is questions, and the child has been waited for in the end. -/
theorem Job.views_waitFor {pid : Pid} {t : List Traffic} {result : Except WaitError JobStatus}
    (h : (Job.waitFor pid).Runs t result) : (∀ x ∈ t, x.isWait = true) ∧ pid ∈ awaited t := by
  obtain ⟨vain, answer, -, hverdict, rfl⟩ := Job.runs_waitFor_iff.1 h
  have settles : Job.isUnsettled answer = false := by
    rw [Job.isUnsettled_eq_isNone_verdict? pid, hverdict]
    rfl
  constructor
  · intro x hx
    rcases List.mem_append.1 hx with hx | hx
    · obtain ⟨v, -, rfl⟩ := List.mem_map.1 hx
      rfl
    · rw [List.mem_singleton.1 hx]
      rfl
  · refine List.mem_filterMap.2 ⟨⟨.wait pid true, answer⟩, by simp, ?_⟩
    simp [Traffic.awaited?, settles]

lemma foldl_tableAfter_eq {behind : Fd → Slot} {table : Descriptors} {t : List Traffic}
    (h : ∀ x ∈ t, ∀ table, tableAfter behind table x = table) :
    t.foldl (tableAfter behind) table = table := by
  induction t with
  | nil => rfl
  | cons x t ih =>
    rw [List.foldl_cons, h x List.mem_cons_self]
    exact ih fun y hy => h y (List.mem_cons_of_mem x hy)

lemma forks_append {t u : List Traffic} : forks (t ++ u) = forks t ++ forks u :=
  List.filterMap_append

lemma firstFailure?_append {t u : List Traffic} :
    firstFailure? (t ++ u) = (firstFailure? t).or (firstFailure? u) :=
  List.findSome?_append

section ThroughPipe

variable {read write : Fd} {making waiting : List Traffic} {first second : Except Errno Unit}

lemma pipes_throughPipe (hm : ∀ x ∈ making, x.isMaking = true)
    (hw : ∀ x ∈ waiting, x.isWait = true) :
    pipes (throughPipe read write making first second waiting) = [(read, write)] := by
  have hmaking : pipes making = [] :=
    List.filterMap_eq_nil_iff.2 fun x hx => (Traffic.views_of_isMaking (hm x hx)).1
  have hwaiting : pipes waiting = [] :=
    List.filterMap_eq_nil_iff.2 fun x hx => (Traffic.views_of_isWait (hw x hx)).1
  calc pipes (throughPipe read write making first second waiting)
      = (read, write) :: pipes (making ++ (closing read write first second ++ waiting)) := rfl
    _ = (read, write) :: (pipes making ++ pipes waiting) := by
      simp only [pipes, List.filterMap_append]
      rfl
    _ = [(read, write)] := by rw [hmaking, hwaiting]; rfl

lemma closedFds_throughPipe (hm : ∀ x ∈ making, x.isMaking = true)
    (hw : ∀ x ∈ waiting, x.isWait = true) :
    closedFds (throughPipe read write making first second waiting) = [read, write] := by
  have hmaking : closedFds making = [] :=
    List.filterMap_eq_nil_iff.2 fun x hx => (Traffic.views_of_isMaking (hm x hx)).2.1
  have hwaiting : closedFds waiting = [] :=
    List.filterMap_eq_nil_iff.2 fun x hx => (Traffic.views_of_isWait (hw x hx)).2.1
  calc closedFds (throughPipe read write making first second waiting)
      = closedFds making ++ ([read, write] ++ closedFds waiting) := by
        simp only [closedFds, throughPipe, List.filterMap_cons, List.filterMap_append]
        rfl
    _ = [read, write] := by rw [hmaking, hwaiting]; rfl

lemma forks_throughPipe (hw : ∀ x ∈ waiting, x.isWait = true) :
    forks (throughPipe read write making first second waiting) = forks making := by
  have hwaiting : forks waiting = [] :=
    List.filterMap_eq_nil_iff.2 fun x hx => (Traffic.views_of_isWait (hw x hx)).2.2.1
  calc forks (throughPipe read write making first second waiting)
      = forks making ++ ([] ++ forks waiting) := by
        simp only [forks, throughPipe, List.filterMap_cons, List.filterMap_append]
        rfl
    _ = forks making := by rw [hwaiting, List.append_nil, List.append_nil]

lemma firstFailure?_throughPipe (hw : ∀ x ∈ waiting, x.isWait = true) :
    firstFailure? (throughPipe read write making first second waiting) =
      firstFailure? making := by
  have hwaiting : firstFailure? waiting = none :=
    List.findSome?_eq_none_iff.2 fun x hx => (Traffic.views_of_isWait (hw x hx)).2.2.2.1
  calc firstFailure? (throughPipe read write making first second waiting)
      = (firstFailure? making).or (firstFailure? waiting) := by
        simp only [firstFailure?, throughPipe, List.findSome?_cons, List.findSome?_append]
        rfl
    _ = firstFailure? making := by rw [hwaiting, Option.or_none]

/-- A pipe that is opened and closed leaves the table as it was. -/
lemma get?_foldl_throughPipe {behind : Fd → Slot} {table : Descriptors}
    (hm : ∀ x ∈ making, x.isMaking = true) (hw : ∀ x ∈ waiting, x.isWait = true)
    (fresh : OpensFresh table ⟨.makePipe, .ok (read, write)⟩) (fd : Fd) :
    ((throughPipe read write making first second waiting).foldl (tableAfter behind) table).get? fd =
      table.get? fd := by
  obtain ⟨-, hread, hwrite⟩ := fresh (read, write) rfl
  rw [throughPipe, List.foldl_cons, List.foldl_append,
    foldl_tableAfter_eq fun x hx => (Traffic.views_of_isMaking (hm x hx)).2.2.2 behind,
    List.foldl_append,
    foldl_tableAfter_eq fun x hx => (Traffic.views_of_isWait (hw x hx)).2.2.2.2 behind]
  simp only [closing, List.foldl_cons, List.foldl_nil, tableAfter, Descriptors.get?_put]
  by_cases hwfd : write = fd
  · simp [← hwfd, hwrite]
  · by_cases hrfd : read = fd
    · simp [← hrfd, hread]
    · simp [hwfd, hrfd]

end ThroughPipe

/-! ## Balance -/

/-- What a launch with the transcript `t` has done to a shell with these descriptors, when it is
over with `result`. -/
structure LaunchBalanced (plan : Plan) (workingDir : String) (behind : Fd → Slot)
    (table : Descriptors) (t : List Traffic) (result : Except LaunchError Job) : Prop where
  /-- The shell has the descriptors that it had. -/
  restored : ∀ fd, (t.foldl (tableAfter behind) table).get? fd = table.get? fd
  /-- Each end of the pipe, if one was made, was closed exactly once. -/
  closed_once : ∀ ends ∈ pipes t,
    (closedFds t).count ends.1 = 1 ∧ (closedFds t).count ends.2 = 1
  /-- The launch fails if a call for a pipe or a child fails, with the first such failure, and for
  no other reason. -/
  error_iff : ∀ e, result = .error e ↔ firstFailure? t = some e
  /-- A started job goes where the plan says. -/
  background : ∀ job, result = .ok job → job.background = plan.background
  /-- The processes of a started job are the children that were made, in the order of the line. -/
  made : ∀ job, result = .ok job → job.pids ≠ [] ∧
    match plan.right with
    | none => ∃ pid, forks t = [(plan.onlyChild workingDir, pid)] ∧ job.pids = [pid]
    | some right =>
      ∃ read write leftPid rightPid, pipes t = [(read, write)] ∧
        forks t = [(plan.readingChild right workingDir read write, rightPid),
          (plan.writingChild workingDir read write, leftPid)] ∧
        job.pids = [leftPid, rightPid]
  /-- A failed launch has waited for every child it made, and it had closed the pipe before it
  asked about any of them. -/
  collected : ∀ e, result = .error e → ∃ making waiting, t = making ++ waiting ∧
    (∀ x ∈ making, x.isWait = false) ∧ (∀ x ∈ waiting, x.isWait = true) ∧
    (∀ ends ∈ pipes t, ends.1 ∈ closedFds making ∧ ends.2 ∈ closedFds making) ∧
    ∀ child ∈ forks t, child.2 ∈ awaited waiting

/-- A launch that has no pipe is balanced if its result fits the children it has made and it fails
only if it has made none. -/
lemma LaunchBalanced.of_noPipe {plan : Plan} {workingDir : String} {behind : Fd → Slot}
    {table : Descriptors} {t : List Traffic} {result : Except LaunchError Job}
    (idle : ∀ x ∈ t, x.isWait = false ∧ x.pipe? = none ∧
      ∀ table, tableAfter behind table x = table)
    (error_iff : ∀ e, result = .error e ↔ firstFailure? t = some e)
    (background : ∀ job, result = .ok job → job.background = plan.background)
    (made : ∀ job, result = .ok job → plan.right = none ∧
      ∃ pid, forks t = [(plan.onlyChild workingDir, pid)] ∧ job.pids = [pid])
    (collected : ∀ e, result = .error e → forks t = []) :
    LaunchBalanced plan workingDir behind table t result := by
  have hpipes : pipes t = [] := List.filterMap_eq_nil_iff.2 fun x hx => (idle x hx).2.1
  refine ⟨?_, by simp [hpipes], error_iff, background, ?_, ?_⟩
  · intro fd
    rw [foldl_tableAfter_eq fun x hx => (idle x hx).2.2]
  · intro job hjob
    obtain ⟨single, pid, hforks, hpids⟩ := made job hjob
    rw [single]
    exact ⟨by simp [hpids], pid, hforks, hpids⟩
  · intro e he
    refine ⟨t, [], (List.append_nil t).symm, fun x hx => (idle x hx).1, by simp, ?_, ?_⟩
    · simp [hpipes]
    · simp [collected e he]

/-- A launch that has a pipe is balanced if its result fits the children it has made. -/
lemma LaunchBalanced.of_throughPipe {plan : Plan} {right : Segment} {workingDir : String}
    {behind : Fd → Slot} {table : Descriptors} {result : Except LaunchError Job}
    {read write : Fd} {making waiting : List Traffic} {first second : Except Errno Unit}
    (piped : plan.right = some right) (hm : ∀ x ∈ making, x.isMaking = true)
    (hw : ∀ x ∈ waiting, x.isWait = true)
    (fresh : OpensFresh table ⟨.makePipe, .ok (read, write)⟩)
    (error_iff : ∀ e, result = .error e ↔ firstFailure? making = some e)
    (background : ∀ job, result = .ok job → job.background = plan.background)
    (made : ∀ job, result = .ok job → ∃ leftPid rightPid,
      forks making = [(plan.readingChild right workingDir read write, rightPid),
        (plan.writingChild workingDir read write, leftPid)] ∧ job.pids = [leftPid, rightPid])
    (collected : ∀ e, result = .error e → ∀ child ∈ forks making, child.2 ∈ awaited waiting) :
    LaunchBalanced plan workingDir behind table
      (throughPipe read write making first second waiting) result where
  restored := get?_foldl_throughPipe hm hw fresh
  closed_once := by
    intro ends hends
    -- the ends of the one pipe are apart, so each of the two calls closes another one
    rw [pipes_throughPipe hm hw, List.mem_singleton] at hends
    obtain ⟨distinct, -, -⟩ := fresh (read, write) rfl
    rw [closedFds_throughPipe hm hw, hends]
    exact ⟨by simp [distinct.symm], by simp [distinct]⟩
  error_iff := by rwa [firstFailure?_throughPipe hw]
  background := background
  made := by
    intro job hjob
    obtain ⟨leftPid, rightPid, hforks, hpids⟩ := made job hjob
    rw [pipes_throughPipe hm hw, forks_throughPipe hw, piped]
    exact ⟨by simp [hpids], read, write, leftPid, rightPid, rfl, hforks, hpids⟩
  collected := by
    intro e he
    refine ⟨⟨.makePipe, .ok (read, write)⟩ :: (making ++ closing read write first second),
      waiting, by simp [CommandShell.throughPipe], ?_, hw, ?_, ?_⟩
    · intro x hx
      rcases List.mem_cons.1 hx with rfl | hx
      · rfl
      rcases List.mem_append.1 hx with hx | hx
      · exact (Traffic.views_of_isMaking (hm x hx)).2.2.1
      · rcases List.mem_cons.1 hx with rfl | hx
        · rfl
        · rw [List.mem_singleton.1 hx]
          rfl
    · intro ends hends
      rw [pipes_throughPipe hm hw, List.mem_singleton] at hends
      rw [hends]
      exact ⟨List.mem_filterMap.2 ⟨⟨.close read, first⟩, by simp [closing], rfl⟩,
        List.mem_filterMap.2 ⟨⟨.close write, second⟩, by simp [closing], rfl⟩⟩
    · rw [forks_throughPipe hw]
      exact collected e he

/-- **A launch is balanced whatever fails.** For every plan whose strings the system can take,
every table of descriptors and every way in which the calls for a pipe and for children, the
closings and the wait may go, the shell is left with the descriptors it had; a started job has
exactly the children that were made; and a failed launch tells the first failure, and has closed
the pipe and then waited for every child it had made. -/
theorem launch_balanced {plan : Plan} {workingDir : String} {behind : Fd → Slot}
    {table : Descriptors} {t : List Traffic} {result : Except LaunchError Job}
    (clean : ∀ s ∈ plan.strings workingDir, '\x00' ∉ s.toList)
    (fresh : Throughout (tableAfter behind) OpensFresh table t)
    (run : (launch plan workingDir).Runs t result) :
    LaunchBalanced plan workingDir behind table t result := by
  have clean := Plan.nul?_eq_none_iff.2 clean
  cases LaunchRun.of_runs run with
  | refused nul => simp [clean] at nul
  | @onlyFailed errno nul single =>
    refine .of_noPipe ?_ ?_ (by simp) (by simp) ?_
    · intro x hx
      -- no call of a pipe and no close stands in such a transcript, so the table never moves
      rw [List.mem_singleton.1 hx]
      exact ⟨rfl, rfl, fun _ => rfl⟩
    · simp [firstFailure?, Traffic.launchFailure?]
    · simp [forks, Traffic.fork?]
  | @only pid nul single =>
    refine .of_noPipe ?_ ?_ ?_ ?_ (by simp)
    · intro x hx
      have hviews := Traffic.views_of_isMaking (isMaking_of_mem_started hx)
      exact ⟨hviews.2.2.1, hviews.1, hviews.2.2.2 behind⟩
    · intro e
      rw [firstFailure?_started]
      simp
    · rintro job ⟨⟩
      rfl
    · rintro job ⟨⟩
      exact ⟨single, pid, forks_started _ _, rfl⟩
  | @pipeFailed right errno nul piped =>
    refine .of_noPipe ?_ ?_ (by simp) (by simp) ?_
    · intro x hx
      rw [List.mem_singleton.1 hx]
      exact ⟨rfl, rfl, fun _ => rfl⟩
    · simp [firstFailure?, Traffic.launchFailure?]
    · simp [forks, Traffic.fork?]
  | @rightFailed right read write errno first second nul piped =>
    refine .of_throughPipe piped ?_ (by simp) fresh.1 ?_ (by simp) (by simp) ?_
    · simp [Traffic.isMaking]
    · simp [firstFailure?, Traffic.launchFailure?]
    · simp [forks, Traffic.fork?]
  -- the first child is waited for by the wait that the failed second fork makes necessary
  | @leftFailed right read write rightPid errno first second waiting ending nul piped waits =>
    obtain ⟨hwaits, hawaited⟩ := Job.views_waitFor waits
    refine .of_throughPipe piped ?_ hwaits fresh.1 ?_ (by simp) (by simp) ?_
    · intro x hx
      rcases List.mem_append.1 hx with hx | hx
      · exact isMaking_of_mem_started hx
      · rw [List.mem_singleton.1 hx]
        rfl
    · intro e
      rw [firstFailure?_append, firstFailure?_started]
      simp [firstFailure?, Traffic.launchFailure?]
    · intro _ _ child hchild
      rw [forks_append, forks_started] at hchild
      obtain rfl : child = (plan.readingChild right workingDir read write, rightPid) := by
        simpa [forks, Traffic.fork?] using hchild
      exact hawaited
  | @pipeline right read write leftPid rightPid first second nul piped =>
    refine .of_throughPipe piped ?_ (by simp) fresh.1 ?_ ?_ ?_ (by simp)
    · intro x hx
      rcases List.mem_append.1 hx with hx | hx
      · exact isMaking_of_mem_started hx
      · exact isMaking_of_mem_started hx
    · intro e
      rw [firstFailure?_append, firstFailure?_started, firstFailure?_started]
      simp
    · rintro job ⟨⟩
      rfl
    · rintro job ⟨⟩
      refine ⟨leftPid, rightPid, ?_, rfl⟩
      rw [forks_append, forks_started, forks_started]
      rfl

/-- `ls | wc` -/
def countedListing : Plan := { left := { program := "ls" }, right := some { program := "wc" } }

/-- The descriptors of a shell whose standard output is closed. -/
def withoutOutput : Descriptors := ⟨[some ⟨0, false⟩, none, some ⟨2, false⟩]⟩

/-- A launch in which the pipe takes the place of the closed standard output, the left side cannot
be made, a closing reports a failure and the wait for the right side is interrupted. -/
def halfLaunched : List Traffic :=
  throughPipe 1 3
    (started (countedListing.readingChild { program := "wc" } "/" 1 3) 7 ++
      [⟨.fork (countedListing.writingChild "/" 1 3), .error .EAGAIN⟩])
    (.error .deviceFailure) (.ok ())
    [⟨.wait 7 true, .error .EINTR⟩, ⟨.wait 7 true, .ok (.exited 0)⟩]

theorem launch_balanced_halfLaunched :
    (∀ s ∈ countedListing.strings "/", '\x00' ∉ s.toList) ∧
      Throughout (tableAfter (⟨·, true⟩)) OpensFresh withoutOutput halfLaunched ∧
      (launch countedListing "/").Runs halfLaunched (.error (.failed .fork .EAGAIN)) ∧
      LaunchBalanced countedListing "/" (⟨·, true⟩) withoutOutput halfLaunched
        (.error (.failed .fork .EAGAIN)) := by
  have clean : ∀ s ∈ countedListing.strings "/", '\x00' ∉ s.toList := by decide
  have fresh : Throughout (tableAfter (⟨·, true⟩)) OpensFresh withoutOutput halfLaunched := by
    decide
  have run : (launch countedListing "/").Runs halfLaunched (.error (.failed .fork .EAGAIN)) :=
    Dialogue.runs_of_replay? rfl
  exact ⟨clean, fresh, run, launch_balanced clean fresh run⟩

end CommandShell
