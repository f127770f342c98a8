import CommandShell.Proofs.Reports

/-!
# The job table under sweeps

A sweep goes over the job table, asks about each process in it, and sorts the processes by the
answers. `Fate.of` says what each answer means for a process, kind by kind: that it stays, that it
has ended, or that it is lost because nobody can ask about it. The table after a sweep and the ends
that the sweep has found are then read off the answers, entry by entry (`Job.runs_sweep_iff_fates`).

Over time, processes are tracked and sweeps are made in any order; `Upkeep` is such a course of a
table. Its invariant is a balance (`Upkeep.count_add_count_tracked`): every entry that has ever been
tracked has been returned once, or been dropped once, or is still there. So a process that was
tracked once is returned at most once, and a process whose fate is settled is never asked about
again (`Upkeep.not_asked_after`).
-/

namespace CommandShell

/-! ## What an answer means for a process -/

/-- What has become of a process, as far as an answer about it tells. -/
inductive Fate
  /-- It has not ended, as far as anybody knows. -/
  | stays
  | ended (status : JobStatus)
  /-- It cannot be asked about. -/
  | lost (errno : Errno)
  deriving DecidableEq, Repr

/-- An exit and a death by signal are ends. A stop, a continuation or an event of a trace is none,
an interrupted call tells nothing, and any other error means that the process is out of reach. -/
def Fate.of : Except Errno WaitReport → Fate
  | .ok (.exited code) => .ended (.exited code)
  | .ok (.signaled signal _) => .ended (.signaled signal)
  | .ok .stillAlive => .stays
  | .ok (.stopped _) => .stays
  | .ok (.traceEvent _ _) => .stays
  | .ok .traceCall => .stays
  | .ok .continued => .stays
  | .error errno => if errno = .EINTR then .stays else .lost errno

namespace Job

lemma verdict?_eq_fate (pid : Pid) (answer : Except Errno WaitReport) :
    verdict? pid answer = match Fate.of answer with
      | .stays => none
      | .ended status => some (.ok status)
      | .lost errno => some (.error ⟨pid, errno⟩) := by
  cases answer with
  | ok report => cases report <;> rfl
  | error errno => by_cases he : errno = .EINTR <;> simp [verdict?, Fate.of, he]

/-! ## One sweep -/

/-- The processes that stay, in the order in which they were asked about. -/
def staying (asked : List Asked) : List Pid :=
  (asked.filter fun x => Fate.of x.2 = .stays).map Prod.fst

/-- The processes that have ended, in the same order, each with its status. -/
def ending (asked : List Asked) : List (Pid × JobStatus) :=
  asked.filterMap fun x =>
    match Fate.of x.2 with
    | .ended status => some (x.1, status)
    | _ => none

/-- The processes that are out of reach. -/
def losing (asked : List Asked) : List Pid :=
  asked.filterMap fun x =>
    match Fate.of x.2 with
    | .lost _ => some x.1
    | _ => none

lemma kept_ofAnswers_eq_staying (asked : List Asked) :
    (Sweep.ofAnswers asked).kept = staying asked := by
  rw [Sweep.kept_ofAnswers, staying]
  refine congrArg _ (List.filter_congr fun x _ => ?_)
  rw [verdict?_eq_fate]
  cases Fate.of x.2 <;> rfl

lemma finished_ofAnswers_eq_ending (asked : List Asked) :
    (Sweep.ofAnswers asked).finished = ending asked := by
  rw [Sweep.finished_ofAnswers, ending]
  refine List.filterMap_congr fun x _ => ?_
  rw [Sweep.ended?, verdict?_eq_fate]
  cases Fate.of x.2 <;> rfl

/-- The runs of a sweep: one question about each entry of the table, in order, with any answers; and
what the sweep finds is what the answers say. -/
theorem runs_sweep_iff_fates {pids : List Pid} {t : List Traffic} {found : Sweep} :
    (sweep pids).Runs t found ↔ ∃ asked : List Asked, asked.map Prod.fst = pids ∧
      t = asked.map question ∧ found.kept = staying asked ∧ found.finished = ending asked := by
  rw [runs_sweep_iff]
  constructor
  · rintro ⟨asked, hpids, ht, rfl⟩
    exact ⟨asked, hpids, ht, kept_ofAnswers_eq_staying asked, finished_ofAnswers_eq_ending asked⟩
  · rintro ⟨asked, hpids, ht, kept, finished⟩
    refine ⟨asked, hpids, ht, ?_⟩
    rw [← kept_ofAnswers_eq_staying] at kept
    rw [← finished_ofAnswers_eq_ending] at finished
    cases found
    cases kept
    cases finished
    rfl

lemma staying_sublist (asked : List Asked) : (staying asked).Sublist (asked.map Prod.fst) :=
  (List.filter_sublist).map _

lemma ending_sublist (asked : List Asked) :
    ((ending asked).map Prod.fst).Sublist (asked.map Prod.fst) := by
  rw [← finished_ofAnswers_eq_ending]
  exact Sweep.finished_sublist asked

lemma count_map_fst (asked : List Asked) (pid : Pid) :
    (asked.map Prod.fst).count pid =
      (staying asked).count pid + ((ending asked).map Prod.fst).count pid +
        (losing asked).count pid := by
  induction asked with
  | nil => rfl
  | cons x asked ih =>
    unfold staying ending losing at ih ⊢
    rw [List.map_cons, List.count_cons, ih, List.filter_cons, List.filterMap_cons,
      List.filterMap_cons]
    cases Fate.of x.2 with
    | stays =>
      simp only [decide_true, if_true, List.map_cons, List.count_cons]
      omega
    | ended status =>
      simp only [reduceCtorEq, decide_false, Bool.false_eq_true, if_false, List.map_cons,
        List.count_cons]
      omega
    | lost errno =>
      simp only [reduceCtorEq, decide_false, Bool.false_eq_true, if_false, List.count_cons]
      omega

/-- In a table in which no process is twice, no process both stays and has ended. -/
lemma disjoint_staying_ending {asked : List Asked} (distinct : (asked.map Prod.fst).Nodup)
    {pid : Pid} (stays : pid ∈ staying asked) : pid ∉ (ending asked).map Prod.fst := by
  intro ended
  have balance := count_map_fst asked pid
  have once := List.nodup_iff_count_le_one.1 distinct pid
  have first := List.count_pos_iff.2 stays
  have second := List.count_pos_iff.2 ended
  omega

/-- A process whose fate is settled does not stay, if it is in the table no more than once. -/
lemma count_staying_of_settled {asked : List Asked} {pid : Pid}
    {answer : Except Errno WaitReport} (given : (pid, answer) ∈ asked)
    (settled : Fate.of answer ≠ .stays) (once : (asked.map Prod.fst).count pid ≤ 1) :
    (staying asked).count pid = 0 := by
  have balance := count_map_fst asked pid
  have gone : 0 < ((ending asked).map Prod.fst).count pid + (losing asked).count pid := by
    cases fate : Fate.of answer with
    | stays => exact absurd fate settled
    | ended status =>
      have ended : (pid, status) ∈ ending asked :=
        List.mem_filterMap.2 ⟨(pid, answer), given, by rw [fate]⟩
      have counted : 0 < ((ending asked).map Prod.fst).count pid :=
        List.count_pos_iff.2 (List.mem_map.2 ⟨_, ended, rfl⟩)
      omega
    | lost errno =>
      have lost : pid ∈ losing asked := List.mem_filterMap.2 ⟨(pid, answer), given, by rw [fate]⟩
      have counted := List.count_pos_iff.2 lost
      omega
  omega

end Job

/-! ## The table over time -/

/-- What happens to the job table. -/
inductive TableStep
  /-- The processes of a job are added. -/
  | track (job : Job)
  /-- A sweep is made, with these answers. -/
  | sweep (asked : List Job.Asked)

/-- `Upkeep pids steps left`: from the table `pids` the steps can lead to the table `left`. -/
inductive Upkeep : List Pid → List TableStep → List Pid → Prop
  | nil (pids : List Pid) : Upkeep pids [] pids
  | track {s : State} {job : Job} {steps : List TableStep} {left : List Pid}
      (rest : Upkeep (s.track job).jobs steps left) : Upkeep s.jobs (.track job :: steps) left
  | sweep {pids : List Pid} {asked : List Job.Asked} {found : Job.Sweep}
      {steps : List TableStep} {left : List Pid}
      (run : (Job.sweep pids).Runs (asked.map Job.question) found)
      (rest : Upkeep found.kept steps left) : Upkeep pids (.sweep asked :: steps) left

namespace TableStep

/-- The processes that a step adds. -/
def tracked : TableStep → List Pid
  | .track job => job.pids
  | .sweep _ => []

/-- The questions of a step, with their answers. -/
def asked : TableStep → List Job.Asked
  | .track _ => []
  | .sweep asked => asked

end TableStep

lemma Job.question_injective : Function.Injective Job.question := by
  rintro ⟨pid, answer⟩ ⟨pid', answer'⟩ h
  cases h
  rfl

namespace Upkeep

/-- All processes that some steps add. -/
def tracked (steps : List TableStep) : List Pid := steps.flatMap TableStep.tracked

/-- All questions of some steps, with their answers. -/
def questions (steps : List TableStep) : List Job.Asked := steps.flatMap TableStep.asked

/-- All ends that the sweeps return. -/
def returned (steps : List TableStep) : List (Pid × JobStatus) :=
  steps.flatMap fun step => Job.ending step.asked

/-- All processes that the sweeps drop without a status. -/
def dropped (steps : List TableStep) : List Pid :=
  steps.flatMap fun step => Job.losing step.asked

variable {pids left : List Pid} {steps before after : List TableStep} {asked : List Job.Asked}
  {pid : Pid}

/-- The answers of a sweep are about the entries of the table, and what stays is the next table. -/
lemma table_of_sweep (h : Upkeep pids (.sweep asked :: steps) left) :
    asked.map Prod.fst = pids ∧ Upkeep (Job.staying asked) steps left := by
  generalize hsteps : TableStep.sweep asked :: steps = all at h
  cases h with
  | nil => cases hsteps
  | track => cases hsteps
  | sweep run rest =>
    cases hsteps
    obtain ⟨asked', hpids, ht, kept, -⟩ := Job.runs_sweep_iff_fates.1 run
    obtain rfl := Job.question_injective.list_map ht
    exact ⟨hpids, kept ▸ rest⟩

/-- **Balance of the table.** Every entry that has been tracked has been returned with its status,
or has been dropped, or is still there. -/
theorem count_add_count_tracked (h : Upkeep pids steps left) (pid : Pid) :
    pids.count pid + (tracked steps).count pid =
      ((returned steps).map Prod.fst).count pid + (dropped steps).count pid + left.count pid := by
  -- a job that is tracked comes to the table, and a sweep shares the table out
  induction steps generalizing pids with
  | nil =>
    cases h
    simp [tracked, returned, dropped]
  | cons step steps ih =>
    cases step with
    | track job =>
      cases h with
      | @track s _ _ _ rest =>
        have later := ih rest
        have added : (s.track job).jobs = s.jobs ++ job.pids := rfl
        rw [added, List.count_append] at later
        simp only [tracked, returned, dropped, List.flatMap_cons, TableStep.tracked,
          TableStep.asked, Job.ending, Job.losing, List.filterMap_nil, List.nil_append,
          List.count_append] at later ⊢
        omega
    | sweep asked =>
      obtain ⟨rfl, rest⟩ := h.table_of_sweep
      have later := ih rest
      have balance := Job.count_map_fst asked pid
      simp only [tracked, returned, dropped, List.flatMap_cons, TableStep.tracked,
        TableStep.asked, List.nil_append, List.map_append, List.count_append] at later ⊢
      omega

lemma exists_between (h : Upkeep pids (before ++ after) left) :
    ∃ between, Upkeep pids before between ∧ Upkeep between after left := by
  induction before generalizing pids with
  | nil => exact ⟨pids, .nil pids, h⟩
  | cons step before ih =>
    cases h with
    | track rest =>
      obtain ⟨between, first, second⟩ := ih rest
      exact ⟨between, .track first, second⟩
    | sweep run rest =>
      obtain ⟨between, first, second⟩ := ih rest
      exact ⟨between, .sweep run first, second⟩

/-- Nobody asks about a process that is neither in the table nor tracked later. -/
lemma not_asked_of_absent (h : Upkeep pids steps left)
    (absent : pids.count pid + (tracked steps).count pid = 0) :
    pid ∉ (questions steps).map Prod.fst := by
  induction steps generalizing pids with
  | nil => exact List.not_mem_nil
  | cons step steps ih =>
    cases step with
    | track job =>
      cases h with
      | @track s _ _ _ rest =>
        refine ih rest ?_
        have added : (s.track job).jobs = s.jobs ++ job.pids := rfl
        simp only [tracked, List.flatMap_cons, TableStep.tracked, List.count_append] at absent
        rw [added, List.count_append]
        unfold tracked
        omega
    | sweep asked =>
      obtain ⟨rfl, rest⟩ := h.table_of_sweep
      simp only [tracked, List.flatMap_cons, TableStep.tracked, List.nil_append] at absent
      -- a sweep leaves no more of a process than there was, so none of an absent one
      have stays := (Job.staying_sublist asked).count_le pid
      have later := ih rest (by unfold tracked; omega)
      have now : pid ∉ asked.map Prod.fst := List.count_eq_zero.1 (by omega)
      simp only [questions, List.flatMap_cons, TableStep.asked, List.map_append,
        List.mem_append] at later ⊢
      exact fun h => h.elim now later

/-- After an answer that settles what has become of it, a process that is tracked only once is not
asked about any more. -/
theorem not_asked_after {answer : Except Errno WaitReport}
    (h : Upkeep pids (before ++ .sweep asked :: after) left)
    (once : pids.count pid + (tracked (before ++ .sweep asked :: after)).count pid ≤ 1)
    (given : (pid, answer) ∈ asked) (settled : Fate.of answer ≠ .stays) :
    pid ∉ (questions after).map Prod.fst := by
  obtain ⟨between, first, second⟩ := h.exists_between
  obtain ⟨rfl, rest⟩ := second.table_of_sweep
  have balance := first.count_add_count_tracked pid
  have present : 0 < (asked.map Prod.fst).count pid :=
    List.count_pos_iff.2 (List.mem_map.2 ⟨_, given, rfl⟩)
  simp only [tracked, List.flatMap_append, List.flatMap_cons, TableStep.tracked,
    List.nil_append, List.count_append] at once balance
  have gone := Job.count_staying_of_settled given settled (by omega)
  exact rest.not_asked_of_absent (by unfold tracked; omega)

end Upkeep

/-- **A sweep parts the table.** Whatever is answered, a sweep asks once about each entry of the
table, in order, and about nothing else. Afterwards the table is the entries whose answer was that
they are still there, and the sweep returns those whose answer was an end, each with its status,
both in the order of the table; the entries that cannot be asked about are in neither.

In a table without repetitions the two parts have no process in common. Over any sequence of sweeps,
also if processes are tracked in between, each entry is returned once, dropped once or left once, so
that a process that was tracked once is returned at most once; and after the answer that settled its
fate nobody asks about it again. -/
theorem sweep_parts_table (pids : List Pid) :
    (∀ t found, (Job.sweep pids).Runs t found ↔
      ∃ asked : List Job.Asked, asked.map Prod.fst = pids ∧ t = asked.map Job.question ∧
        found.kept = Job.staying asked ∧ found.finished = Job.ending asked) ∧
    (∀ t found, (Job.sweep pids).Runs t found →
      found.kept.Sublist pids ∧ (found.finished.map Prod.fst).Sublist pids ∧
        (pids.Nodup → ∀ pid ∈ found.kept, pid ∉ found.finished.map Prod.fst)) ∧
    ∀ steps left, Upkeep pids steps left → ∀ pid,
      pids.count pid + (Upkeep.tracked steps).count pid =
        ((Upkeep.returned steps).map Prod.fst).count pid + (Upkeep.dropped steps).count pid +
          left.count pid ∧
      (pids.count pid + (Upkeep.tracked steps).count pid ≤ 1 →
        ((Upkeep.returned steps).map Prod.fst).count pid ≤ 1 ∧
        ∀ before asked after answer, steps = before ++ .sweep asked :: after →
          (pid, answer) ∈ asked → Fate.of answer ≠ .stays →
            pid ∉ (Upkeep.questions after).map Prod.fst) := by
  refine ⟨fun t found => Job.runs_sweep_iff_fates, fun t found run => ?_,
    fun steps left upkeep pid => ?_⟩
  · obtain ⟨asked, rfl, -, kept, finished⟩ := Job.runs_sweep_iff_fates.1 run
    rw [kept, finished]
    exact ⟨Job.staying_sublist asked, Job.ending_sublist asked,
      fun distinct pid stays => Job.disjoint_staying_ending distinct stays⟩
  · have balance := upkeep.count_add_count_tracked pid
    refine ⟨balance, fun once => ⟨by omega, ?_⟩⟩
    rintro before asked after answer rfl given settled
    exact upkeep.not_asked_after once given settled

/-- Three sweeps. In the first one two processes stay, one has been killed and one is out of reach;
then another one is tracked; and of the first two one ends in the second sweep and one in the
third. -/
def threeSweeps : List TableStep :=
  [.sweep [(20, .ok .stillAlive), (21, .error .EINTR), (22, .ok (.signaled .SIGTERM false)),
      (23, .error .ECHILD)],
    .track ⟨[24], true⟩,
    .sweep [(20, .ok (.stopped .SIGSTOP)), (21, .ok (.exited 0)), (24, .ok .continued)],
    .sweep [(20, .ok (.exited 3)), (24, .ok .stillAlive)]]

theorem sweep_parts_table_threeSweeps :
    Upkeep [20, 21, 22, 23] threeSweeps [24] ∧
      ((Upkeep.returned threeSweeps).map Prod.fst).count 22 ≤ 1 ∧
      22 ∉ (Upkeep.questions (threeSweeps.drop 1)).map Prod.fst := by
  have upkeep : Upkeep [20, 21, 22, 23] threeSweeps [24] := by
    refine .sweep (?_ : (Job.sweep _).Runs _ ⟨[20, 21], [(22, .signaled .SIGTERM)]⟩)
      (.track (s := { State.start {} "/" false with jobs := [20, 21] })
        (.sweep (?_ : (Job.sweep _).Runs _ ⟨[20, 24], [(21, .exited 0)]⟩)
          (.sweep (?_ : (Job.sweep _).Runs _ ⟨[24], [(20, .exited 3)]⟩) (.nil _))))
    all_goals exact Dialogue.runs_of_replay? rfl
  obtain ⟨-, once⟩ := (sweep_parts_table [20, 21, 22, 23]).2.2 threeSweeps [24] upkeep 22
  obtain ⟨returnedOnce, silent⟩ := once (by decide)
  exact ⟨upkeep, returnedOnce, silent [] _ (threeSweeps.drop 1) (.ok (.signaled .SIGTERM false))
    rfl (by simp) (by decide)⟩

end CommandShell
