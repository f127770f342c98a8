import CommandShell.Proofs.Wait

/-!
# Waiting for a whole job

What `Job.wait` asks, and what it comes to, in terms of the answers alone. An `Inquiry` is all that
is asked about one process: a number of answers that settle nothing, and then the one that does. A
wait makes one inquiry after the other, in the order of the job, whatever the inquiries come to; and
`Inquiry.result` says what that makes of the job. `Job.runs_wait_iff` is that these are the runs of
a wait, all of them and no others.

A wait keeps its result as it goes along, so the induction is on the processes that are left, with
the result so far (`Job.runs_waitAll_iff`). What the result is in the end is a statement about a
fold (`Inquiry.foldl_combine`): the first failure stays, and without one the last status does.
-/

namespace CommandShell

/-- What a process is asked until it is known what has become of it. -/
structure Inquiry where
  pid : Pid
  /-- Interrupted calls, and reports of a stop, a continuation or a trace. -/
  vain : List (Except Errno WaitReport)
  answer : Except Errno WaitReport
  outcome : Except WaitError JobStatus
  unsettled : ∀ v ∈ vain, Job.verdict? pid v = none
  settled : Job.verdict? pid answer = some outcome

namespace Inquiry

/-- The exchanges of an inquiry. -/
def transcript (q : Inquiry) : List Traffic :=
  q.vain.map (Exchange.mk (I := ShellCalls) (.wait q.pid true)) ++ [⟨.wait q.pid true, q.answer⟩]

lemma getLast?_transcript (q : Inquiry) :
    q.transcript.getLast? = some ⟨.wait q.pid true, q.answer⟩ :=
  List.getLast?_concat

/-- Why the process could not be waited for, if it could not. -/
def failure? (q : Inquiry) : Option WaitError :=
  match q.outcome with
  | .error e => some e
  | .ok _ => none

/-- What inquiries about the processes of a job make of the job: the first failure if there is one,
else the status of the last process, and success if there was none to ask about. -/
def result (inquiries : List Inquiry) : Except WaitError JobStatus :=
  match inquiries.findSome? failure? with
  | some e => .error e
  | none =>
    match inquiries.getLast? with
    | some q => q.outcome
    | none => .ok (.exited 0)

end Inquiry

namespace Job

/-- The runs of a blocking wait are the inquiries about the process. -/
lemma runs_waitFor_iff_inquiry {pid : Pid} {t : List Traffic}
    {outcome : Except WaitError JobStatus} :
    (waitFor pid).Runs t outcome ↔
      ∃ q : Inquiry, q.pid = pid ∧ t = q.transcript ∧ q.outcome = outcome := by
  rw [runs_waitFor_iff]
  constructor
  · rintro ⟨vain, answer, unsettled, settled, rfl⟩
    exact ⟨⟨pid, vain, answer, outcome, unsettled, settled⟩, rfl, rfl, rfl⟩
  · rintro ⟨q, rfl, rfl, rfl⟩
    exact ⟨q.vain, q.answer, q.unsettled, q.settled, rfl⟩

/-- Waiting for several processes makes an inquiry about each, and adds what it comes to. -/
theorem runs_waitAll_iff {pids : List Pid} {t : List Traffic}
    {before result : Except WaitError JobStatus} :
    (waitAll before pids).Runs t result ↔
      ∃ inquiries : List Inquiry, inquiries.map Inquiry.pid = pids ∧
        t = inquiries.flatMap Inquiry.transcript ∧
        result = inquiries.foldl (fun sofar q => combine sofar q.outcome) before := by
  induction pids generalizing before t with
  | nil =>
    rw [waitAll, Dialogue.runs_done_iff]
    constructor
    · rintro ⟨rfl, rfl⟩
      exact ⟨[], rfl, rfl, rfl⟩
    · rintro ⟨inquiries, hpids, rfl, rfl⟩
      obtain rfl := List.map_eq_nil_iff.1 hpids
      exact ⟨rfl, rfl⟩
  | cons pid pids ih =>
    rw [runs_waitAll_cons_iff]
    constructor
    · rintro ⟨t₁, t₂, outcome, rfl, first, others⟩
      obtain ⟨q, rfl, rfl, rfl⟩ := runs_waitFor_iff_inquiry.1 first
      obtain ⟨inquiries, rfl, rfl, rfl⟩ := ih.1 others
      exact ⟨q :: inquiries, rfl, rfl, rfl⟩
    · rintro ⟨inquiries, hpids, rfl, rfl⟩
      obtain ⟨q, inquiries, rfl, rfl, rfl⟩ := List.map_eq_cons_iff.1 hpids
      exact ⟨q.transcript, inquiries.flatMap Inquiry.transcript, q.outcome, rfl,
        runs_waitFor_iff_inquiry.2 ⟨q, rfl, rfl, rfl⟩, ih.2 ⟨inquiries, rfl, rfl, rfl⟩⟩

end Job

namespace Inquiry

lemma foldl_combine_error (inquiries : List Inquiry) (e : WaitError) :
    inquiries.foldl (fun sofar q => Job.combine sofar q.outcome) (.error e) = .error e := by
  induction inquiries with
  | nil => rfl
  | cons q inquiries ih => exact ih

/-- A status gives way to the outcome of the next process. -/
theorem foldl_combine (inquiries : List Inquiry) (status : JobStatus) :
    inquiries.foldl (fun sofar q => Job.combine sofar q.outcome) (.ok status) =
      match inquiries.findSome? failure? with
      | some e => .error e
      | none =>
        match inquiries.getLast? with
        | some q => q.outcome
        | none => .ok status := by
  induction inquiries generalizing status with
  | nil => rfl
  | cons q inquiries ih =>
    rw [List.foldl_cons, List.findSome?_cons, failure?, Job.combine]
    cases houtcome : q.outcome with
    | error e => exact foldl_combine_error inquiries e
    | ok status' =>
      rw [ih]
      cases inquiries with
      | nil => exact houtcome.symm
      | cons q' inquiries => rw [List.getLast?_cons_cons, List.getLast?_cons]

/-- A process that could be waited for has ended, and the last answer says how. -/
lemma exists_report {q : Inquiry} {status : JobStatus} (h : q.outcome = .ok status) :
    ∃ report, q.answer = .ok report ∧ report.ending? = some status := by
  have settled := q.settled
  rw [h] at settled
  cases hanswer : q.answer with
  | error errno =>
    rw [hanswer, Job.verdict?] at settled
    split at settled <;> simp at settled
  | ok report =>
    rw [hanswer, Job.verdict?, Option.map_eq_some_iff] at settled
    obtain ⟨ending, hending, hstatus⟩ := settled
    cases hstatus
    exact ⟨report, rfl, hending⟩

/-- A job that could be waited for has the status of its last process. -/
lemma outcome_of_result_concat {inquiries : List Inquiry} {q : Inquiry} {status : JobStatus}
    (h : result (inquiries ++ [q]) = .ok status) : q.outcome = .ok status := by
  unfold result at h
  split at h
  · cases h
  · rwa [List.getLast?_concat] at h

end Inquiry

namespace Job

/-- A wait is one inquiry after the other. -/
theorem runs_wait_iff {job : Job} {t : List Traffic} {result : Except WaitError JobStatus} :
    job.wait.Runs t result ↔
      ∃ inquiries : List Inquiry, inquiries.map Inquiry.pid = job.pids ∧
        t = inquiries.flatMap Inquiry.transcript ∧ result = Inquiry.result inquiries := by
  simp only [wait, runs_waitAll_iff, Inquiry.foldl_combine]
  rfl

/-- **A wait asks about everybody and has the right result.** Whatever is answered about the
processes of a job, each of them is asked about until the first answer that settles what has become
of it, in the order of the job and also behind one that could not be waited for. The result is the
first failure, or else the status of the last process, or else success. So a pipeline that could be
waited for has the status of its right side. -/
theorem wait_asks_everybody (job : Job) :
    (∀ t result, job.wait.Runs t result ↔
      ∃ inquiries : List Inquiry, inquiries.map Inquiry.pid = job.pids ∧
        t = inquiries.flatMap Inquiry.transcript ∧ result = Inquiry.result inquiries) ∧
    ∀ left right t status, job.pids = [left, right] → job.wait.Runs t (.ok status) →
      ∃ report : WaitReport, t.getLast? = some ⟨.wait right true, .ok report⟩ ∧
        report.ending? = some status := by
  refine ⟨fun t result => runs_wait_iff, ?_⟩
  intro left right t status hpids run
  obtain ⟨inquiries, hinquiries, rfl, hresult⟩ := runs_wait_iff.1 run
  obtain ⟨l, _, rfl, -, hright⟩ := List.map_eq_cons_iff.1 (hinquiries.trans hpids)
  obtain ⟨r, _, rfl, rfl, hnil⟩ := List.map_eq_cons_iff.1 hright
  obtain rfl := List.map_eq_nil_iff.1 hnil
  have sides : Inquiry.result ([l] ++ [r]) = .ok status := hresult.symm
  obtain ⟨report, hanswer, hending⟩ :=
    Inquiry.exists_report (Inquiry.outcome_of_result_concat sides)
  refine ⟨report, ?_, hending⟩
  rw [← hanswer, List.flatMap_cons, List.flatMap_cons, List.flatMap_nil, List.append_nil,
    List.getLast?_append, Inquiry.getLast?_transcript, Option.some_or]

/-- Three processes, of which the second one cannot be waited for and the third one is asked about
all the same. -/
def brokenMiddle : List Inquiry :=
  [⟨7, [.error .EINTR, .ok (.stopped .SIGSTOP)], .ok (.exited 3), .ok (.exited 3), by decide, rfl⟩,
    ⟨8, [.ok .continued], .error .ECHILD, .error ⟨8, .ECHILD⟩, by decide, rfl⟩,
    ⟨9, [.error .EINTR], .ok (.exited 0), .ok (.exited 0), by decide, rfl⟩]

/-- A left side that is killed, and a right side that ends after it has been traced. -/
def killedLeft : List Traffic :=
  [⟨.wait 7 true, .error .EINTR⟩, ⟨.wait 7 true, .ok (.signaled .SIGKILL false)⟩,
    ⟨.wait 8 true, .ok .traceCall⟩, ⟨.wait 8 true, .ok (.exited 2)⟩]

theorem wait_asks_everybody_brokenMiddle :
    (wait ⟨[7, 8, 9], false⟩).Runs (brokenMiddle.flatMap Inquiry.transcript)
      (.error ⟨8, .ECHILD⟩) ∧
    (wait ⟨[7, 8], false⟩).Runs killedLeft (.ok (.exited 2)) ∧
      ∃ report : WaitReport, killedLeft.getLast? = some ⟨.wait 8 true, .ok report⟩ ∧
        report.ending? = some (.exited 2) := by
  have all := ((wait_asks_everybody ⟨[7, 8, 9], false⟩).1 _ _).2 ⟨brokenMiddle, rfl, rfl, rfl⟩
  have run : (wait ⟨[7, 8], false⟩).Runs killedLeft (.ok (.exited 2)) :=
    Dialogue.runs_of_replay? rfl
  exact ⟨all, run, (wait_asks_everybody ⟨[7, 8], false⟩).2 7 8 killedLeft _ rfl run⟩

end Job

end CommandShell
