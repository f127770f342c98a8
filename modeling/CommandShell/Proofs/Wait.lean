import CommandShell.Proofs.Transcript

/-!
# Transcripts of waiting

What the shell asks about its children, and what it makes of the answers. `Job.verdict?` says what
one answer settles about a child, if it settles anything: an end or a failure does, a report of a
stop or an interrupted call does not. `Job.runs_waitFor_iff` is the whole of a blocking wait in
these terms: answers that settle nothing, and then one whose verdict is the result. This is one loop
where there could be two, as `Job.runs_waitFor_iff_heardToTheEnd` says.

A sweep asks about each process of the table once, in order; `Job.runs_sweep_cons_iff` takes the
first question off.
-/

namespace CommandShell

namespace Job

/-- What an answer about a process settles, if it settles anything. -/
def verdict? (pid : Pid) : Except Errno WaitReport → Option (Except WaitError JobStatus)
  | .ok report => report.ending?.map .ok
  | .error errno => if errno = .EINTR then none else some (.error ⟨pid, errno⟩)

lemma isUnsettled_eq_isNone_verdict? (pid : Pid) (answer : Except Errno WaitReport) :
    isUnsettled answer = (verdict? pid answer).isNone := by
  cases answer with
  | ok report => simp [isUnsettled, verdict?]
  | error errno =>
    by_cases he : errno = .EINTR
    · simp [isUnsettled, verdict?, he]
    · simp [isUnsettled, verdict?, he]

lemma isUnsettled_eq_true_iff {pid : Pid} {answer : Except Errno WaitReport} :
    isUnsettled answer = true ↔ verdict? pid answer = none := by
  rw [isUnsettled_eq_isNone_verdict? pid, Option.isNone_iff_eq_none]

lemma isSome_verdict? {pid : Pid} {answer : Except Errno WaitReport}
    (h : isUnsettled answer = false) : (verdict? pid answer).isSome := by
  rw [isUnsettled_eq_isNone_verdict? pid] at h
  simpa using h

/-- A blocking wait comes to the verdict of the answer that settles it. -/
theorem waitFor_eq (pid : Pid) :
    waitFor pid = Dialogue.ask (I := ShellCalls) (.wait pid true) isUnsettled
      fun answer settled => .done ((verdict? pid answer).get (isSome_verdict? settled)) := by
  unfold waitFor
  congr 1
  funext answer settled
  cases answer with
  | error errno =>
    have he : errno ≠ .EINTR := by simpa [isUnsettled] using settled
    simp [verdict?, he]
  | ok report =>
    have hs : report.ending?.isSome := by simpa [isUnsettled] using settled
    obtain ⟨status, hs⟩ := Option.isSome_iff_exists.1 hs
    dsimp only
    split
    · simp_all [verdict?]
    · simp_all

/-- A blocking wait asks until there is a verdict, and the verdict is its result. -/
theorem runs_waitFor_iff {pid : Pid} {t : List Traffic} {result : Except WaitError JobStatus} :
    (waitFor pid).Runs t result ↔
      ∃ (vain : List (Except Errno WaitReport)) (answer : Except Errno WaitReport),
        (∀ v ∈ vain, verdict? pid v = none) ∧ verdict? pid answer = some result ∧
          t = vain.map (Exchange.mk (I := ShellCalls) (.wait pid true)) ++
            [⟨.wait pid true, answer⟩] := by
  rw [waitFor_eq]
  refine Dialogue.runs_ask_iff.trans ⟨?_, ?_⟩
  · rintro ⟨vain, answer, settles, rest, hv, rfl, hr⟩
    obtain ⟨rfl, rfl⟩ := Dialogue.runs_done_iff.1 hr
    refine ⟨vain, answer, ?_, by simp, rfl⟩
    -- an answer that settles nothing is one without a verdict
    intro v hmem
    exact isUnsettled_eq_true_iff.1 (hv v hmem)
  · rintro ⟨vain, answer, hv, hverdict, rfl⟩
    have settles : isUnsettled answer = false := by
      rw [isUnsettled_eq_isNone_verdict? pid, hverdict]
      rfl
    refine ⟨vain, answer, settles, [], ?_, rfl, ?_⟩
    · intro v hmem
      exact isUnsettled_eq_true_iff.2 (hv v hmem)
    · rw [Dialogue.runs_done_iff]
      simp [hverdict]

/-! ## One loop for two -/

/-- A question about a process that is put again for as long as it is interrupted. -/
inductive Heard (pid : Pid) : List Traffic → Except Errno WaitReport → Prop
  | once {answer : Except Errno WaitReport} (heard : answer ≠ .error .EINTR) :
    Heard pid [⟨.wait pid true, answer⟩] answer
  | interrupted {t : List Traffic} {answer : Except Errno WaitReport}
    (later : Heard pid t answer) : Heard pid (⟨.wait pid true, .error .EINTR⟩ :: t) answer

section LoopInLoop

variable {pid : Pid} {t u : List Traffic} {answer : Except Errno WaitReport}
  {result : Except WaitError JobStatus}

lemma Heard.ne_interrupt (h : Heard pid t answer) : answer ≠ .error .EINTR := by
  induction h with
  | once heard => exact heard
  | interrupted _ ih => exact ih

/-- Such a question that is asked anew for as long as the process has not ended. -/
inductive HeardToTheEnd (pid : Pid) : List Traffic → Except WaitError JobStatus → Prop
  | failed {t : List Traffic} {errno : Errno} (asked : Heard pid t (.error errno)) :
    HeardToTheEnd pid t (.error ⟨pid, errno⟩)
  | ended {t : List Traffic} {report : WaitReport} {status : JobStatus}
    (asked : Heard pid t (.ok report)) (ending : report.ending? = some status) :
    HeardToTheEnd pid t (.ok status)
  | anew {t u : List Traffic} {report : WaitReport} {result : Except WaitError JobStatus}
    (asked : Heard pid t (.ok report)) (goesOn : report.ending? = none)
    (later : HeardToTheEnd pid u result) : HeardToTheEnd pid (t ++ u) result

/-- One more interrupt makes no difference. -/
theorem HeardToTheEnd.interrupted (h : HeardToTheEnd pid t result) :
    HeardToTheEnd pid (⟨.wait pid true, .error .EINTR⟩ :: t) result := by
  cases h with
  | failed asked => exact .failed (.interrupted asked)
  | ended asked ending => exact .ended (.interrupted asked) ending
  | anew asked goesOn later => exact .anew (.interrupted asked) goesOn later

lemma HeardToTheEnd.of_vain (vain : verdict? pid answer = none) (h : HeardToTheEnd pid t result) :
    HeardToTheEnd pid (⟨.wait pid true, answer⟩ :: t) result := by
  cases answer with
  | ok report =>
    have goesOn : report.ending? = none := Option.map_eq_none_iff.1 vain
    exact .anew (.once nofun) goesOn h
  | error errno =>
    obtain rfl : errno = .EINTR := by simpa [verdict?] using vain
    exact h.interrupted

lemma heardToTheEnd_of_verdict (settled : verdict? pid answer = some result) :
    HeardToTheEnd pid [⟨.wait pid true, answer⟩] result := by
  cases answer with
  | ok report =>
    obtain ⟨status, ending, rfl⟩ := Option.map_eq_some_iff.1 settled
    exact .ended (.once nofun) ending
  | error errno =>
    by_cases heard : errno = .EINTR
    · simp [verdict?, heard] at settled
    · obtain rfl : .error ⟨pid, errno⟩ = result := by simpa [verdict?, heard] using settled
      exact .failed (.once (by simpa using heard))

lemma runs_waitFor_cons (vain : verdict? pid answer = none) (h : (waitFor pid).Runs t result) :
    (waitFor pid).Runs (⟨.wait pid true, answer⟩ :: t) result := by
  rw [waitFor_eq] at h ⊢
  exact .again answer (isUnsettled_eq_true_iff.2 vain) h

lemma Heard.runs_waitFor (h : Heard pid t answer) (settled : verdict? pid answer = some result) :
    (waitFor pid).Runs t result := by
  induction h with
  | once _ => exact runs_waitFor_iff.2 ⟨[], _, List.forall_mem_nil _, settled, rfl⟩
  | interrupted _ ih => exact runs_waitFor_cons rfl (ih settled)

lemma Heard.runs_waitFor_append (h : Heard pid t answer) (vain : verdict? pid answer = none)
    (later : (waitFor pid).Runs u result) : (waitFor pid).Runs (t ++ u) result := by
  induction h with
  | once _ => exact runs_waitFor_cons vain later
  | interrupted _ ih => exact runs_waitFor_cons rfl (ih vain)

/-- **A loop in a loop comes to the same.** A blocking wait asks about a process until there is a
verdict; it would make no difference to put a question again by itself while it is interrupted, and
to look only at what it comes to in the end. -/
theorem runs_waitFor_iff_heardToTheEnd :
    (waitFor pid).Runs t result ↔ HeardToTheEnd pid t result := by
  constructor
  · intro h
    obtain ⟨vain, answer, unsettled, settled, rfl⟩ := runs_waitFor_iff.1 h
    clear h
    -- each answer in vain is an interrupt of the inner loop, or a round of the outer one
    induction vain with
    | nil => exact heardToTheEnd_of_verdict settled
    | cons v vain ih =>
      rw [List.forall_mem_cons] at unsettled
      exact (ih unsettled.2).of_vain unsettled.1
  · intro h
    induction h with
    | @failed t errno asked =>
      have heard : errno ≠ .EINTR := fun interrupt => asked.ne_interrupt (congrArg _ interrupt)
      exact asked.runs_waitFor (if_neg heard)
    | ended asked ending => exact asked.runs_waitFor (Option.map_eq_some_iff.2 ⟨_, ending, rfl⟩)
    | anew asked goesOn _ ih => exact asked.runs_waitFor_append (Option.map_eq_none_iff.2 goesOn) ih

end LoopInLoop

/-! ## Several processes -/

/-- Waiting for several processes is waiting for the first one and then for the others. -/
theorem runs_waitAll_cons_iff {pid : Pid} {pids : List Pid} {t : List Traffic}
    {before result : Except WaitError JobStatus} :
    (waitAll before (pid :: pids)).Runs t result ↔
      ∃ t₁ t₂ first, t = t₁ ++ t₂ ∧ (waitFor pid).Runs t₁ first ∧
        (waitAll (combine before first) pids).Runs t₂ result := by
  rw [waitAll]
  exact Dialogue.runs_bind_iff

/-- A sweep keeps a process in the table for as long as there is no verdict. -/
lemma Sweep.kept_add (s : Sweep) (pid : Pid) (answer : Except Errno WaitReport) :
    (s.add pid answer).kept =
      if verdict? pid answer = none then pid :: s.kept else s.kept := by
  cases answer with
  | ok report => cases hr : report.ending? <;> simp [Sweep.add, verdict?, hr]
  | error errno => by_cases he : errno = .EINTR <;> simp [Sweep.add, verdict?, he]

/-- A sweep asks about the first process, sweeps the others, and sorts the first one in front of
what was found about them. -/
theorem runs_sweep_cons_iff {pid : Pid} {pids : List Pid} {t : List Traffic} {found : Sweep} :
    (sweep (pid :: pids)).Runs t found ↔
      ∃ (answer : Except Errno WaitReport) (rest : List Traffic) (others : Sweep),
        t = ⟨.wait pid false, answer⟩ :: rest ∧ (sweep pids).Runs rest others ∧
          found = others.add pid answer := by
  rw [sweep]
  refine Shell.runs_call_bind_iff.trans ⟨?_, ?_⟩
  · rintro ⟨answer, t', rfl, h⟩
    obtain ⟨rest, none, others, rfl, hothers, hdone⟩ := Dialogue.runs_bind_iff.1 h
    obtain ⟨rfl, rfl⟩ := Dialogue.runs_done_iff.1 hdone
    exact ⟨answer, rest, others, by simp, hothers, rfl⟩
  · rintro ⟨answer, rest, others, rfl, hothers, rfl⟩
    refine ⟨answer, rest, rfl, Dialogue.runs_bind_iff.2 ?_⟩
    exact ⟨rest, [], others, by simp, hothers, .done _⟩

end Job

end CommandShell
