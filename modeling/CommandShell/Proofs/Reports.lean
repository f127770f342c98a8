import CommandShell.Proofs.History
import Mathlib

/-!
# Reports of background jobs

A report is a sweep over the table, which asks once about each process in it, and then the lines for
those that have ended, up to the first that cannot be written. `ReportRun` lists the ways in which
that can go, in terms of the answers about the processes: `Job.runs_sweep_iff` says that a sweep is
its questions with their answers, `runs_announce_iff` that the lines are those of the processes
found, all of them or a beginning.

The table has been emptied of the processes that have ended before the first line is written.
`report_loses_nothing_iff` says what that means for those who wait to be told: nothing is lost if
and only if every line can be written and every process can be asked about.
`report_loses_crampedReport` is a run in which an end is collected and never told.

Lines are told apart by reading them back, which `Notice.ofText?` does.
-/

namespace CommandShell

/-! ## Lines that tell of background jobs -/

/-- The line that tells of the start of a background process. -/
def startLine (pid : Pid) : String :=
  "Started background job with PID: " ++ toString pid ++ "\n"

/-- What a line tells of a background process. -/
inductive Notice
  | started (pid : Pid)
  | done (pid : Pid)
  deriving DecidableEq, Repr

namespace Notice

/-- What stands in front of the number in the line for a start. -/
def startWords : List Char := "Started background job with PID: ".toList

/-- What stands behind the number in the line for an end. -/
def doneWords : List Char := "] Done (".toList

/-- Reads what stands behind the opening bracket of a line for an end. -/
def ofDoneLine? (rest : List Char) : Option Notice :=
  if doneWords <+: rest.dropWhile (· ≠ ']') ∧ rest.getLast? = some ')' then
    (String.ofList (rest.takeWhile (· ≠ ']'))).toInt?.map done
  else none

/-- Reads a line without the newline at its end. -/
def ofLine? (line : List Char) : Option Notice :=
  if startWords <+: line then
    (String.ofList (line.drop startWords.length)).toInt?.map started
  else if line.head? = some '[' then ofDoneLine? line.tail
  else none

/-- What a text tells of a background process, if it is a line that tells of one. -/
def ofText? (text : String) : Option Notice :=
  if text.toList.getLast? = some '\n' then ofLine? text.toList.dropLast else none

lemma toInt?_digits (pid : Pid) : (String.ofList (toString pid).toList).toInt? = some pid := by
  rw [String.ofList_toList, Int.toString_eq_repr, Int.toInt?_repr]

lemma ne_bracket_of_mem_toString {pid : Pid} {c : Char} (h : c ∈ (toString pid).toList) :
    c ≠ ']' := by
  have digits (n : Nat) : ∀ c ∈ (toString n).toList, c ≠ ']' := by
    intro c hc
    rw [Nat.toString_eq_ofList_toDigits, String.toList_ofList] at hc
    rintro rfl
    exact absurd (Nat.isDigit_of_mem_toDigits (by decide) (by decide) hc) (by decide)
  cases pid with
  | ofNat n => exact digits n c h
  | negSucc n =>
    have h : c ∈ ("-" ++ toString (n + 1)).toList := h
    rw [String.toList_append] at h
    rcases List.mem_append.1 h with hsign | hdigit
    · rintro rfl
      exact absurd hsign (by decide)
    · exact digits (n + 1) c hdigit

@[simp] lemma ofText?_startLine (pid : Pid) : ofText? (startLine pid) = some (.started pid) := by
  have text : (startLine pid).toList = startWords ++ (toString pid).toList ++ ['\n'] := by
    unfold startLine
    rw [String.toList_append, String.toList_append]
    rfl
  unfold ofText?
  rw [text, List.getLast?_concat, if_pos rfl, List.dropLast_concat]
  unfold ofLine?
  rw [if_pos (List.prefix_append _ _), List.drop_left, toInt?_digits]
  rfl

lemma not_begins_with_startWords (rest : List Char) : ¬ startWords <+: '[' :: rest := by
  have first : startWords = 'S' :: startWords.tail := rfl
  rw [first, List.cons_prefix_cons]
  exact fun h => absurd h.1 (by decide)

lemma ofDoneLine?_eq {pid : Pid} (text : List Char) :
    ofDoneLine? ((toString pid).toList ++ (doneWords ++ (text ++ [')']))) = some (.done pid) := by
  have number : ∀ c ∈ (toString pid).toList, decide (c ≠ ']') = true :=
    fun c hc => decide_eq_true (ne_bracket_of_mem_toString hc)
  have taken (rest : List Char) : (doneWords ++ rest).takeWhile (· ≠ ']') = [] := rfl
  have dropped (rest : List Char) :
      (doneWords ++ rest).dropWhile (· ≠ ']') = doneWords ++ rest := rfl
  have last : ((toString pid).toList ++ (doneWords ++ (text ++ [')']))).getLast? = some ')' := by
    rw [← List.append_assoc, ← List.append_assoc, List.getLast?_concat]
  unfold ofDoneLine?
  rw [List.dropWhile_append_of_pos number, List.takeWhile_append_of_pos number, taken, dropped,
    if_pos ⟨List.prefix_append _ _, last⟩, List.append_nil, toInt?_digits]
  rfl

@[simp] lemma ofText?_announcement (pid : Pid) (status : JobStatus) :
    ofText? (State.announcement pid status) = some (.done pid) := by
  have split (a b c d e : String) : (a ++ b ++ c ++ d ++ e).toList =
      a.toList ++ (b.toList ++ (c.toList ++ (d.toList ++ e.toList))) := by
    simp only [String.toList_append, List.append_assoc]
  have text : (State.announcement pid status).toList =
      '[' :: ((toString pid).toList ++ (doneWords ++ (status.text.toList ++ [')']))) ++ ['\n'] := by
    have parts : (State.announcement pid status).toList = "[".toList ++
        ((toString pid).toList ++ (doneWords ++ (status.text.toList ++ ")\n".toList))) := split ..
    have opening : "[".toList = ['['] := rfl
    have ending : ")\n".toList = [')', '\n'] := rfl
    rw [parts, opening, ending]
    simp only [List.append_assoc, List.cons_append, List.nil_append]
  unfold ofText?
  rw [text, List.getLast?_concat, if_pos rfl, List.dropLast_concat]
  unfold ofLine?
  rw [if_neg (not_begins_with_startWords _), List.head?_cons, if_pos rfl, List.tail_cons,
    ofDoneLine?_eq]

lemma ofText?_eq_none_of_head? {text : String} {c : Char} (h : text.toList.head? = some c)
    (hstart : c ≠ 'S') (hdone : c ≠ '[') : ofText? text = none := by
  have same : ∀ first ∈ text.toList.dropLast.head?, first = c := by
    intro first hfirst
    rw [List.head?_dropLast, h] at hfirst
    split at hfirst
    · exact (Option.some.inj hfirst).symm
    · cases hfirst
  have line : ofLine? text.toList.dropLast = none := by
    unfold ofLine?
    rw [if_neg, if_neg]
    · intro hhead
      exact hdone (same _ hhead).symm
    · rintro ⟨rest, hrest⟩
      have hhead : text.toList.dropLast.head? = some 'S' := by
        rw [← hrest]
        rfl
      exact hstart (same _ hhead).symm
  unfold ofText?
  rw [line, ite_self]

lemma ofText?_append_eq_none {a b : String} {c : Char} (h : b.toList.getLast? = some c)
    (hc : c ≠ '\n') : ofText? (a ++ b) = none := by
  unfold ofText?
  rw [String.toList_append, List.getLast?_append, h]
  exact if_neg fun hlast => hc (Option.some.inj hlast)

lemma ofText?_newline : ofText? "\n" = none := by decide

/-- The line for an end tells of one process. -/
lemma announcement_inj {pid pid' : Pid} {status status' : JobStatus}
    (h : State.announcement pid status = State.announcement pid' status') : pid = pid' := by
  have hread := congrArg ofText? h
  rw [ofText?_announcement, ofText?_announcement] at hread
  cases hread
  rfl

end Notice

/-! ## Sweeps -/

namespace Job

/-- A process of the table, and the answer to the question about it. -/
abbrev Asked := Pid × Except Errno WaitReport

/-- The question that a sweep asks about a process, with the answer to it. -/
def question (asked : Asked) : Traffic :=
  ⟨.wait asked.1 false, asked.2⟩

/-- What a sweep makes of the answers. -/
def Sweep.ofAnswers : List Asked → Sweep
  | [] => {}
  | (pid, answer) :: rest => (ofAnswers rest).add pid answer

/-- A sweep is one question about each process of the table, in order. -/
theorem runs_sweep_iff {pids : List Pid} {t : List Traffic} {found : Sweep} :
    (sweep pids).Runs t found ↔ ∃ asked : List Asked,
      asked.map Prod.fst = pids ∧ t = asked.map question ∧ found = .ofAnswers asked := by
  induction pids generalizing t found with
  | nil =>
    refine Dialogue.runs_done_iff.trans ⟨?_, ?_⟩
    · rintro ⟨rfl, rfl⟩
      exact ⟨[], rfl, rfl, rfl⟩
    · rintro ⟨asked, hpids, rfl, rfl⟩
      obtain rfl := List.map_eq_nil_iff.1 hpids
      exact ⟨rfl, rfl⟩
  | cons pid pids ih =>
    refine runs_sweep_cons_iff.trans ⟨?_, ?_⟩
    · rintro ⟨answer, rest, others, rfl, hrest, rfl⟩
      obtain ⟨asked, rfl, rfl, rfl⟩ := ih.1 hrest
      exact ⟨(pid, answer) :: asked, rfl, rfl, rfl⟩
    · rintro ⟨asked, hpids, rfl, rfl⟩
      obtain ⟨⟨_, answer⟩, asked, rfl, rfl, rfl⟩ := List.map_eq_cons_iff.1 hpids
      exact ⟨answer, asked.map question, .ofAnswers asked, rfl, ih.2 ⟨asked, rfl, rfl, rfl⟩, rfl⟩

/-- An end is what a report of one settles. -/
lemma verdict?_eq_some_ok_iff {pid : Pid} {answer : Except Errno WaitReport}
    {status : JobStatus} : verdict? pid answer = some (.ok status) ↔
      ∃ report, answer = .ok report ∧ report.ending? = some status := by
  cases answer with
  | ok report => simp [verdict?]
  | error errno => by_cases he : errno = .EINTR <;> simp [verdict?, he]

namespace Sweep

variable {asked : List Asked} {pid : Pid}

/-- What becomes of a process is a matter of the verdict on it. -/
lemma add_eq (found : Sweep) (pid : Pid) (answer : Except Errno WaitReport) :
    found.add pid answer = match verdict? pid answer with
      | none => { found with kept := pid :: found.kept }
      | some (.ok status) => { found with finished := (pid, status) :: found.finished }
      | some (.error _) => found := by
  cases answer with
  | ok report => cases hr : report.ending? <;> simp [add, verdict?, hr]
  | error errno => by_cases he : errno = .EINTR <;> simp [add, verdict?, he]

/-- The end that an answer tells of. -/
def ended? (asked : Asked) : Option (Pid × JobStatus) :=
  match verdict? asked.1 asked.2 with
  | some (.ok status) => some (asked.1, status)
  | _ => none

lemma ended?_eq_some_iff {x : Asked} {status : JobStatus} :
    ended? x = some (pid, status) ↔ x.1 = pid ∧ verdict? pid x.2 = some (.ok status) := by
  obtain ⟨other, answer⟩ := x
  unfold ended?
  constructor
  · intro h
    split at h
    · rename_i hverdict
      cases h
      exact ⟨rfl, hverdict⟩
    · cases h
  · rintro ⟨rfl, hverdict⟩
    simp [hverdict]

/-- The processes that stay are those without a verdict. -/
theorem kept_ofAnswers (asked : List Asked) : (ofAnswers asked).kept =
    (asked.filter fun x => (verdict? x.1 x.2).isNone).map Prod.fst := by
  induction asked with
  | nil => rfl
  | cons x asked ih =>
    obtain ⟨other, answer⟩ := x
    rw [ofAnswers, kept_add, ih]
    cases hverdict : verdict? other answer <;> simp [hverdict]

/-- The processes that have ended are those with an end for a verdict. -/
theorem finished_ofAnswers (asked : List Asked) :
    (ofAnswers asked).finished = asked.filterMap ended? := by
  induction asked with
  | nil => rfl
  | cons x asked ih =>
    obtain ⟨other, answer⟩ := x
    rw [ofAnswers, add_eq, List.filterMap_cons, ← ih]
    unfold ended?
    match verdict? other answer with
    | none => rfl
    | some (.ok status) => rfl
    | some (.error e) => rfl

lemma mem_kept_iff : pid ∈ (ofAnswers asked).kept ↔
    ∃ answer, (pid, answer) ∈ asked ∧ verdict? pid answer = none := by
  rw [kept_ofAnswers]
  simp

lemma mem_finished_iff {status : JobStatus} : (pid, status) ∈ (ofAnswers asked).finished ↔
    ∃ answer, (pid, answer) ∈ asked ∧ verdict? pid answer = some (.ok status) := by
  rw [finished_ofAnswers, List.mem_filterMap]
  constructor
  · rintro ⟨⟨other, answer⟩, hmem, hended⟩
    obtain ⟨rfl, hverdict⟩ := ended?_eq_some_iff.1 hended
    exact ⟨answer, hmem, hverdict⟩
  · rintro ⟨answer, hmem, hverdict⟩
    exact ⟨(pid, answer), hmem, ended?_eq_some_iff.2 ⟨rfl, hverdict⟩⟩

/-- No process is found to have ended more often than it was asked about. -/
lemma finished_sublist (asked : List Asked) :
    ((ofAnswers asked).finished.map Prod.fst).Sublist (asked.map Prod.fst) := by
  rw [finished_ofAnswers]
  induction asked with
  | nil => exact List.Sublist.refl _
  | cons x asked ih =>
    rw [List.filterMap_cons, List.map_cons]
    cases hended : ended? x with
    | none => exact ih.cons _
    | some ending =>
      obtain ⟨pid, status⟩ := ending
      obtain ⟨rfl, -⟩ := ended?_eq_some_iff.1 hended
      exact ih.cons_cons _

/-- A process that stays is one of those that were asked about, and has not been found to have
ended. -/
lemma stays_of_mem_kept (distinct : (asked.map Prod.fst).Nodup)
    (hkept : pid ∈ (ofAnswers asked).kept) :
    pid ∈ asked.map Prod.fst ∧ pid ∉ (ofAnswers asked).finished.map Prod.fst := by
  obtain ⟨answer, hanswer, hopen⟩ := mem_kept_iff.1 hkept
  refine ⟨List.mem_map.2 ⟨_, hanswer, rfl⟩, fun hended => ?_⟩
  obtain ⟨⟨pid, status⟩, hfinished, rfl⟩ := List.mem_map.1 hended
  obtain ⟨other, hother, hverdict⟩ := mem_finished_iff.1 hfinished
  have same := (Prod.mk.inj (List.inj_on_of_nodup_map distinct hanswer hother rfl)).2
  rw [← same, hopen] at hverdict
  cases hverdict

end Sweep

end Job

/-! ## Telling of ends -/

/-- The exchange by which an end has been told. -/
def endTold (ending : Pid × JobStatus) : Traffic :=
  ⟨.write .output (State.announcement ending.1 ending.2), .ok ()⟩

/-- The exchange in which an end could not be told. -/
def endUntold (ending : Pid × JobStatus) (e : IoError) : Traffic :=
  ⟨.write .output (State.announcement ending.1 ending.2), .error e⟩

/-- Ends are told one by one, all of them or up to the first that cannot be told. -/
theorem runs_announce_iff {finished : List (Pid × JobStatus)} {t : List Traffic}
    {result : Except IoError Unit} : (State.announce finished).Runs t result ↔
      (t = finished.map endTold ∧ result = .ok ()) ∨
        ∃ told last lost e, finished = told ++ last :: lost ∧
          t = told.map endTold ++ [endUntold last e] ∧ result = .error e := by
  -- at each line the telling ends or goes on, which adds the line to what has been told
  induction finished generalizing t with
  | nil => simp [State.announce]
  | cons first rest ih =>
    obtain ⟨pid, status⟩ := first
    refine Shell.runs_call_bind_iff.trans ⟨?_, ?_⟩
    · rintro ⟨answer, t, rfl, hnext⟩
      cases answer with
      | error e =>
        obtain ⟨rfl, rfl⟩ := Dialogue.runs_done_iff.1 hnext
        exact .inr ⟨[], (pid, status), rest, e, rfl, rfl, rfl⟩
      | ok _ =>
        rcases ih.1 hnext with ⟨rfl, rfl⟩ | ⟨told, last, lost, e, rfl, rfl, rfl⟩
        · exact .inl ⟨rfl, rfl⟩
        · exact .inr ⟨(pid, status) :: told, last, lost, e, rfl, rfl, rfl⟩
    · rintro (⟨rfl, rfl⟩ | ⟨told, last, lost, e, hfinished, rfl, rfl⟩)
      · exact ⟨.ok (), _, rfl, ih.2 (.inl ⟨rfl, rfl⟩)⟩
      · cases told with
        | nil =>
          cases hfinished
          exact ⟨.error e, [], rfl, .done _⟩
        | cons _ told =>
          cases hfinished
          exact ⟨.ok (), _, rfl, ih.2 (.inr ⟨told, last, lost, e, rfl, rfl, rfl⟩)⟩

/-- `ReportRun s t s' result`: the ways in which a report can go. `asked` are the processes of the
table with the answers about them. -/
inductive ReportRun (s : State) : List Traffic → State → Except IoError Unit → Prop
  /-- The settings say that nothing is to be told. -/
  | silent {asked : List Job.Asked} (table : asked.map Prod.fst = s.jobs)
      (off : s.config.reportBackgroundCompletion = false) :
      ReportRun s (asked.map Job.question) { s with jobs := (Job.Sweep.ofAnswers asked).kept }
        (.ok ())
  | told {asked : List Job.Asked} (table : asked.map Prod.fst = s.jobs)
      (on : s.config.reportBackgroundCompletion = true) :
      ReportRun s (asked.map Job.question ++ (Job.Sweep.ofAnswers asked).finished.map endTold)
        { s with jobs := (Job.Sweep.ofAnswers asked).kept } (.ok ())
  /-- A line cannot be written, and the ends behind it are not told any more. -/
  | brokenOff {asked : List Job.Asked} {told lost : List (Pid × JobStatus)}
      {last : Pid × JobStatus} {e : IoError} (table : asked.map Prod.fst = s.jobs)
      (on : s.config.reportBackgroundCompletion = true)
      (finished : (Job.Sweep.ofAnswers asked).finished = told ++ last :: lost) :
      ReportRun s (asked.map Job.question ++ (told.map endTold ++ [endUntold last e]))
        { s with jobs := (Job.Sweep.ofAnswers asked).kept } (.error e)

/-- There are no other ways for a report to go. -/
theorem ReportRun.of_runs {s s' : State} {t : List Traffic} {result : Except IoError Unit}
    (h : s.reportFinished.Runs t (s', result)) : ReportRun s t s' result := by
  unfold State.reportFinished at h
  obtain ⟨t, u, found, rfl, hsweep, hnext⟩ := Dialogue.runs_bind_iff.1 h
  obtain ⟨asked, table, rfl, rfl⟩ := Job.runs_sweep_iff.1 hsweep
  dsimp only at hnext
  split at hnext
  · rename_i on
    obtain ⟨u, _, written, rfl, hannounce, hdone⟩ := Dialogue.runs_bind_iff.1 hnext
    obtain ⟨rfl, rfl, rfl⟩ := Dialogue.runs_done_mk_iff.1 hdone
    rw [List.append_nil]
    rcases runs_announce_iff.1 hannounce with ⟨rfl, rfl⟩ | ⟨told, last, lost, e, hlost, rfl, rfl⟩
    · exact .told table on
    · exact .brokenOff table on hlost
  · rename_i off
    obtain ⟨rfl, rfl, rfl⟩ := Dialogue.runs_done_mk_iff.1 hnext
    rw [List.append_nil]
    exact .silent table (by simpa using off)

/-! ## What a report shows -/

/-- The answer of an exchange that asks about a process without waiting for it. -/
def Traffic.answer? : Traffic → Option Job.Asked
  | ⟨.wait pid false, answer⟩ => some (pid, answer)
  | _ => none

/-- The text of an exchange that the output has taken. -/
def Traffic.written? : Traffic → Option String
  | ⟨.write .output text, .ok _⟩ => some text
  | _ => none

/-- The answers about processes that the shell did not wait for. -/
def answers (t : List Traffic) : List Job.Asked := t.filterMap Traffic.answer?

/-- All that the output has taken, text by text. -/
def written (t : List Traffic) : List String := t.filterMap Traffic.written?

@[simp] lemma answers_append (t u : List Traffic) : answers (t ++ u) = answers t ++ answers u :=
  List.filterMap_append

@[simp] lemma written_append (t u : List Traffic) : written (t ++ u) = written t ++ written u :=
  List.filterMap_append

/-- The line for an end. -/
def endLine (ending : Pid × JobStatus) : String :=
  State.announcement ending.1 ending.2

@[simp] lemma views_map_question (asked : List Job.Asked) :
    answers (asked.map Job.question) = asked ∧ written (asked.map Job.question) = [] := by
  unfold answers written
  rw [List.filterMap_map, List.filterMap_map]
  exact ⟨List.filterMap_some, List.filterMap_eq_nil_iff.2 fun _ _ => rfl⟩

@[simp] lemma views_map_endTold (told : List (Pid × JobStatus)) :
    answers (told.map endTold) = [] ∧ written (told.map endTold) = told.map endLine := by
  unfold answers written
  rw [List.filterMap_map, List.filterMap_map]
  refine ⟨List.filterMap_eq_nil_iff.2 fun _ _ => rfl, ?_⟩
  rw [← List.filterMap_eq_map]
  rfl

/-- A report that tells ends, seen from its transcript: the answers about the processes of the
table, and the ends that have been told of those that were found. -/
structure Telling (s : State) (t : List Traffic) (s' : State) (result : Except IoError Unit)
    (told lost : List (Pid × JobStatus)) : Prop where
  table : (answers t).map Prod.fst = s.jobs
  kept : s'.jobs = (Job.Sweep.ofAnswers (answers t)).kept
  finished : (Job.Sweep.ofAnswers (answers t)).finished = told ++ lost
  lines : written t = told.map endLine
  /-- All of them have been told if the report goes well, and only then. -/
  all : result = .ok () ↔ lost = []

lemma ReportRun.exists_telling {s s' : State} {t : List Traffic} {result : Except IoError Unit}
    (h : ReportRun s t s' result) (on : s.config.reportBackgroundCompletion = true) :
    ∃ told lost, Telling s t s' result told lost := by
  -- `found`: the answers in the whole transcript are those of the sweep
  cases h with
  | silent _ off =>
    rw [on] at off
    cases off
  | @told asked table _ =>
    have found : answers (asked.map Job.question ++
        (Job.Sweep.ofAnswers asked).finished.map endTold) = asked := by simp
    refine ⟨(Job.Sweep.ofAnswers asked).finished, [], ?_, ?_, ?_, by simp, by simp⟩
    · rwa [found]
    · rw [found]
    · rw [found, List.append_nil]
  | @brokenOff asked told lost last e table _ finished =>
    have silent : answers [endUntold last e] = [] ∧ written [endUntold last e] = [] := ⟨rfl, rfl⟩
    have found : answers (asked.map Job.question ++
        (told.map endTold ++ [endUntold last e])) = asked := by simp [silent]
    refine ⟨told, last :: lost, ?_, ?_, ?_, by simp [silent], by simp⟩
    · rwa [found]
    · rw [found]
    · rwa [found]

/-- What those who wait to be told can ask for. -/
structure NothingLost (s : State) (t : List Traffic) (s' : State) : Prop where
  /-- An end that the system has told the shell has been told. -/
  told : ∀ pid report status, (pid, .ok report) ∈ answers t → report.ending? = some status →
    State.announcement pid status ∈ written t
  /-- So has one whose status cannot be read, which arrives as a failure. -/
  unreadable : ∀ pid, (pid, .error .EINVAL) ∈ answers t →
    ∃ status, State.announcement pid status ∈ written t
  /-- A process of which nothing has been told stays in the table. -/
  kept : ∀ pid ∈ s.jobs, (∀ status, State.announcement pid status ∉ written t) → pid ∈ s'.jobs

namespace Telling

variable {s s' : State} {t : List Traffic} {result : Except IoError Unit}
  {told lost : List (Pid × JobStatus)} {pid : Pid} {answer other : Except Errno WaitReport}

lemma exists_answer (h : Telling s t s' result told lost) (own : pid ∈ s.jobs) :
    ∃ answer, (pid, answer) ∈ answers t := by
  rw [← h.table] at own
  obtain ⟨⟨pid, answer⟩, hmem, rfl⟩ := List.mem_map.1 own
  exact ⟨answer, hmem⟩

lemma answer_unique (h : Telling s t s' result told lost) (distinct : s.jobs.Nodup)
    (first : (pid, answer) ∈ answers t) (second : (pid, other) ∈ answers t) : answer = other := by
  rw [← h.table] at distinct
  have hpair := List.inj_on_of_nodup_map distinct first second rfl
  exact (Prod.mk.inj hpair).2

/-- The ends that are told or lost are those that the answers tell of. -/
lemma mem_append_iff {status : JobStatus} (h : Telling s t s' result told lost) :
    (pid, status) ∈ told ++ lost ↔
      ∃ answer, (pid, answer) ∈ answers t ∧ Job.verdict? pid answer = some (.ok status) := by
  rw [← h.finished]
  exact Job.Sweep.mem_finished_iff

/-- A line that has been written is that of a process which was found to have ended. -/
lemma exists_told {status : JobStatus} (h : Telling s t s' result told lost)
    (hline : State.announcement pid status ∈ written t) : ∃ ending, (pid, ending) ∈ told := by
  rw [h.lines] at hline
  obtain ⟨⟨pid', ending⟩, hmem, hsame⟩ := List.mem_map.1 hline
  obtain rfl : pid' = pid := Notice.announcement_inj hsame
  exact ⟨ending, hmem⟩

lemma nodup_append (h : Telling s t s' result told lost) (distinct : s.jobs.Nodup) :
    ((told ++ lost).map Prod.fst).Nodup := by
  rw [← h.finished]
  exact (Job.Sweep.finished_sublist (answers t)).nodup (h.table ▸ distinct)

/-- If all collected ends have been told, then no end has been passed over: its line would have to
be that of another end of the same process. -/
lemma lost_eq_nil (h : Telling s t s' result told lost) (distinct : s.jobs.Nodup)
    (nothingLost : NothingLost s t s') : lost = [] := by
  refine List.eq_nil_iff_forall_not_mem.2 ?_
  rintro ⟨pid, status⟩ hlost
  obtain ⟨answer, hanswer, hverdict⟩ := h.mem_append_iff.1 (List.mem_append_right told hlost)
  obtain ⟨report, rfl, hending⟩ := Job.verdict?_eq_some_ok_iff.1 hverdict
  have hline := nothingLost.told pid report status hanswer hending
  obtain ⟨ending, htold⟩ := h.exists_told hline
  have hdistinct := h.nodup_append distinct
  rw [List.map_append, List.nodup_append'] at hdistinct
  exact hdistinct.2.2 (List.mem_map.2 ⟨_, htold, rfl⟩) (List.mem_map.2 ⟨_, hlost, rfl⟩)

/-- If nothing is lost, then no question has failed: the process would be out of the table, and
nothing has been told of it. -/
lemma interrupted (h : Telling s t s' result told lost) (distinct : s.jobs.Nodup)
    (nothingLost : NothingLost s t s') {errno : Errno}
    (hanswer : (pid, .error errno) ∈ answers t) : errno = .EINTR := by
  refine Classical.byContradiction fun he => ?_
  have hverdict : Job.verdict? pid (.error errno) = some (.error ⟨pid, errno⟩) := by
    simp [Job.verdict?, he]
  have untold : ∀ status, State.announcement pid status ∉ written t := by
    intro status hline
    obtain ⟨ending, htold⟩ := h.exists_told hline
    obtain ⟨other, hother, hended⟩ := h.mem_append_iff.1 (List.mem_append_left lost htold)
    rw [← h.answer_unique distinct hanswer hother, hverdict] at hended
    cases hended
  have own : pid ∈ s.jobs := h.table ▸ List.mem_map_of_mem hanswer
  have hkept := nothingLost.kept pid own untold
  rw [h.kept, Job.Sweep.mem_kept_iff] at hkept
  obtain ⟨other, hother, hopen⟩ := hkept
  rw [← h.answer_unique distinct hanswer hother, hverdict] at hopen
  cases hopen

/-- If all ends have been told and no question has failed, then nothing is lost. -/
lemma nothingLost (h : Telling s t s' result told [])
    (interrupted : ∀ pid errno, (pid, .error errno) ∈ answers t → errno = .EINTR) :
    NothingLost s t s' := by
  have line {pid : Pid} {status : JobStatus} {answer : Except Errno WaitReport}
      (hanswer : (pid, answer) ∈ answers t)
      (hverdict : Job.verdict? pid answer = some (.ok status)) :
      State.announcement pid status ∈ written t := by
    have htold := h.mem_append_iff.2 ⟨answer, hanswer, hverdict⟩
    rw [List.append_nil] at htold
    rw [h.lines]
    exact List.mem_map.2 ⟨(pid, status), htold, rfl⟩
  refine ⟨fun pid report status hanswer hending => ?_, fun pid hanswer => ?_,
    fun pid own untold => ?_⟩
  -- an end has been told; no answer but an interruption failed; what is unsettled stays
  · exact line hanswer (Job.verdict?_eq_some_ok_iff.2 ⟨report, rfl, hending⟩)
  · exact absurd (interrupted pid .EINVAL hanswer) (by decide)
  · obtain ⟨answer, hanswer⟩ := h.exists_answer own
    rw [h.kept, Job.Sweep.mem_kept_iff]
    refine ⟨answer, hanswer, ?_⟩
    cases answer with
    | error errno =>
      obtain rfl := interrupted pid errno hanswer
      rfl
    | ok report =>
      cases hending : report.ending? with
      | none => simp [Job.verdict?, hending]
      | some status =>
        have hline := line hanswer (Job.verdict?_eq_some_ok_iff.2 ⟨report, rfl, hending⟩)
        exact absurd hline (untold status)

end Telling

/-- **When a report loses nothing.** Every end that the shell has collected is told, and every
process of which nothing is told stays in the table, if and only if all lines can be written and no
question fails, but for interruptions. For a line that cannot be written comes too late to keep its
process, and those of the lines behind it, in the table; and a process whose status cannot be read
is dropped without a line. -/
theorem report_loses_nothing_iff {s s' : State} {t : List Traffic} {result : Except IoError Unit}
    (run : s.reportFinished.Runs t (s', result))
    (on : s.config.reportBackgroundCompletion = true) (distinct : s.jobs.Nodup) :
    NothingLost s t s' ↔
      result = .ok () ∧ ∀ pid errno, (pid, .error errno) ∈ answers t → errno = .EINTR := by
  obtain ⟨told, lost, telling⟩ := (ReportRun.of_runs run).exists_telling on
  constructor
  · intro nothingLost
    refine ⟨telling.all.2 (telling.lost_eq_nil distinct nothingLost), fun pid errno hanswer => ?_⟩
    exact telling.interrupted distinct nothingLost hanswer
  · rintro ⟨hresult, interrupted⟩
    obtain rfl := telling.all.1 hresult
    exact telling.nothingLost interrupted

/-- A report on three processes, of which one has exited, one cannot be asked about for now, and one
has been killed. -/
def patientReport : List Traffic :=
  [(20, .ok (.exited 3)), (21, .error .EINTR), (22, .ok (.signaled .SIGTERM false))].map
      Job.question ++
    [(20, .exited 3), (22, .signaled .SIGTERM)].map endTold

theorem report_loses_nothing_iff_patientReport :
    ({ State.start {} "/" false with jobs := [20, 21, 22] }).reportFinished.Runs patientReport
        ({ State.start {} "/" false with jobs := [21] }, .ok ()) ∧
      (NothingLost { State.start {} "/" false with jobs := [20, 21, 22] } patientReport
          { State.start {} "/" false with jobs := [21] } ↔
        (Except.ok () : Except IoError Unit) = .ok () ∧
          ∀ pid errno, (pid, .error errno) ∈ answers patientReport → errno = .EINTR) := by
  have run : ({ State.start {} "/" false with jobs := [20, 21, 22] }).reportFinished.Runs
      patientReport ({ State.start {} "/" false with jobs := [21] }, .ok ()) :=
    Dialogue.runs_of_replay? rfl
  exact ⟨run, report_loses_nothing_iff run rfl (by decide)⟩

/-! ## Ends that are lost -/

/-- What the system has to say about a child that a signal has ended can be read if the signal is a
standard one, and arrives as a failure if it is a real-time signal. -/
lemma WaitReport.ofWord_killed {signal : Nat} (h : 1 ≤ signal ∧ signal ≤ 64) :
    WaitReport.ofWord signal = match Signal.ofNumber? signal with
      | some standard => .ok (.signaled standard false)
      | none => .error .EINVAL := by
  have low : signal % 128 = signal := Nat.mod_eq_of_lt (by omega)
  have undumped : signal / 128 % 2 ≠ 1 := by omega
  unfold WaitReport.ofWord
  dsimp only
  rw [low, if_neg (by omega), if_pos (by omega)]
  unfold WaitReport.readSignal
  cases Signal.ofNumber? signal with
  | none => rfl
  | some standard => simp [bind, Except.bind, undumped]

/-- A report on a process that has exited, when the output takes nothing. -/
def crampedReport : List Traffic :=
  [Job.question (20, .ok (.exited 0)), endUntold (20, .exited 0) (.os .ENOSPC)]

/-- A report on a process that a real-time signal has ended. -/
def mutedReport : List Traffic := [Job.question (20, WaitReport.ofWord 34)]

theorem report_loses_crampedReport :
    (({ State.start {} "/" false with jobs := [20] }).reportFinished.Runs crampedReport
        (State.start {} "/" false, .error (.os .ENOSPC)) ∧
      ¬ NothingLost { State.start {} "/" false with jobs := [20] } crampedReport
        (State.start {} "/" false)) ∧
    (({ State.start {} "/" false with jobs := [20] }).reportFinished.Runs mutedReport
        (State.start {} "/" false, .ok ()) ∧
      ¬ NothingLost { State.start {} "/" false with jobs := [20] } mutedReport
        (State.start {} "/" false)) := by
  refine ⟨⟨Dialogue.runs_of_replay? rfl, fun h => ?_⟩, Dialogue.runs_of_replay? rfl, fun h => ?_⟩
  · exact List.not_mem_nil (h.told 20 (.exited 0) (.exited 0) List.mem_cons_self rfl)
  · have unreadable : WaitReport.ofWord 34 = .error .EINVAL :=
      WaitReport.ofWord_killed (by decide)
    have collected : (20, .error .EINVAL) ∈ answers mutedReport := by
      rw [← unreadable]
      exact List.mem_cons_self
    obtain ⟨status, hline⟩ := h.unreadable 20 collected
    exact List.not_mem_nil hline

end CommandShell
