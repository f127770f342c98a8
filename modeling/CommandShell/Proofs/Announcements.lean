import CommandShell.Proofs.Children
import CommandShell.Proofs.Outcome

/-!
# Starts and ends are told in step

Over the life of a shell two kinds of lines tell of background processes: one when a process is
started, one when it is found to have ended. `announcements_match` says how the lines fit together,
over every history in which the output takes all that is written and the settings ask for reports:
a line for an end has a line for a start right before it among the lines for that number; both are
only written for children that run apart; and the starts that were told are the ends that were told,
the processes that were dropped and those that are still in the table.

What an operation can do about this is one of three things (`Announces`): nothing, the start of one
process, or a sweep. `AnnouncementsMatch` is the invariant; each of the three preserves it, and
`AnnouncementsMatch.of_history` puts the operations together. That no number stands twice in the
table, and that a new child has a number which is not in it, comes from `Accounted`.
-/

namespace CommandShell

/-! ## The lines of a transcript -/

/-- What an exchange tells of a background process. -/
def Traffic.notice? (x : Traffic) : Option Notice :=
  x.written?.bind Notice.ofText?

lemma Traffic.notice?_write (text : String) (taken : Unit) :
    Traffic.notice? ⟨.write .output text, .ok taken⟩ = Notice.ofText? text := rfl

/-- What has been told of background processes, in order. -/
def notices (t : List Traffic) : List Notice := t.filterMap Traffic.notice?

@[simp] lemma notices_append (t u : List Traffic) : notices (t ++ u) = notices t ++ notices u :=
  List.filterMap_append

/-- The output has failed in an exchange. -/
def Traffic.isFailedWrite : Traffic → Bool
  | ⟨.write .output _, .error _⟩ => true
  | _ => false

/-! ## Operations that tell nothing -/

/-- Nothing is told of background processes and nothing asked about them, and the table stays as it
is. -/
structure Quiet (s : State) (t : List Traffic) (s' : State) : Prop where
  still : ∀ x ∈ t, x.notice? = none ∧ x.answer? = none
  table : s'.jobs = s.jobs

lemma Traffic.quiet_of_isProcessCall {x : Traffic}
    (h : ShellCall.isProcessCall x.request = true) : x.notice? = none ∧ x.answer? = none := by
  obtain ⟨request, answer⟩ := x
  cases request with
  | write _ _ => exact absurd h Bool.false_ne_true
  | wait pid block =>
    have h : block = true := h
    subst h
    exact ⟨rfl, rfl⟩
  | _ => exact ⟨rfl, rfl⟩

lemma Traffic.answer?_of_isShowing {x : Traffic} (h : ShellCall.isShowing x.request = true) :
    x.answer? = none := by
  obtain ⟨request, answer⟩ := x
  cases request with
  | wait _ _ => exact absurd h Bool.false_ne_true
  | _ => rfl

lemma Traffic.answer?_of_isBuiltinCall {x : Traffic}
    (h : ShellCall.isBuiltinCall x.request = true) : x.answer? = none := by
  obtain ⟨request, answer⟩ := x
  cases request with
  | wait _ _ => exact absurd h Bool.false_ne_true
  | _ => rfl

lemma Notice.ofText?_listing : Notice.ofText? Builtin.listing = none := by
  have more {a b : String} (h : a.toList.head? = some 'O') : (a ++ b).toList.head? = some 'O' := by
    rw [String.toList_append, List.head?_append, h]
    rfl
  have title : "Orbit Shell\n".toList.head? = some 'O' := rfl
  have first : Builtin.listing.toList.head? = some 'O' :=
    more (more (more (more (more (more title)))))
  exact ofText?_eq_none_of_head? first (by decide) (by decide)

namespace Quiet

variable {s s' : State} {t u : List Traffic}

lemma of_nil (table : s'.jobs = s.jobs) : Quiet s [] s' :=
  ⟨by simp, table⟩

lemma append (first : Quiet s t s') (still : ∀ x ∈ u, x.notice? = none ∧ x.answer? = none) :
    Quiet s (t ++ u) s' :=
  ⟨List.forall_mem_append.2 ⟨first.still, still⟩, first.table⟩

/-- Processes are started and waited for, and something is done after that. -/
lemma of_job (calls : ∀ x ∈ t, ShellCall.isProcessCall x.request = true)
    (still : ∀ x ∈ u, x.notice? = none ∧ x.answer? = none) (table : s'.jobs = s.jobs) :
    Quiet s (⟨.flush .output, .ok ()⟩ :: (t ++ u)) s' := by
  refine ⟨List.forall_mem_cons.2 ⟨⟨rfl, rfl⟩, List.forall_mem_append.2 ⟨?_, still⟩⟩, table⟩
  exact fun x hx => Traffic.quiet_of_isProcessCall (calls x hx)

end Quiet

lemma BuiltinRun.silent {s s' : State} {sink : Sink} {builtin : Builtin}
    {arguments : List String} {t : List Traffic} {result : Except BuiltinError Flow}
    (h : BuiltinRun s sink builtin arguments t s' result) : ∀ x ∈ t, x.notice? = none := by
  have listing (answer : Except IoError Unit) :
      Traffic.notice? ⟨.write sink Builtin.listing, answer⟩ = none := by
    cases sink with
    | file fd => rfl
    | output =>
      cases answer with
      | error e => rfl
      | ok taken => exact (Traffic.notice?_write _ taken).trans Notice.ofText?_listing
  cases h with
  | exit | nowhere => exact fun x hx => absurd hx List.not_mem_nil
  | unresolved => exact List.forall_mem_singleton.2 rfl
  | notDirectory _ | moved => exact List.forall_mem_cons.2 ⟨rfl, List.forall_mem_singleton.2 rfl⟩
  | unwritten => exact List.forall_mem_singleton.2 (listing _)
  | unflushed | listed =>
    exact List.forall_mem_cons.2 ⟨listing _, List.forall_mem_singleton.2 rfl⟩

/-- A line with a built-in command tells nothing of background processes. -/
theorem Quiet.of_runs_runBuiltin {s s' : State} {builtin : Builtin} {plan : Plan}
    {t : List Traffic} {result : Except CommandError Flow}
    (h : (s.runBuiltin builtin plan).Runs t (s', result)) : Quiet s t s' := by
  obtain ⟨hcalls, agrees⟩ := (s.runBuiltin_actsAsBuiltin builtin plan).of_runs h
  have silent : ∀ x ∈ t, x.notice? = none := by
    cases BuiltinPlanRun.of_runs h with
    | exit _ | refused _ _ => exact fun x hx => absurd hx List.not_mem_nil
    | direct _ _ _ run => exact run.silent
    | unopened _ _ _ => exact List.forall_mem_singleton.2 rfl
    | redirected _ _ _ run =>
      refine List.forall_mem_cons.2 ⟨rfl, List.forall_mem_append.2 ⟨run.silent, ?_⟩⟩
      exact List.forall_mem_singleton.2 rfl
  refine ⟨fun x hx => ⟨silent x hx, ?_⟩, agrees.jobs_eq⟩
  exact Traffic.answer?_of_isBuiltinCall (hcalls x hx)

/-! ## What an operation does -/

/-- The ways in which an operation can deal with background processes, when the output takes all
that is written and the settings ask for reports. -/
inductive Announces (s : State) : List Traffic → State → Prop
  | quiet {t : List Traffic} {s' : State} (quiet : Quiet s t s') (first : AttemptsFirst t) :
      Announces s t s'
  /-- A child that runs apart is made, taken into the table and told of. -/
  | started {child : Child} {pid : Pid} {s' : State} (apart : child.RunsApart)
      (table : s'.jobs = s.jobs ++ [pid]) :
      Announces s (backgroundStart child pid (.ok ())) s'
  /-- The table is swept, and all ends that are found are told. -/
  | swept {asked : List Job.Asked} {s' : State} (table : asked.map Prod.fst = s.jobs)
      (kept : s'.jobs = (Job.Sweep.ofAnswers asked).kept) :
      Announces s (asked.map Job.question ++ (Job.Sweep.ofAnswers asked).finished.map endTold) s'

section Operations

variable {s s' : State} {t : List Traffic}

lemma JobRun.quiet_or_started {plan : Plan} {result : Except CommandError Flow}
    (h : JobRun s plan t s' result) (alone : plan.background = true → plan.right = none)
    (written : ∀ x ∈ t, x.isFailedWrite = false) :
    Quiet s t s' ∨ (result = .ok .continue ∧ Announces s t s') := by
  -- whatever the job comes to, it has been waited for with calls about processes only
  have waited {u : List Traffic} {job : Job} {waiting : List Traffic}
      {ending : Except WaitError JobStatus} (launched : LaunchRun plan s.workingDir u (.ok job))
      (waits : job.wait.Runs waiting ending) :
      ∀ x ∈ u ++ waiting, ShellCall.isProcessCall x.request = true :=
    List.forall_mem_append.2 ⟨launched.isProcessCall, Job.isProcessCall_of_waitAll waits⟩
  cases h with
  | unflushed => exact .inl ⟨List.forall_mem_singleton.2 ⟨rfl, rfl⟩, rfl⟩
  | @notLaunched t e launched =>
    rw [← List.append_nil t]
    exact .inl (.of_job launched.isProcessCall (by simp) rfl)
  | background launched goes =>
    obtain ⟨child, pid, apart, rfl, rfl⟩ := launched.eq_started goes alone
    exact .inr ⟨rfl, .started apart rfl⟩
  -- here the notice could not be written, which is excluded
  | @backgroundUntold t job e _ _ =>
    have failed := written ⟨.write .output (startNotice job), .error e⟩ (by simp)
    cases failed
  | @unwaited t waiting job e launched _ waits =>
    rw [← List.append_nil (t ++ waiting)]
    exact .inl (.of_job (waited launched waits) (by simp) rfl)
  | exited launched _ waits =>
    rw [← List.append_assoc]
    exact .inl (.of_job (waited launched waits) (List.forall_mem_singleton.2 ⟨rfl, rfl⟩) rfl)
  | interrupted launched _ waits =>
    rw [← List.append_assoc]
    refine .inl (.of_job (waited launched waits) (List.forall_mem_cons.2 ⟨⟨rfl, rfl⟩, ?_⟩) rfl)
    exact List.forall_mem_singleton.2 ⟨Notice.ofText?_newline, rfl⟩
  | interruptedUnended launched _ waits | killed launched _ waits _ =>
    rw [← List.append_assoc]
    refine .inl (.of_job (waited launched waits) (List.forall_mem_cons.2 ⟨⟨rfl, rfl⟩, ?_⟩) rfl)
    exact List.forall_mem_singleton.2 ⟨rfl, rfl⟩

lemma LineRun.quiet_or_started {line : String} {result : Except CommandError Flow}
    (h : LineRun s line t s' result) (written : ∀ x ∈ t, x.isFailedWrite = false) :
    Quiet s t s' ∨ (result = .ok .continue ∧ Announces s t s') := by
  cases h with
  | refused _ | blank _ | misplaced _ _ _ => exact .inl (.of_nil rfl)
  | builtin _ _ run => exact .inl (.of_runs_runBuiltin run)
  | job planned _ _ run =>
    refine run.quiet_or_started (fun background => ?_) written
    exact (planLine_eq_ok_iff.1 planned).right_eq_none background

lemma Announces.of_runs_execute {line : String} {flow : Flow}
    (h : (s.execute line).Runs t (s', flow)) (written : ∀ x ∈ t, x.isFailedWrite = false) :
    Announces s t s' := by
  have first := (LineAttempts.of_runs_execute h).first
  rcases LineRun.of_runs_execute h with went | ⟨t, e, failed, -, rfl⟩
  · rcases went.quiet_or_started written with quiet | ⟨-, announces⟩
    · exact .quiet quiet first
    · exact announces
  · rcases failed.quiet_or_started (List.forall_mem_append.1 written).1 with quiet | ⟨hresult, -⟩
    · exact .quiet (quiet.append (List.forall_mem_singleton.2 ⟨rfl, rfl⟩)) first
    · cases hresult

lemma Announces.of_runs_reportFinished {result : Except IoError Unit}
    (h : s.reportFinished.Runs t (s', result)) (on : s.config.reportBackgroundCompletion = true)
    (written : ∀ x ∈ t, x.isFailedWrite = false) : Announces s t s' := by
  cases ReportRun.of_runs h with
  | silent _ off =>
    rw [on] at off
    cases off
  | told table _ => exact .swept table rfl
  | @brokenOff _ _ _ last e _ _ _ =>
    have failed := written (endUntold last e) (by simp)
    cases failed

lemma State.ofText?_fullPrompt (s : State) : Notice.ofText? s.fullPrompt = none := by
  have plain : " > ".toList.getLast? = some ' ' := rfl
  have coloured : "\x1b[m > ".toList.getLast? = some ' ' := rfl
  unfold State.fullPrompt
  split
  · exact Notice.ofText?_append_eq_none coloured (by decide)
  · exact Notice.ofText?_append_eq_none plain (by decide)

/-- A prompt is no line, and working it out writes nothing to the output. -/
lemma State.prompt_unread (s : State) :
    s.prompt.Within (fun request : ShellCall => ∀ sink text, request ≠ .write sink text)
      fun text => Notice.ofText? text = none := by
  have short : Notice.ofText? (s.config.promptSymbol ++ " > ") = none :=
    Notice.ofText?_append_eq_none (c := ' ') rfl (by decide)
  refine ⟨nofun, fun answer _ => ?_⟩
  match answer with
  | .ok true => exact s.ofText?_fullPrompt
  | .ok false => exact ⟨nofun, fun _ _ => short⟩
  | .error e => exact ⟨nofun, fun _ _ => short⟩

lemma Traffic.notice?_of_ne_write {x : Traffic}
    (h : ∀ sink text, x.request ≠ ShellCall.write sink text) : x.notice? = none := by
  obtain ⟨request, answer⟩ := x
  cases request with
  | write sink text => exact absurd rfl (h sink text)
  | _ => rfl

lemma State.silent_of_runs_prompt {text : String} (h : s.prompt.Runs t text) :
    (∀ x ∈ t, x.notice? = none) ∧ Notice.ofText? text = none := by
  obtain ⟨writesNothing, unread⟩ := s.prompt_unread.of_runs h
  exact ⟨fun x hx => Traffic.notice?_of_ne_write (writesNothing x hx), unread⟩

lemma State.silent_of_runs_render {result : Except IoError Unit} (h : s.render.Runs t result) :
    ∀ x ∈ t, x.notice? = none := by
  obtain ⟨t, u, text, rfl, hprompt, hnext⟩ := Dialogue.runs_bind_iff.1 h
  obtain ⟨silent, unread⟩ := State.silent_of_runs_prompt hprompt
  obtain ⟨answer, u, rfl, hlast⟩ := Shell.runs_call_bind_iff.1 hnext
  refine List.forall_mem_append.2 ⟨silent, List.forall_mem_cons.2 ?_⟩
  cases answer with
  | error e =>
    obtain ⟨rfl, -⟩ := Dialogue.runs_done_iff.1 hlast
    exact ⟨rfl, by simp⟩
  | ok taken =>
    obtain ⟨flushed, u, rfl, hdone⟩ := Dialogue.runs_once_iff.1 hlast
    obtain ⟨rfl, -⟩ := Dialogue.runs_done_iff.1 hdone
    exact ⟨(Traffic.notice?_write _ taken).trans unread, List.forall_mem_singleton.2 rfl⟩

lemma AttemptsFirst.of_isShowing (shows : ∀ x ∈ t, ShellCall.isShowing x.request = true) :
    AttemptsFirst t := by
  refine .of_noWait fun x hx => ?_
  have hx := shows x hx
  obtain ⟨request, answer⟩ := x
  cases request with
  | wait _ _ => exact absurd hx Bool.false_ne_true
  | _ => rfl

/-- There is nothing else that an operation can do about background processes. -/
theorem Announces.of_perform {operation : Operation} (h : (operation.perform s).Runs t s')
    (on : s.config.reportBackgroundCompletion = true)
    (written : ∀ x ∈ t, x.isFailedWrite = false) : Announces s t s' := by
  have shown (silent : ∀ x ∈ t, x.notice? = none)
      (shows : ∀ x ∈ t, ShellCall.isShowing x.request = true) : Announces s t s := by
    refine .quiet ⟨fun x hx => ⟨silent x hx, ?_⟩, rfl⟩ (.of_isShowing shows)
    exact Traffic.answer?_of_isShowing (shows x hx)
  cases operation with
  | execute line =>
    obtain ⟨t, _, ⟨s₁, flow⟩, rfl, hrun, hdone⟩ := Dialogue.runs_bind_iff.1 h
    obtain ⟨rfl, rfl⟩ := Dialogue.runs_done_iff.1 hdone
    rw [List.append_nil] at written ⊢
    exact .of_runs_execute hrun written
  | reportFinished =>
    obtain ⟨t, _, ⟨s₁, result⟩, rfl, hrun, hdone⟩ := Dialogue.runs_bind_iff.1 h
    obtain ⟨rfl, rfl⟩ := Dialogue.runs_done_iff.1 hdone
    rw [List.append_nil] at written ⊢
    exact .of_runs_reportFinished hrun on written
  | prompt =>
    obtain ⟨t, _, _, rfl, hrun, hdone⟩ := Dialogue.runs_bind_iff.1 h
    obtain ⟨rfl, rfl⟩ := Dialogue.runs_done_iff.1 hdone
    rw [List.append_nil] at shown ⊢
    exact shown (State.silent_of_runs_prompt hrun).1 (s'.prompt_within.of_runs hrun).1
  | render =>
    obtain ⟨t, _, _, rfl, hrun, hdone⟩ := Dialogue.runs_bind_iff.1 h
    obtain ⟨rfl, rfl⟩ := Dialogue.runs_done_iff.1 hdone
    rw [List.append_nil] at shown ⊢
    exact shown (State.silent_of_runs_render hrun) (s'.render_within.of_runs hrun).1

/-- No operation changes the settings. -/
theorem Operation.config_eq_of_runs_perform {operation : Operation}
    (h : (operation.perform s).Runs t s') : s'.config = s.config := by
  rcases Operation.runs_perform h with ⟨line, flow, -, run⟩ | ⟨result, -, run⟩ | ⟨-, rfl, -⟩
  · exact config_eq_of_runs_execute run
  · cases ReportRun.of_runs run <;> rfl
  · rfl

end Operations

/-! ## The lines for one number -/

/-- The process that a line tells of. -/
def Notice.pid : Notice → Pid
  | started pid | done pid => pid

/-- What has been told of the processes of one number, in order. -/
def about (pid : Pid) (t : List Traffic) : List Notice :=
  (notices t).filter fun notice => notice.pid = pid

lemma about_append (pid : Pid) (t u : List Traffic) :
    about pid (t ++ u) = about pid t ++ about pid u := by
  unfold about
  rw [notices_append, List.filter_append]

/-- Each line for an end has a line for a start right before it. -/
def Matched (pid : Pid) (told : List Notice) : Prop :=
  ∀ before after, told = before ++ .done pid :: after → before.getLast? = some (.started pid)

lemma matched_nil (pid : Pid) : Matched pid [] := by
  intro before after h
  exact absurd h (by simp)

/-- One more line keeps the lines matched if it tells of an end only behind a start. -/
lemma Matched.concat {pid : Pid} {told : List Notice} {notice : Notice} (h : Matched pid told)
    (last : notice = .done pid → told.getLast? = some (.started pid)) :
    Matched pid (told ++ [notice]) := by
  intro before after hsplit
  rcases List.eq_nil_or_concat' after with rfl | ⟨after, x, rfl⟩
  · obtain ⟨rfl, hnotice⟩ := List.append_inj' hsplit rfl
    exact last (List.singleton_inj.1 hnotice)
  · have hsplit : told ++ [notice] = (before ++ .done pid :: after) ++ [x] := by
      rw [hsplit, List.append_assoc, List.cons_append]
    exact h before after (List.append_inj' hsplit rfl).1

/-! ## Whom the lines are about -/

/-- The child that each number stands for, after one more exchange: the one that was given it
last. -/
def ownersAfter (owner : Pid → Option Child) : Traffic → Pid → Option Child
  | ⟨.fork child, .ok pid⟩ => Function.update owner pid (some child)
  | _ => owner

/-- Before any child has been made, no number stands for one. -/
def nobody : Pid → Option Child := fun _ => none

/-- An exchange tells of children only that run apart. -/
def TellsApart (owner : Pid → Option Child) (x : Traffic) : Prop :=
  ∀ notice ∈ x.notice?, ∃ child ∈ owner notice.pid, child.RunsApart

lemma ownersAfter_eq {owner : Pid → Option Child} {x : Traffic} {pid : Pid}
    (h : ∀ made ∈ x.fork?, made.2 ≠ pid) : ownersAfter owner x pid = owner pid := by
  obtain ⟨request, answer⟩ := x
  cases request with
  | fork child =>
    cases answer with
    | error errno => rfl
    | ok other => exact Function.update_of_ne (h (child, other) rfl).symm _ _
  | _ => rfl

/-- A number stands for the same child as long as no child is given it. -/
lemma foldl_ownersAfter_eq {owner : Pid → Option Child} {t : List Traffic} {pid : Pid}
    (h : ∀ made ∈ forks t, made.2 ≠ pid) : t.foldl ownersAfter owner pid = owner pid := by
  replace h : ∀ x ∈ t, ∀ made ∈ x.fork?, made.2 ≠ pid := by
    intro x hx made hmade
    exact h made (List.mem_filterMap.2 ⟨x, hx, hmade⟩)
  induction t generalizing owner with
  | nil => rfl
  | cons x t ih =>
    rw [List.foldl_cons, ih fun y hy => h y (List.mem_cons_of_mem x hy)]
    exact ownersAfter_eq (h x List.mem_cons_self)

lemma foldl_ownersAfter_of_forks {owner : Pid → Option Child} {t : List Traffic}
    (h : forks t = []) : t.foldl ownersAfter owner = owner := by
  funext pid
  refine foldl_ownersAfter_eq fun made hmade => ?_
  rw [h] at hmade
  cases hmade

lemma throughout_tellsApart {owner : Pid → Option Child} {t : List Traffic}
    (silent : ∀ x ∈ t, x.notice? = none) : Throughout ownersAfter TellsApart owner t := by
  induction t generalizing owner with
  | nil => trivial
  | cons x t ih =>
    refine ⟨fun notice hnotice => ?_, ih fun y hy => silent y (List.mem_cons_of_mem x hy)⟩
    rw [silent x List.mem_cons_self] at hnotice
    cases hnotice

/-! ## New numbers -/

/-- Only waiting takes a child out of the count. -/
lemma subset_childrenAfter {live : Finset Pid} {x : Traffic} (noWait : x.isWait = false) :
    live ⊆ childrenAfter live x := by
  obtain ⟨request, answer⟩ := x
  cases request with
  | fork child =>
    cases answer with
    | ok pid => exact Finset.subset_insert pid live
    | error errno => exact Finset.Subset.refl live
  | wait pid block => cases noWait
  | _ => exact Finset.Subset.refl live

lemma notMem_of_noWait {live : Finset Pid} {t : List Traffic}
    (noWait : ∀ x ∈ t, x.isWait = false) (fresh : Throughout childrenAfter ForksFresh live t) :
    ∀ made ∈ forks t, made.2 ∉ live := by
  induction t generalizing live with
  | nil => exact fun made hmade => absurd hmade List.not_mem_nil
  | cons x t ih =>
    intro made hmade
    obtain ⟨y, hy, hfork⟩ := List.mem_filterMap.1 hmade
    rcases List.mem_cons.1 hy with rfl | hy
    · exact fresh.1 made hfork
    · have later := ih (fun z hz => noWait z (List.mem_cons_of_mem x hz)) fresh.2 made
        (List.mem_filterMap.2 ⟨y, hy, hfork⟩)
      have grown : live ⊆ childrenAfter live x :=
        subset_childrenAfter (noWait x List.mem_cons_self)
      exact fun hlive => later (grown hlive)

lemma forks_eq_nil_of_attempts {t : List Traffic} (h : attempts t = []) : forks t = [] := by
  refine List.filterMap_eq_nil_iff.2 fun x hx => ?_
  have idle := attempts_eq_nil_iff.1 h x hx
  obtain ⟨request, answer⟩ := x
  cases request with
  | fork child => cases idle
  | _ => rfl

/-- If nothing is waited for before the children are made, then they have numbers that were not in
the count. -/
theorem AttemptsFirst.notMem_of_fresh {live : Finset Pid} {t : List Traffic}
    (first : AttemptsFirst t) (fresh : Throughout childrenAfter ForksFresh live t) :
    ∀ made ∈ forks t, made.2 ∉ live := by
  obtain ⟨making, after, rfl, noWait, nothingLater⟩ := first
  rw [forks_append, forks_eq_nil_of_attempts nothingLater, List.append_nil]
  exact notMem_of_noWait noWait (throughout_append.1 fresh).1

/-! ## The start of a background process -/

section BackgroundStart

variable (child : Child) (pid : Pid)

lemma silent_of_mem_started : ∀ x ∈ started child pid, x.notice? = none := by
  intro x hx
  have making := Traffic.isProcessCall_of_isMaking (isMaking_of_mem_started hx)
  exact (Traffic.quiet_of_isProcessCall making).1

lemma notice?_startLine (taken : Unit) :
    Traffic.notice? ⟨.write .output (startLine pid), .ok taken⟩ = some (.started pid) :=
  (Traffic.notice?_write _ taken).trans (Notice.ofText?_startLine pid)

lemma notices_backgroundStart :
    notices (backgroundStart child pid (.ok ())) = [.started pid] := by
  have making : notices (started child pid) = [] :=
    List.filterMap_eq_nil_iff.2 (silent_of_mem_started child pid)
  have told : notices [⟨.write .output (startLine pid), .ok ()⟩] = [.started pid] := by
    rw [notices, List.filterMap_cons, notice?_startLine]
    rfl
  calc notices (backgroundStart child pid (.ok ()))
      = notices (started child pid ++ [⟨.write .output (startLine pid), .ok ()⟩]) := rfl
    _ = [.started pid] := by rw [notices_append, making, told]; rfl

lemma about_backgroundStart (other : Pid) :
    about other (backgroundStart child pid (.ok ())) =
      if other = pid then [.started pid] else [] := by
  unfold about
  rw [notices_backgroundStart]
  by_cases hpid : other = pid
  · simp [Notice.pid, hpid]
  · simp [Notice.pid, hpid, Ne.symm hpid]

lemma answers_backgroundStart (told : Except IoError Unit) :
    answers (backgroundStart child pid told) = [] := by
  unfold backgroundStart started
  split <;> rfl

lemma foldl_ownersAfter_started (owner : Pid → Option Child) :
    (started child pid).foldl ownersAfter owner = Function.update owner pid (some child) := by
  unfold started
  split <;> rfl

lemma foldl_ownersAfter_backgroundStart (owner : Pid → Option Child)
    (told : Except IoError Unit) : (backgroundStart child pid told).foldl ownersAfter owner =
      Function.update owner pid (some child) := by
  unfold backgroundStart
  rw [List.foldl_cons, List.foldl_append]
  exact foldl_ownersAfter_started child pid owner

lemma throughout_backgroundStart (owner : Pid → Option Child) (apart : child.RunsApart) :
    Throughout ownersAfter TellsApart owner (backgroundStart child pid (.ok ())) := by
  have making : Throughout ownersAfter TellsApart owner (started child pid) :=
    throughout_tellsApart (silent_of_mem_started child pid)
  have telling : TellsApart ((started child pid).foldl ownersAfter owner)
      ⟨.write .output (startLine pid), .ok ()⟩ := by
    intro notice hnotice
    rw [notice?_startLine] at hnotice
    cases hnotice
    have owned : (started child pid).foldl ownersAfter owner pid = some child := by
      rw [foldl_ownersAfter_started, Function.update_self]
    exact ⟨child, owned, apart⟩
  have later : Throughout ownersAfter TellsApart owner
      (started child pid ++ [⟨.write .output (startLine pid), .ok ()⟩]) :=
    throughout_append.2 ⟨making, telling, trivial⟩
  exact ⟨nofun, later⟩

end BackgroundStart

/-! ## The ends that a sweep finds -/

section Sweeps

variable {asked : List Job.Asked} {ended : List (Pid × JobStatus)} {pid : Pid}

lemma notice?_endTold (ending : Pid × JobStatus) :
    Traffic.notice? (endTold ending) = some (.done ending.1) :=
  (Traffic.notice?_write _ ()).trans (Notice.ofText?_announcement ending.1 ending.2)

lemma notices_map_question (asked : List Job.Asked) : notices (asked.map Job.question) = [] := by
  refine List.filterMap_eq_nil_iff.2 fun x hx => ?_
  obtain ⟨_, -, rfl⟩ := List.mem_map.1 hx
  rfl

lemma notices_map_endTold (ended : List (Pid × JobStatus)) :
    notices (ended.map endTold) = ended.map fun ending => .done ending.1 := by
  induction ended with
  | nil => rfl
  | cons ending ended ih =>
    rw [List.map_cons, notices, List.filterMap_cons, notice?_endTold, List.map_cons, ← ih]
    rfl

/-- Of the ends that are told, one at most is that of a process of a given number. -/
lemma about_map_endTold (distinct : (ended.map Prod.fst).Nodup) :
    about pid (ended.map endTold) = if pid ∈ ended.map Prod.fst then [.done pid] else [] := by
  unfold about
  rw [notices_map_endTold]
  induction ended with
  | nil => rfl
  | cons ending ended ih =>
    rw [List.map_cons, List.nodup_cons] at distinct
    have ih := ih distinct.2
    rw [List.map_cons, List.filter_cons, ih]
    by_cases hpid : ending.1 = pid
    · have absent : pid ∉ ended.map Prod.fst := hpid ▸ distinct.1
      rw [if_neg absent]
      simp [Notice.pid, hpid]
    · have skipped : decide ((Notice.done ending.1).pid = pid) = false := decide_eq_false hpid
      have same : pid ∈ (ending :: ended).map Prod.fst ↔ pid ∈ ended.map Prod.fst := by
        rw [List.map_cons, List.mem_cons, or_iff_right (Ne.symm hpid)]
      rw [skipped, if_neg Bool.false_ne_true]
      exact (if_congr same rfl rfl).symm

lemma forks_map_report (asked : List Job.Asked) (ended : List (Pid × JobStatus)) :
    forks (asked.map Job.question) = [] ∧ forks (ended.map endTold) = [] := by
  refine ⟨List.filterMap_eq_nil_iff.2 fun x hx => ?_, List.filterMap_eq_nil_iff.2 fun x hx => ?_⟩
  · obtain ⟨_, -, rfl⟩ := List.mem_map.1 hx
    rfl
  · obtain ⟨_, -, rfl⟩ := List.mem_map.1 hx
    rfl

end Sweeps

/-! ## The account -/

/-- A line tells of a start. -/
def Notice.isStart : Notice → Bool
  | started _ => true
  | done _ => false

/-- How many starts have been told. -/
def starts (t : List Traffic) : Nat := (notices t).countP Notice.isStart

/-- How many ends have been told. -/
def ends (t : List Traffic) : Nat := (notices t).countP fun notice => !notice.isStart

/-- A process could not be asked about, so that it is dropped from the table. -/
def Job.isFailure : Job.Asked → Bool
  | (_, .error errno) => errno ≠ .EINTR
  | (_, .ok _) => false

/-- How many processes of the table have been dropped. -/
def dropped (t : List Traffic) : Nat := (answers t).countP Job.isFailure

/-- A sweep keeps a process, or finds that it has ended, or drops it. -/
lemma Job.Sweep.length_eq (asked : List Asked) : asked.length =
    (ofAnswers asked).kept.length + (ofAnswers asked).finished.length +
      asked.countP isFailure := by
  induction asked with
  | nil => rfl
  | cons x asked ih =>
    obtain ⟨pid, answer⟩ := x
    rw [ofAnswers, add_eq, List.length_cons, List.countP_cons, ih]
    cases answer with
    | ok report => cases hending : report.ending? <;> simp [verdict?, isFailure, hending] <;> omega
    | error errno => by_cases he : errno = .EINTR <;> simp [verdict?, isFailure, he] <;> omega

section Append

variable (t u : List Traffic)

lemma starts_append : starts (t ++ u) = starts t + starts u := by
  unfold starts
  rw [notices_append, List.countP_append]

lemma ends_append : ends (t ++ u) = ends t + ends u := by
  unfold ends
  rw [notices_append, List.countP_append]

lemma dropped_append : dropped (t ++ u) = dropped t + dropped u := by
  unfold dropped
  rw [answers_append, List.countP_append]

end Append

/-- Exchanges that tell nothing of background processes, and ask about none, do not count. -/
lemma counts_of_silent {t : List Traffic} (silent : notices t = []) (unasked : answers t = []) :
    starts t = 0 ∧ ends t = 0 ∧ dropped t = 0 := by
  unfold starts ends dropped
  rw [silent, unasked]
  exact ⟨rfl, rfl, rfl⟩

lemma counts_backgroundStart (child : Child) (pid : Pid) :
    starts (backgroundStart child pid (.ok ())) = 1 ∧
      ends (backgroundStart child pid (.ok ())) = 0 ∧
      dropped (backgroundStart child pid (.ok ())) = 0 := by
  unfold starts ends dropped
  rw [notices_backgroundStart, answers_backgroundStart]
  exact ⟨rfl, rfl, rfl⟩

section Report

variable (asked : List Job.Asked) (ended : List (Pid × JobStatus))

lemma notices_report :
    notices (asked.map Job.question ++ ended.map endTold) =
      ended.map fun ending => .done ending.1 := by
  rw [notices_append, notices_map_question, notices_map_endTold, List.nil_append]

lemma starts_report : starts (asked.map Job.question ++ ended.map endTold) = 0 := by
  rw [starts, notices_report, List.countP_map]
  exact List.countP_eq_zero.2 fun _ _ => Bool.false_ne_true

lemma ends_report : ends (asked.map Job.question ++ ended.map endTold) = ended.length := by
  rw [ends, notices_report, List.countP_map]
  exact List.countP_eq_length.2 fun _ _ => rfl

lemma dropped_report :
    dropped (asked.map Job.question ++ ended.map endTold) = asked.countP Job.isFailure := by
  rw [dropped, answers_append, (views_map_question asked).1, (views_map_endTold ended).1,
    List.append_nil]

end Report

/-- What has been told of background processes by the exchanges `t`, which have left the table with
`jobs`, is in order. -/
structure AnnouncementsMatch (t : List Traffic) (jobs : List Pid) : Prop where
  matched : ∀ pid, Matched pid (about pid t)
  apart : Throughout ownersAfter TellsApart nobody t
  count : starts t = ends t + dropped t + jobs.length
  /-- What has been told last of a process in the table is its start. -/
  announced : ∀ pid ∈ jobs, (about pid t).getLast? = some (.started pid)
  /-- And it runs apart. -/
  owned : ∀ pid ∈ jobs, ∃ child ∈ t.foldl ownersAfter nobody pid, child.RunsApart

namespace AnnouncementsMatch

variable {s s' : State} {t u : List Traffic}

lemma of_nil : AnnouncementsMatch [] [] where
  matched := matched_nil
  apart := trivial
  count := rfl
  announced := by simp
  owned := by simp

lemma quiet (h : AnnouncementsMatch t s.jobs) (quiet : Quiet s u s')
    (new : ∀ made ∈ forks u, made.2 ∉ s.jobs) : AnnouncementsMatch (t ++ u) s'.jobs := by
  have silent : ∀ x ∈ u, x.notice? = none := fun x hx => (quiet.still x hx).1
  have noNotice : notices u = [] := List.filterMap_eq_nil_iff.2 silent
  have noAnswer : answers u = [] :=
    List.filterMap_eq_nil_iff.2 fun x hx => (quiet.still x hx).2
  have lines (pid : Pid) : about pid (t ++ u) = about pid t := by
    have nothing : about pid u = [] := by
      rw [about, noNotice]
      rfl
    rw [about_append, nothing, List.append_nil]
  obtain ⟨noStart, noEnd, noDrop⟩ := counts_of_silent noNotice noAnswer
  rw [quiet.table]
  -- what is silent changes neither what has been said about a process nor whose it is
  refine ⟨fun pid => ?_, ?_, ?_, fun pid hpid => ?_, fun pid hpid => ?_⟩
  · rw [lines]
    exact h.matched pid
  · exact throughout_append.2 ⟨h.apart, throughout_tellsApart silent⟩
  · rw [starts_append, ends_append, dropped_append, noStart, noEnd, noDrop]
    exact h.count
  · rw [lines]
    exact h.announced pid hpid
  · rw [List.foldl_append, foldl_ownersAfter_eq]
    · exact h.owned pid hpid
    · exact fun made hmade => (ne_of_mem_of_not_mem hpid (new made hmade)).symm

/-- A process is started, taken into the table and told of. -/
lemma started {child : Child} {pid : Pid} (h : AnnouncementsMatch t s.jobs)
    (apart : child.RunsApart) (table : s'.jobs = s.jobs ++ [pid]) (new : pid ∉ s.jobs) :
    AnnouncementsMatch (t ++ backgroundStart child pid (.ok ())) s'.jobs := by
  have lines (other : Pid) : about other (t ++ backgroundStart child pid (.ok ())) =
      about other t ++ if other = pid then [.started pid] else [] := by
    rw [about_append, about_backgroundStart]
  obtain ⟨oneStart, noEnd, noDrop⟩ := counts_backgroundStart child pid
  rw [table]
  refine ⟨fun other => ?_, ?_, ?_, fun other hother => ?_, fun other hother => ?_⟩
  · rw [lines]
    -- the new process has had no line yet, so its first may be that it has started
    split
    · exact (h.matched other).concat nofun
    · rw [List.append_nil]
      exact h.matched other
  · exact throughout_append.2 ⟨h.apart, throughout_backgroundStart child pid _ apart⟩
  · have count := h.count
    rw [starts_append, ends_append, dropped_append, oneStart, noEnd, noDrop, List.length_append,
      List.length_singleton]
    omega
  · rw [lines]
    rcases List.mem_append.1 hother with hold | hnew
    · rw [if_neg (ne_of_mem_of_not_mem hold new), List.append_nil]
      exact h.announced other hold
    · obtain rfl := List.mem_singleton.1 hnew
      rw [if_pos rfl, List.getLast?_concat]
  · rw [List.foldl_append, foldl_ownersAfter_backgroundStart]
    rcases List.mem_append.1 hother with hold | hnew
    · rw [Function.update_of_ne (ne_of_mem_of_not_mem hold new)]
      exact h.owned other hold
    · rw [List.mem_singleton.1 hnew, Function.update_self]
      exact ⟨child, rfl, apart⟩

/-- The table is swept, and all ends that are found are told. -/
lemma swept {asked : List Job.Asked} (h : AnnouncementsMatch t s.jobs)
    (table : asked.map Prod.fst = s.jobs) (distinct : s.jobs.Nodup)
    (kept : s'.jobs = (Job.Sweep.ofAnswers asked).kept) :
    AnnouncementsMatch
      (t ++ (asked.map Job.question ++ (Job.Sweep.ofAnswers asked).finished.map endTold))
      s'.jobs := by
  generalize hended : (Job.Sweep.ofAnswers asked).finished = ended
  -- `once`: no process has two ends in one sweep; `own`: only jobs end; `stays`: a job that
  -- is kept has not ended
  have once : (ended.map Prod.fst).Nodup := by
    rw [← hended]
    exact (Job.Sweep.finished_sublist asked).nodup (table ▸ distinct)
  have own : ∀ pid ∈ ended.map Prod.fst, pid ∈ s.jobs := by
    rw [← hended, ← table]
    exact fun pid hpid => (Job.Sweep.finished_sublist asked).subset hpid
  have stays : ∀ pid ∈ s'.jobs, pid ∈ s.jobs ∧ pid ∉ ended.map Prod.fst := by
    rw [kept, ← table, ← hended]
    exact fun pid hpid => Job.Sweep.stays_of_mem_kept (table ▸ distinct) hpid
  have lines (pid : Pid) : about pid (t ++ (asked.map Job.question ++ ended.map endTold)) =
      about pid t ++ if pid ∈ ended.map Prod.fst then [.done pid] else [] := by
    rw [about_append, about_append, about_map_endTold once, about.eq_def pid (asked.map _),
      notices_map_question]
    rfl
  obtain ⟨noFork, noForkEither⟩ := forks_map_report asked ended
  refine ⟨fun pid => ?_, ?_, ?_, fun pid hpid => ?_, fun pid hpid => ?_⟩
  · rw [lines]
    split
    · rename_i hpid
      exact (h.matched pid).concat fun _ => h.announced pid (own pid hpid)
    · rw [List.append_nil]
      exact h.matched pid
  · have asking : Throughout ownersAfter TellsApart (t.foldl ownersAfter nobody)
        (asked.map Job.question) :=
      throughout_tellsApart (List.filterMap_eq_nil_iff.1 (notices_map_question asked))
    refine throughout_append.2 ⟨h.apart, throughout_append.2 ⟨asking, ?_⟩⟩
    rw [foldl_ownersAfter_of_forks noFork]
    -- a sweep makes no process, so each line meets the owners that there were at its beginning
    refine throughout_of_still (fun x hx => ?_) (fun x hx => ?_)
    · obtain ⟨ending, -, rfl⟩ := List.mem_map.1 hx
      rfl
    · obtain ⟨ending, hending, rfl⟩ := List.mem_map.1 hx
      intro notice hnotice
      rw [notice?_endTold] at hnotice
      cases hnotice
      exact h.owned ending.1 (own _ (List.mem_map.2 ⟨ending, hending, rfl⟩))
  · have count := h.count
    have hlength := Job.Sweep.length_eq asked
    have hjobs : asked.length = s.jobs.length := by rw [← table, List.length_map]
    rw [starts_append, ends_append, dropped_append, starts_report, ends_report, dropped_report,
      kept]
    rw [hended] at hlength
    omega
  · rw [lines, if_neg (stays pid hpid).2, List.append_nil]
    exact h.announced pid (stays pid hpid).1
  · rw [List.foldl_append, List.foldl_append, foldl_ownersAfter_of_forks noFork,
      foldl_ownersAfter_of_forks noForkEither]
    exact h.owned pid (stays pid hpid).1

/-- An operation keeps what has been told in order. -/
lemma announces (h : AnnouncementsMatch t s.jobs) (announces : Announces s u s')
    (distinct : s.jobs.Nodup)
    (fresh : Throughout childrenAfter ForksFresh s.jobs.toFinset u) :
    AnnouncementsMatch (t ++ u) s'.jobs := by
  cases announces with
  | quiet quiet first =>
    refine h.quiet quiet fun made hmade => ?_
    exact fun hjobs => first.notMem_of_fresh fresh made hmade (List.mem_toFinset.2 hjobs)
  | @started child pid _ apart table =>
    refine h.started apart table ?_
    have making : Throughout childrenAfter ForksFresh s.jobs.toFinset
        (CommandShell.started child pid) := (throughout_append.1 fresh.2).1
    obtain ⟨notMem, -⟩ := Accounts.of_started making
    exact fun hjobs => notMem (List.mem_toFinset.2 hjobs)
  | swept table kept => exact h.swept table distinct kept

/-- So does a history. -/
theorem of_history {steps : List PerformedStep} (h : AnnouncementsMatch t s.jobs)
    (history : History s steps) (on : s.config.reportBackgroundCompletion = true)
    (distinct : s.jobs.Nodup)
    (written : ∀ x ∈ transcript steps, x.isFailedWrite = false)
    (fresh : Throughout childrenAfter ForksFresh s.jobs.toFinset (transcript steps)) :
    AnnouncementsMatch (t ++ transcript steps) (stateAfter s steps).jobs := by
  -- the operations that are done come off at the front, so their lines go to the back of `t`
  induction steps generalizing s t with
  | nil =>
    rw [transcript_nil, List.append_nil]
    exact h
  | cons step steps ih =>
    obtain ⟨run, history⟩ := history
    rw [transcript_cons] at written fresh ⊢
    obtain ⟨hfirst, hlater⟩ := List.forall_mem_append.1 written
    obtain ⟨freshFirst, -⟩ := throughout_append.1 fresh
    have done := Accounted.of_perform distinct run freshFirst
    have next := h.announces (.of_perform run on hfirst) distinct freshFirst
    have on : step.state.config.reportBackgroundCompletion = true := by
      rw [Operation.config_eq_of_runs_perform run]
      exact on
    rw [← List.append_assoc]
    exact ih next history on done.distinct hlater (done.accounts.fresh_right fresh)

end AnnouncementsMatch

/-! ## The life of a shell -/

/-- **Announcements match.** In every history of a shell whose output takes all that is written and
whose settings ask for reports, if the system gives new children numbers that no uncollected child
has: among the lines about any one number, each that tells of an end comes right behind one that
tells of a start; a line is only ever about a child that is in a group of its own and has nothing to
do with a pipe; and after each operation the table has as many processes as starts have been told,
without those whose ends have been told and those that were dropped because they could not be asked
about. -/
theorem announcements_match {config : Config} {workingDir : String} {onTerminal : Bool}
    {steps : List PerformedStep} (h : History (State.start config workingDir onTerminal) steps)
    (on : config.reportBackgroundCompletion = true)
    (written : ∀ x ∈ transcript steps, x.isFailedWrite = false)
    (fresh : Throughout childrenAfter ForksFresh ∅ (transcript steps)) :
    (∀ pid before after, about pid (transcript steps) = before ++ .done pid :: after →
      before.getLast? = some (.started pid)) ∧
      Throughout ownersAfter TellsApart nobody (transcript steps) ∧
      ∀ first later, steps = first ++ later →
        ((stateAfter (State.start config workingDir onTerminal) first).jobs.length : Int) =
          starts (transcript first) - ends (transcript first) - dropped (transcript first) := by
  have done := AnnouncementsMatch.of_nil.of_history h on List.nodup_nil written fresh
  refine ⟨done.matched, done.apart, ?_⟩
  rintro first later rfl
  rw [transcript_append] at written fresh
  have sofar := AnnouncementsMatch.of_nil.of_history h.left on List.nodup_nil
    (List.forall_mem_append.1 written).1 (throughout_append.1 fresh).1
  have count : starts (transcript first) = ends (transcript first) + dropped (transcript first) +
      (stateAfter (State.start config workingDir onTerminal) first).jobs.length := sofar.count
  omega

/-- The life of a shell in which numbers are used again: that of a child of a pipeline for a
background process, which is dropped because its status cannot be read, and that of a background
process for another one. -/
def busyLife : List PerformedStep :=
  let start := State.start {} "/" false
  let nap (pid : Pid) : List Traffic := backgroundStart (napping.onlyChild "/") pid (.ok ())
  [{ operation := .execute "sleep 9 &"
     transcript := nap 20
     state := { start with jobs := [20] } },
    { operation := .execute "ls | cat"
      transcript :=
        ⟨.flush .output, .ok ()⟩ ::
          (throughPipe 3 4
            (started (copiedListing.readingChild { program := "cat" } "/" 3 4) 21 ++
              started (copiedListing.writingChild "/" 3 4) 22) (.ok ()) (.ok ()) [] ++
            [⟨.wait 22 true, .ok (.exited 0)⟩, ⟨.wait 21 true, .ok (.exited 1)⟩,
              ⟨.takeInterrupt, false⟩])
      state := { start with jobs := [20], lastStatus := some (.exited 1) } },
    { operation := .execute "sleep 9 &"
      transcript := nap 21
      state := { start with jobs := [20, 21], lastStatus := some (.exited 1) } },
    { operation := .reportFinished
      transcript :=
        [(20, .ok (.exited 0)), (21, .error .EINVAL)].map Job.question ++
          [(20, .exited 0)].map endTold
      state := { start with lastStatus := some (.exited 1) } },
    { operation := .execute "sleep 9 &"
      transcript := nap 20
      state := { start with jobs := [20], lastStatus := some (.exited 1) } }]

theorem announcements_match_busyLife :
    History (State.start {} "/" false) busyLife ∧
      (∀ x ∈ transcript busyLife, x.isFailedWrite = false) ∧
      Throughout childrenAfter ForksFresh ∅ (transcript busyLife) ∧
      (∀ pid before after, about pid (transcript busyLife) = before ++ .done pid :: after →
        before.getLast? = some (.started pid)) ∧
      Throughout ownersAfter TellsApart nobody (transcript busyLife) ∧
      ∀ first later, busyLife = first ++ later →
        ((stateAfter (State.start {} "/" false) first).jobs.length : Int) =
          starts (transcript first) - ends (transcript first) - dropped (transcript first) := by
  have nap : planLine "sleep 9 &" 64 = .ok (some napping) := by cbv
  have copy : planLine "ls | cat" 64 = .ok (some copiedListing) := by cbv
  have life : History (State.start {} "/" false) busyLife :=
    ⟨Operation.runs_perform_of_ok nap (Dialogue.runs_of_replay? rfl),
      Operation.runs_perform_of_ok copy (Dialogue.runs_of_replay? rfl),
      Operation.runs_perform_of_ok nap (Dialogue.runs_of_replay? rfl),
      Dialogue.runs_of_replay? rfl,
      Operation.runs_perform_of_ok nap (Dialogue.runs_of_replay? rfl), trivial⟩
  have written : ∀ x ∈ transcript busyLife, x.isFailedWrite = false := by decide
  have fresh : Throughout childrenAfter ForksFresh ∅ (transcript busyLife) := by decide
  exact ⟨life, written, fresh, announcements_match life rfl written fresh⟩

end CommandShell
