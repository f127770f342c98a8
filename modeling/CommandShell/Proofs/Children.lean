import CommandShell.Proofs.History
import Mathlib.Data.Finset.Basic
import Mathlib.Data.Finset.Dedup
import Mathlib.Data.Finset.Lattice.Lemmas

/-!
# No child is lost, and none is collected twice

The children that a shell has made and that have not been collected are a count that goes along
with its transcript: `childrenAfter` adds a child when a `fork` succeeds and takes it away when an
answer to `waitpid` has collected it. `children_accounted` says that after every operation of
every history this count is the table of background jobs, without repetition, and that the shell
never asks about a process that is not in the count.

`Accounted` is what one operation does: the table goes along with the count. Within an operation
the two come apart, and what holds then is said for each part by itself. A launch adds the processes
of the job that it comes to (`LaunchRun.accounts`), so none at all if it fails; waiting takes away
the processes that were waited for (`Job.accounts_waitAll`); a sweep takes away those that it does
not keep (`Job.accounts_sweep`). `Accounted.of_history` puts the operations together.
-/

namespace CommandShell

/-! ## The count -/

/-- The process that an exchange asks about. -/
def Traffic.asked? : Traffic → Option Pid
  | ⟨.wait pid _, _⟩ => some pid
  | _ => none

/-- The children that have been made and not been collected, after one more exchange. A child is
collected by an answer that tells its end, and by a failure other than an interruption, which is
how a status that cannot be read arrives. -/
def childrenAfter (live : Finset Pid) : Traffic → Finset Pid
  | ⟨.fork _, .ok pid⟩ => insert pid live
  | ⟨.wait pid _, .ok (.exited _)⟩ => live.erase pid
  | ⟨.wait pid _, .ok (.signaled _ _)⟩ => live.erase pid
  | ⟨.wait pid _, .error errno⟩ => if errno = .EINTR then live else live.erase pid
  | _ => live

/-- What the system promises: a new child has a number that no uncollected child has. -/
def ForksFresh (live : Finset Pid) (x : Traffic) : Prop :=
  ∀ made ∈ x.fork?, made.2 ∉ live

/-- What the shell owes: it asks about uncollected children of its own only. -/
def AsksOwn (live : Finset Pid) (x : Traffic) : Prop :=
  ∀ pid ∈ x.asked?, pid ∈ live

instance (live : Finset Pid) (x : Traffic) : Decidable (ForksFresh live x) :=
  inferInstanceAs (Decidable (∀ made ∈ x.fork?, _))

/-- An answer about a child takes it out of the count if it settles what became of the child. -/
lemma childrenAfter_wait (live : Finset Pid) (pid : Pid) (block : Bool)
    (answer : Except Errno WaitReport) :
    childrenAfter live ⟨.wait pid block, answer⟩ =
      if Job.verdict? pid answer = none then live else live.erase pid := by
  cases answer with
  | ok report => cases report <;> rfl
  | error errno => by_cases he : errno = .EINTR <;> simp [childrenAfter, Job.verdict?, he]

/-- The shell has asked about its own uncollected children only, and the count has gone from `live`
to `live'`. -/
structure Accounts (live : Finset Pid) (t : List Traffic) (live' : Finset Pid) : Prop where
  asks : Throughout childrenAfter AsksOwn live t
  count : t.foldl childrenAfter live = live'

namespace Accounts

variable {live live' live'' : Finset Pid} {t u : List Traffic}

lemma append (first : Accounts live t live') (second : Accounts live' u live'') :
    Accounts live (t ++ u) live'' where
  asks := throughout_append.2 ⟨first.asks, first.count ▸ second.asks⟩
  count := by rw [List.foldl_append, first.count, second.count]

/-- What the system promises for a transcript it promises for the rest of it. -/
lemma fresh_right (first : Accounts live t live')
    (fresh : Throughout childrenAfter ForksFresh live (t ++ u)) :
    Throughout childrenAfter ForksFresh live' u :=
  first.count ▸ (throughout_append.1 fresh).2

/-- Exchanges that neither make a child nor ask about one change nothing. -/
theorem of_idle (idle : ∀ x ∈ t, x.fork? = none ∧ x.asked? = none) : Accounts live t live := by
  have still : ∀ x ∈ t, (∀ live, childrenAfter live x = live) ∧ ∀ live, AsksOwn live x := by
    intro x hx
    obtain ⟨hfork, hasked⟩ := idle x hx
    refine ⟨fun live => ?_, fun live pid hpid => ?_⟩
    · obtain ⟨request, answer⟩ := x
      cases request with
      | fork child =>
        cases answer with
        | ok pid => exact absurd hfork (by simp [Traffic.fork?])
        | error errno => rfl
      | wait pid block => exact absurd hasked (by simp [Traffic.asked?])
      | _ => rfl
    · rw [hasked] at hpid
      exact absurd hpid (by simp)
  exact ⟨(throughout_of_idle still).1, (throughout_of_idle (P := AsksOwn) still).2⟩

lemma of_wait {pid : Pid} (block : Bool) (answer : Except Errno WaitReport) (own : pid ∈ live) :
    Accounts live [⟨.wait pid block, answer⟩]
      (if Job.verdict? pid answer = none then live else live.erase pid) where
  asks := by simpa [AsksOwn, Traffic.asked?] using own
  count := childrenAfter_wait live pid block answer

/-- Making a child adds it to the count, in which it was not before. -/
theorem of_started {child : Child} {pid : Pid}
    (fresh : Throughout childrenAfter ForksFresh live (started child pid)) :
    pid ∉ live ∧ Accounts live (started child pid) (insert pid live) := by
  refine ⟨fresh.1 (child, pid) rfl, ?_⟩
  have fork : Accounts live [⟨.fork child, .ok pid⟩] (insert pid live) :=
    ⟨by simp [AsksOwn, Traffic.asked?], rfl⟩
  have parts : started child pid = [⟨.fork child, .ok pid⟩] ++
      if child.wiring.ownGroup then [⟨.ownGroup pid, ()⟩] else [] := rfl
  rw [parts]
  refine fork.append (of_idle fun x hx => ?_)
  split at hx
  · rw [List.mem_singleton.1 hx]
    exact ⟨rfl, rfl⟩
  · simp at hx

end Accounts

/-! ## Waiting and sweeping -/

namespace Job

variable {live others : Finset Pid} {t : List Traffic}

lemma accounts_waitFor {pid : Pid} {result : Except WaitError JobStatus} (own : pid ∈ live)
    (h : (waitFor pid).Runs t result) : Accounts live t (live.erase pid) := by
  obtain ⟨vain, answer, hvain, hverdict, rfl⟩ := runs_waitFor_iff.1 h
  clear h
  have last := Accounts.of_wait true answer own
  rw [if_neg (by simp [hverdict])] at last
  -- an answer without a verdict leaves the count as it is, and the wait starts over
  induction vain with
  | nil => exact last
  | cons v vain ih =>
    have first := Accounts.of_wait true v own
    rw [if_pos (hvain v List.mem_cons_self)] at first
    exact first.append (ih fun w hw => hvain w (List.mem_cons_of_mem v hw))

lemma not_mem_union_toFinset {pid : Pid} {pids : List Pid} (distinct : (pid :: pids).Nodup)
    (apart : ∀ p ∈ pid :: pids, p ∉ others) : pid ∉ others ∪ pids.toFinset := by
  rw [Finset.mem_union, List.mem_toFinset, not_or]
  exact ⟨apart pid List.mem_cons_self, (List.nodup_cons.1 distinct).1⟩

/-- Waiting for several children collects all of them, and no others. -/
theorem accounts_waitAll {pids : List Pid} {before result : Except WaitError JobStatus}
    (distinct : pids.Nodup) (apart : ∀ pid ∈ pids, pid ∉ others)
    (h : (waitAll before pids).Runs t result) : Accounts (others ∪ pids.toFinset) t others := by
  induction pids generalizing before t with
  | nil =>
    obtain ⟨rfl, -⟩ := Dialogue.runs_done_iff.1 h
    exact ⟨throughout_nil, by simp⟩
  | cons pid pids ih =>
    obtain ⟨t₁, t₂, first, rfl, hfirst, hrest⟩ := runs_waitAll_cons_iff.1 h
    have hrest := ih (List.nodup_cons.1 distinct).2 (List.forall_mem_cons.1 apart).2 hrest
    have hnot := not_mem_union_toFinset distinct apart
    rw [List.toFinset_cons, Finset.union_insert]
    have own := Finset.mem_insert_self pid (others ∪ pids.toFinset)
    have hfirst := accounts_waitFor own hfirst
    rw [Finset.erase_insert hnot] at hfirst
    exact hfirst.append hrest

/-- A sweep keeps a part of the table in order, and collects the rest of it. -/
theorem accounts_sweep {pids : List Pid} {found : Sweep} (distinct : pids.Nodup)
    (apart : ∀ pid ∈ pids, pid ∉ others) (h : (sweep pids).Runs t found) :
    found.kept.Sublist pids ∧
      Accounts (others ∪ pids.toFinset) t (others ∪ found.kept.toFinset) := by
  -- what the rest of the sweep is not about grows by the processes that stay
  induction pids generalizing others t found with
  | nil =>
    obtain ⟨rfl, rfl⟩ := Dialogue.runs_done_iff.1 h
    exact ⟨List.Sublist.refl _, throughout_nil, rfl⟩
  | cons pid pids ih =>
    obtain ⟨answer, rest, later, rfl, hrest, rfl⟩ := runs_sweep_cons_iff.1 h
    have hnot := not_mem_union_toFinset distinct apart
    obtain ⟨hpid, hdistinct⟩ := List.nodup_cons.1 distinct
    obtain ⟨-, hapart⟩ := List.forall_mem_cons.1 apart
    have own := Finset.mem_insert_self pid (others ∪ pids.toFinset)
    have first := Accounts.of_wait false answer own
    rw [Sweep.kept_add, List.toFinset_cons, Finset.union_insert]
    by_cases hv : verdict? pid answer = none
    · -- the process stays, as one of those that the rest of the sweep has nothing to do with
      rw [if_pos hv] at first ⊢
      have hmore : ∀ p ∈ pids, p ∉ insert pid others := by
        intro p hp hmem
        rcases Finset.mem_insert.1 hmem with rfl | hmem
        · exact hpid hp
        · exact hapart p hp hmem
      obtain ⟨hkept, hlater⟩ := ih hdistinct hmore hrest
      refine ⟨hkept.cons_cons pid, ?_⟩
      rw [List.toFinset_cons, Finset.union_insert]
      rw [Finset.insert_union, Finset.insert_union] at hlater
      exact first.append hlater
    · rw [if_neg hv, Finset.erase_insert hnot] at first
      rw [if_neg hv]
      obtain ⟨hkept, hlater⟩ := ih hdistinct hapart hrest
      exact ⟨hkept.cons pid, first.append hlater⟩

end Job

/-! ## Launching -/

namespace Accounts

variable {live : Finset Pid} {read write : Fd}

lemma of_pipe : Accounts live [⟨.makePipe, .ok (read, write)⟩] live :=
  of_idle (by simp [Traffic.fork?, Traffic.asked?])

lemma of_closing {first second : Except Errno Unit} :
    Accounts live (closing read write first second) live :=
  of_idle (by simp [closing, Traffic.fork?, Traffic.asked?])

lemma of_failedFork {child : Child} {errno : Errno} :
    Accounts live [⟨.fork child, .error errno⟩] live :=
  of_idle (by simp [Traffic.fork?, Traffic.asked?])

/-- Opening a pipe and closing it does not matter. -/
theorem throughPipe {live' live'' : Finset Pid} {making waiting : List Traffic}
    {first second : Except Errno Unit} (hmaking : Accounts live making live')
    (hwaiting : Accounts live' waiting live'') :
    Accounts live (throughPipe read write making first second waiting) live'' :=
  of_pipe.append (hmaking.append (of_closing.append hwaiting))

lemma fresh_making {making waiting : List Traffic} {first second : Except Errno Unit}
    (fresh : Throughout childrenAfter ForksFresh live
      (CommandShell.throughPipe read write making first second waiting)) :
    Throughout childrenAfter ForksFresh live making :=
  (throughout_append.1 (show Throughout childrenAfter ForksFresh live (making ++ _) from fresh.2)).1

end Accounts

/-- A launch adds to the count the processes of the job it comes to, all of them new. If it fails,
it has collected what it has made. -/
theorem LaunchRun.accounts {plan : Plan} {workingDir : String} {t : List Traffic}
    {result : Except LaunchError Job} {live : Finset Pid} (h : LaunchRun plan workingDir t result)
    (fresh : Throughout childrenAfter ForksFresh live t) :
    match result with
    | .ok job => job.pids.Nodup ∧ (∀ pid ∈ job.pids, pid ∉ live) ∧
        Accounts live t (live ∪ job.pids.toFinset)
    | .error _ => Accounts live t live := by
  cases h with
  | refused nul => exact .of_idle (by simp)
  | onlyFailed nul single => exact .of_failedFork
  | @only pid nul single =>
    obtain ⟨hnew, hmade⟩ := Accounts.of_started fresh
    refine ⟨List.nodup_singleton pid, by simpa using hnew, ?_⟩
    rw [List.toFinset_cons, List.toFinset_nil, Finset.union_insert, Finset.union_empty]
    exact hmade
  -- a pipe is made before anything else, and the forks come after it
  | pipeFailed nul piped => exact .of_idle (by simp [Traffic.fork?, Traffic.asked?])
  | rightFailed nul piped => exact .throughPipe .of_failedFork (.of_idle (by simp))
  | @leftFailed right read write rightPid errno first second waiting ending nul piped waits =>
    have fresh := Accounts.fresh_making fresh
    obtain ⟨hnew, hmade⟩ := Accounts.of_started (throughout_append.1 fresh).1
    -- the wait that follows takes the right side away again
    have hwaited := Job.accounts_waitFor (Finset.mem_insert_self rightPid live) waits
    rw [Finset.erase_insert hnew] at hwaited
    exact .throughPipe (hmade.append .of_failedFork) hwaited
  | @pipeline right read write leftPid rightPid first second nul piped =>
    have fresh := Accounts.fresh_making fresh
    obtain ⟨hright, hmade⟩ := Accounts.of_started (throughout_append.1 fresh).1
    obtain ⟨hleft, hmore⟩ := Accounts.of_started (hmade.fresh_right fresh)
    obtain ⟨hne, hleft⟩ := not_or.1 (Finset.mem_insert.not.1 hleft)
    refine ⟨by simpa using hne, by simpa using ⟨hleft, hright⟩, ?_⟩
    rw [List.toFinset_cons, List.toFinset_cons, List.toFinset_nil, Finset.union_insert,
      Finset.union_insert, Finset.union_empty]
    exact .throughPipe (hmade.append hmore) (.of_idle (by simp))

/-- A job that is launched and waited for leaves the count as it was. What follows the wait has
nothing to do with children. -/
lemma LaunchRun.accounts_waited {plan : Plan} {workingDir : String}
    {t waiting rest : List Traffic} {job : Job} {result : Except WaitError JobStatus}
    {live : Finset Pid}
    (launched : LaunchRun plan workingDir t (.ok job)) (waits : job.wait.Runs waiting result)
    (idle : ∀ x ∈ rest, x.fork? = none ∧ x.asked? = none)
    (fresh : Throughout childrenAfter ForksFresh live (t ++ (waiting ++ rest))) :
    Accounts live (t ++ (waiting ++ rest)) live := by
  obtain ⟨distinct, apart, hlaunch⟩ := launched.accounts (throughout_append.1 fresh).1
  exact hlaunch.append ((Job.accounts_waitAll distinct apart waits).append (.of_idle idle))

/-! ## Operations -/

/-- Something the shell has done keeps the accounts: the table goes along with the count, and no
process gets into it twice. -/
structure Accounted (s : State) (t : List Traffic) (s' : State) : Prop where
  distinct : s'.jobs.Nodup
  accounts : Accounts s.jobs.toFinset t s'.jobs.toFinset

namespace Accounted

variable {s s' : State} {t : List Traffic}

/-- A part of the shell that has nothing to do with children. -/
theorem of_idle (distinct : s.jobs.Nodup) (same : s'.jobs = s.jobs)
    (idle : ∀ x ∈ t, x.fork? = none ∧ x.asked? = none) : Accounted s t s' where
  distinct := same ▸ distinct
  accounts := same ▸ .of_idle idle

lemma cons {x : Traffic} (idle : x.fork? = none ∧ x.asked? = none) (h : Accounted s t s') :
    Accounted s (x :: t) s' where
  distinct := h.distinct
  accounts := (Accounts.of_idle (t := [x]) (by simpa using idle)).append h.accounts

/-- A job that goes to the background is in the count, and then in the table. -/
lemma of_tracked {plan : Plan} {job : Job} {answer : Except IoError Unit}
    (distinct : s.jobs.Nodup) (launched : LaunchRun plan s.workingDir t (.ok job))
    (fresh : Throughout childrenAfter ForksFresh s.jobs.toFinset t) :
    Accounted s (t ++ [⟨.write .output (startNotice job), answer⟩]) (s.track job) := by
  obtain ⟨hdistinct, apart, hlaunch⟩ := launched.accounts fresh
  refine ⟨List.nodup_append'.2 ⟨distinct, hdistinct, ?_⟩, ?_⟩
  · intro pid hold hnew
    exact apart pid hnew (List.mem_toFinset.2 hold)
  · rw [State.track, List.toFinset_append]
    exact hlaunch.append (.of_idle (by simp [Traffic.fork?, Traffic.asked?]))

/-- A job that stays in the foreground is in neither once it has been waited for. -/
theorem of_waited {plan : Plan} {job : Job} {waiting rest : List Traffic}
    {ending : Except WaitError JobStatus} (distinct : s.jobs.Nodup) (same : s'.jobs = s.jobs)
    (launched : LaunchRun plan s.workingDir t (.ok job)) (waits : job.wait.Runs waiting ending)
    (idle : ∀ x ∈ rest, x.fork? = none ∧ x.asked? = none)
    (fresh : Throughout childrenAfter ForksFresh s.jobs.toFinset (t ++ (waiting ++ rest))) :
    Accounted s (t ++ (waiting ++ rest)) s' := by
  refine ⟨same ▸ distinct, ?_⟩
  rw [same]
  exact launched.accounts_waited waits idle fresh

/-- A plan of programs keeps the accounts, however it is run. -/
theorem of_jobRun {plan : Plan} {result : Except CommandError Flow} (distinct : s.jobs.Nodup)
    (h : JobRun s plan t s' result)
    (fresh : Throughout childrenAfter ForksFresh s.jobs.toFinset t) : Accounted s t s' := by
  cases h with
  | unflushed => exact of_idle distinct rfl (by simp [Traffic.fork?, Traffic.asked?])
  | notLaunched launched => exact cons ⟨rfl, rfl⟩ ⟨distinct, launched.accounts fresh.2⟩
  | background launched goes =>
    exact cons ⟨rfl, rfl⟩ (of_tracked distinct launched (throughout_append.1 fresh.2).1)
  | backgroundUntold launched goes =>
    exact cons ⟨rfl, rfl⟩ (of_tracked distinct launched (throughout_append.1 fresh.2).1)
  | @unwaited t waiting job e launched stays waits =>
    rw [← List.append_nil waiting] at fresh ⊢
    exact cons ⟨rfl, rfl⟩ (of_waited distinct rfl launched waits (by simp) fresh.2)
  | exited launched stays waits =>
    refine cons ⟨rfl, rfl⟩ (of_waited distinct rfl launched waits ?_ fresh.2)
    simp [Traffic.fork?, Traffic.asked?]
  | interrupted launched stays waits =>
    refine cons ⟨rfl, rfl⟩ (of_waited distinct rfl launched waits ?_ fresh.2)
    simp [Traffic.fork?, Traffic.asked?]
  | interruptedUnended launched stays waits =>
    refine cons ⟨rfl, rfl⟩ (of_waited distinct rfl launched waits ?_ fresh.2)
    simp [Traffic.fork?, Traffic.asked?]
  | killed launched stays waits other =>
    refine cons ⟨rfl, rfl⟩ (of_waited distinct rfl launched waits ?_ fresh.2)
    simp [Traffic.fork?, Traffic.asked?]

/-- A built-in command may ask for nothing that has to do with children. -/
theorem idle_of_isBuiltinCall {x : Traffic} (h : x.request.isBuiltinCall = true) :
    x.fork? = none ∧ x.asked? = none := by
  obtain ⟨request, answer⟩ := x
  cases request with
  | fork child => exact absurd h (by simp [ShellCall.isBuiltinCall])
  | wait pid block => exact absurd h (by simp [ShellCall.isBuiltinCall])
  | _ => exact ⟨rfl, rfl⟩

lemma idle_of_isShowing {x : Traffic} (h : x.request.isShowing = true) :
    x.fork? = none ∧ x.asked? = none := by
  obtain ⟨request, answer⟩ := x
  cases request with
  | fork child => exact absurd h (by simp [ShellCall.isShowing])
  | wait pid block => exact absurd h (by simp [ShellCall.isShowing])
  | _ => exact ⟨rfl, rfl⟩

/-- A command line keeps the accounts. -/
theorem of_lineRun {line : String} {result : Except CommandError Flow} (distinct : s.jobs.Nodup)
    (h : LineRun s line t s' result)
    (fresh : Throughout childrenAfter ForksFresh s.jobs.toFinset t) : Accounted s t s' := by
  cases h with
  | refused planned => exact of_idle distinct rfl (by simp)
  | blank planned => exact of_idle distinct rfl (by simp)
  | @builtin plan builtin _ _ _ planned left run =>
    obtain ⟨hcalls, agrees⟩ := (s.runBuiltin_actsAsBuiltin builtin plan).of_runs run
    refine of_idle distinct agrees.jobs_eq ?_
    intro x hx
    exact idle_of_isBuiltinCall (hcalls x hx)
  | misplaced planned left right => exact of_idle distinct rfl (by simp)
  | job planned left right run => exact of_jobRun distinct run fresh

/-- Every operation keeps the accounts. -/
theorem of_perform {operation : Operation} (distinct : s.jobs.Nodup)
    (h : (operation.perform s).Runs t s')
    (fresh : Throughout childrenAfter ForksFresh s.jobs.toFinset t) : Accounted s t s' := by
  rcases Operation.runs_perform h with ⟨line, flow, -, run⟩ | ⟨result, -, run⟩ | ⟨-, rfl, shows⟩
  · rcases LineRun.of_runs_execute run with went | ⟨t, e, failed, -, rfl⟩
    · exact of_lineRun distinct went fresh
    · obtain ⟨hdistinct, haccounts⟩ := of_lineRun distinct failed (throughout_append.1 fresh).1
      exact ⟨hdistinct, haccounts.append (.of_idle (by simp [Traffic.fork?, Traffic.asked?]))⟩
  · obtain ⟨asking, telling, found, rfl, hsweep, rfl, shows⟩ :=
      exists_sweep_of_runs_reportFinished run
    have apart : ∀ pid ∈ s.jobs, pid ∉ (∅ : Finset Pid) := fun pid _ => Finset.notMem_empty pid
    obtain ⟨hkept, haccounts⟩ := Job.accounts_sweep distinct apart hsweep
    rw [Finset.empty_union, Finset.empty_union] at haccounts
    refine ⟨hkept.nodup distinct, haccounts.append (.of_idle ?_)⟩
    intro x hx
    exact idle_of_isShowing (shows x hx)
  · exact of_idle distinct rfl fun x hx => idle_of_isShowing (shows x hx)

/-- A history keeps the accounts. -/
theorem of_history {steps : List PerformedStep} (distinct : s.jobs.Nodup) (h : History s steps)
    (fresh : Throughout childrenAfter ForksFresh s.jobs.toFinset (transcript steps)) :
    Accounted s (transcript steps) (stateAfter s steps) := by
  induction steps generalizing s with
  | nil => exact of_idle distinct rfl (by simp)
  | cons step steps ih =>
    rw [transcript_cons] at fresh ⊢
    obtain ⟨hdistinct, first⟩ := of_perform distinct h.1 (throughout_append.1 fresh).1
    obtain ⟨hlast, rest⟩ := ih hdistinct h.2 (first.fresh_right fresh)
    exact ⟨hlast, first.append rest⟩

end Accounted

/-! ## The life of a shell -/

/-- No child is lost and none is collected twice: in every history of a shell, if the system gives
new children numbers that no uncollected child has, the shell asks only about children of its own
that it has not collected, and after each operation these children are the ones in the table of
background jobs, where none of them stands twice. -/
theorem children_accounted {config : Config} {workingDir : String} {onTerminal : Bool}
    {steps : List PerformedStep} (h : History (State.start config workingDir onTerminal) steps)
    (fresh : Throughout childrenAfter ForksFresh ∅ (transcript steps)) :
    Throughout childrenAfter AsksOwn ∅ (transcript steps) ∧
      ∀ before step after, steps = before ++ step :: after →
        step.state.jobs.Nodup ∧
          step.state.jobs.toFinset = (transcript (before ++ [step])).foldl childrenAfter ∅ := by
  refine ⟨(Accounted.of_history List.nodup_nil h fresh).accounts.asks, ?_⟩
  intro before step after hsteps
  obtain rfl : steps = (before ++ [step]) ++ after := by simp [hsteps]
  rw [transcript_append] at fresh
  have done := Accounted.of_history List.nodup_nil h.left (throughout_append.1 fresh).1
  rw [stateAfter_concat] at done
  exact ⟨done.distinct, done.accounts.count.symm⟩

/-- `sleep 9 &` -/
def napping : Plan :=
  { left := { program := "sleep", arguments := ["9"] }, background := true }

/-- `ls | cat` -/
def copiedListing : Plan := { left := { program := "ls" }, right := some { program := "cat" } }

/-- The life of a shell in which little goes smoothly: the start of a background job cannot be told,
the left side of a pipeline cannot be made, a sweep is interrupted, the number of a collected child
is used again, a stop is seen, and an end arrives as a failure. -/
def unluckyLife : List PerformedStep :=
  let napStarted (pid : Pid) : List Traffic :=
    ⟨.flush .output, .ok ()⟩ :: started (napping.onlyChild "/") pid
  let start := State.start {} "/" false
  [{ operation := .execute "sleep 9 &"
     transcript :=
      napStarted 20 ++
        [⟨.write .output (startNotice ⟨[20], true⟩), .error (.os .EPIPE)⟩] ++
        [⟨.warn ("orbit: " ++ (CommandError.output (.os .EPIPE)).message ++ "\n"), ()⟩]
     state := { start with jobs := [20] } },
    { operation := .execute "ls | cat"
      transcript :=
        (⟨.flush .output, .ok ()⟩ ::
          throughPipe 3 4
            (started (copiedListing.readingChild { program := "cat" } "/" 3 4) 21 ++
              [⟨.fork (copiedListing.writingChild "/" 3 4), .error .EAGAIN⟩])
            (.ok ()) (.error .EBADF) [⟨.wait 21 true, .ok (.exited 0)⟩]) ++
          [⟨.warn ("orbit: " ++ (CommandError.launch (.failed .fork .EAGAIN)).message ++ "\n"), ()⟩]
      state := { start with jobs := [20] } },
    { operation := .reportFinished
      transcript := [⟨.wait 20 false, .error .EINTR⟩]
      state := { start with jobs := [20] } },
    { operation := .execute "sleep 9 &"
      transcript := napStarted 21 ++ [⟨.write .output (startNotice ⟨[21], true⟩), .ok ()⟩]
      state := { start with jobs := [20, 21] } },
    { operation := .reportFinished
      transcript := [⟨.wait 20 false, .ok (.stopped .SIGINT)⟩, ⟨.wait 21 false, .error .EINVAL⟩]
      state := { start with jobs := [20] } }]

theorem children_accounted_unluckyLife :
    History (State.start {} "/" false) unluckyLife ∧
      Throughout childrenAfter ForksFresh ∅ (transcript unluckyLife) ∧
      Throughout childrenAfter AsksOwn ∅ (transcript unluckyLife) ∧
      ∀ before step after, unluckyLife = before ++ step :: after →
        step.state.jobs.Nodup ∧
          step.state.jobs.toFinset = (transcript (before ++ [step])).foldl childrenAfter ∅ := by
  have nap : planLine "sleep 9 &" 64 = .ok (some napping) := by cbv
  have copy : planLine "ls | cat" 64 = .ok (some copiedListing) := by cbv
  have life : History (State.start {} "/" false) unluckyLife :=
    ⟨Operation.runs_perform_of_error nap (Dialogue.runs_of_replay? rfl),
      Operation.runs_perform_of_error copy (Dialogue.runs_of_replay? rfl),
      Dialogue.runs_of_replay? rfl,
      Operation.runs_perform_of_ok nap (Dialogue.runs_of_replay? rfl),
      Dialogue.runs_of_replay? rfl, trivial⟩
  have fresh : Throughout childrenAfter ForksFresh ∅ (transcript unluckyLife) := by decide
  exact ⟨life, fresh, children_accounted life fresh⟩

end CommandShell
