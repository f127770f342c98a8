import CommandShell.Proofs.Announcements
import CommandShell.Proofs.Ensemble
import CommandShell.Proofs.Stages

/-!
# Process groups of the children

A terminal sends its interrupt to a whole process group. A background job is kept out of that by a
group of its own, and everything else that a shell starts shares the group of the shell. The child
moves itself before it turns into its program, and the shell moves it as well, right after it has
made it, so that neither of them ever sees a background job in the wrong group.

`Ensemble.background_shielded` says what this comes to. Whatever a shell is asked to do, and however
its calls and those of its children interleave, no process in its table is in the group of the
shell, unless the shell is just about to move it; a child of a background job has a group of its own
when it asks for its program; and every other child is in the group of the shell.

The proof has three parts. What is left of a setup keeps the order of its calls (`MovesFirst`),
what is left of an operation moves the right children at the right time (`Settles`), and the
children that are left when an operation has ended are those in the table
(`Ensemble.Underway.idle`). Together they make the invariant `Ensemble.Orderly` that each turn
preserves.
-/

namespace CommandShell

open Dialogue

/-! ## The child -/

/-- A child that leaves the group of its shell does so before it asks for its program, and no other
child leaves it. -/
def GroupReady (c : Child) (moved : Bool) : Syscall → Prop
  | .ownGroup => c.wiring.ownGroup = true
  | .exec _ _ => c.wiring.ownGroup = true → moved = true
  | _ => True

/-- A child has moved itself to a group of its own, after one more call. -/
def MovedNext (moved : Bool) (x : Exchange Syscalls) (moved' : Bool) : Prop :=
  moved' = (moved || x.request.isMove)

/-- What is left of a setup keeps to that. -/
def MovesFirst (c : Child) (rest : Dialogue Syscalls Started) (moved : Bool) : Prop :=
  rest.Secures MovedNext (GroupReady c) (fun _ _ => True) moved

lemma Child.setup_movesFirst (c : Child) : MovesFirst c c.setup false := by
  -- behind the move nothing is asked for that could be out of order
  have furnished {moved : Bool} (ready : c.wiring.ownGroup = true → moved = true) :
      MovesFirst c (c.dropUnused c.furnish) moved := by
    refine (c.dropUnused_furnishes c.furnish_furnishes).secures
      (fun moved => c.wiring.ownGroup = true → moved = true) ?_ ?_ ?_ ready
    · rintro moved x _ ready - rfl own
      rw [ready own]
      rfl
    · intro moved r ready furnishing
      cases r with
      | exec _ _ => exact ready
      | ownGroup => exact absurd furnishing Bool.false_ne_true
      | _ => exact trivial
    · exact fun _ _ _ _ => trivial
  rw [setup_eq]
  refine secures_call_bind trivial ?_
  rintro ⟨⟩ _ rfl
  unfold joinGroup
  split
  · rename_i own
    refine secures_call_bind own ?_
    rintro ⟨⟩ _ rfl
    exact furnished fun _ => rfl
  · rename_i stays
    exact furnished fun own => absurd own stays

/-! ## The shell -/

/-- A child leaves the group of its shell if it is made for a background job, and only then. -/
lemma Plan.Makes.ownGroup_eq {plan : Plan} {workingDir : String} {child : Child}
    (h : plan.Makes workingDir child) : child.wiring.ownGroup = plan.background := by
  cases h <;> rfl

/-- The child is made for a line that a shell with these settings can be given, and goes to the
background if the line says so. -/
def MadeForLine (maxArgs : Nat) (child : Child) : Prop :=
  ∃ line plan workingDir, planLine line maxArgs = .ok (some plan) ∧ plan.Makes workingDir child

/-- The child that a shell has just made and is going to move to a group of its own, after one more
exchange. -/
def unsettledAfter (unsettled : Option Pid) : Traffic → Option Pid
  | ⟨.fork child, .ok pid⟩ => if child.wiring.ownGroup then some pid else none
  | ⟨.ownGroup _, _⟩ => none
  | _ => unsettled

/-- With each of its exchanges. -/
def SettlesNext (unsettled : Option Pid) (x : Traffic) (unsettled' : Option Pid) : Prop :=
  unsettled' = unsettledAfter unsettled x

/-- The shell moves a child right after it has made it, before it makes any other call. -/
def SettleReady (maxArgs : Nat) (unsettled : Option Pid) : ShellCall → Prop
  | .ownGroup pid => unsettled = some pid
  | .fork child => unsettled = none ∧ MadeForLine maxArgs child
  | _ => unsettled = none

/-- A part of the shell that keeps to that, whatever comes of it. -/
def Settles {α : Type} (maxArgs : Nat) (part : Shell α) (unsettled : Option Pid) : Prop :=
  part.Secures SettlesNext (SettleReady maxArgs) (fun unsettled _ => unsettled = none) unsettled

/-- The call makes no child and moves none. -/
def ShellCall.leavesGroups : ShellCall → Bool
  | .fork _ | .ownGroup _ => false
  | _ => true

section Settles

variable {α β : Type} {maxArgs : Nat}

lemma settles_of_within {part : Shell α} {Q : α → Prop}
    (within : part.Within (fun r : ShellCall => r.leavesGroups = true) Q) :
    Settles maxArgs part none := by
  refine within.secures (· = none) ?_ ?_ (fun _ _ settled _ => settled) rfl
  · rintro _ ⟨request, answer⟩ _ rfl leaves rfl
    cases request with
    | fork _ | ownGroup _ => exact absurd leaves Bool.false_ne_true
    | _ => rfl
  · rintro _ r rfl leaves
    cases r with
    | fork _ | ownGroup _ => exact absurd leaves Bool.false_ne_true
    | _ => rfl

lemma Settles.bind {part : Shell α} {next : α → Shell β} {unsettled : Option Pid}
    (h : Settles maxArgs part unsettled) (hnext : ∀ a, Settles maxArgs (next a) none) :
    Settles maxArgs (part.bind next) unsettled := by
  refine Secures.bind (h.mono fun _ a settled => ?_)
  rw [settled]
  exact hnext a

lemma settles_call_bind {request : ShellCall} {next : request.Answer → Shell α}
    (leaves : request.leavesGroups = true) (hnext : ∀ answer, Settles maxArgs (next answer) none) :
    Settles maxArgs ((Shell.call request).bind next) none := by
  have call : Settles maxArgs (Shell.call request) none :=
    settles_of_within (Q := fun _ => True) ⟨leaves, fun _ _ => trivial⟩
  exact call.bind hnext

lemma settles_done (a : α) : Settles maxArgs (.done a : Shell α) none := rfl

/-- A child that is to leave the group of the shell is moved right after it has been made. -/
lemma spawn_settles {child : Child} (made : MadeForLine maxArgs child) :
    Settles maxArgs (spawn child) none := by
  refine secures_call_bind ⟨rfl, made⟩ ?_
  rintro answer _ rfl
  cases answer with
  | error errno => exact settles_done _
  | ok pid =>
    dsimp only [unsettledAfter]
    split
    · refine secures_call_bind rfl ?_
      rintro ⟨⟩ _ rfl
      exact settles_done _
    · exact settles_done _

lemma closePipe_settles (read write : Fd) : Settles maxArgs (closePipe read write) none :=
  settles_call_bind rfl fun _ => settles_call_bind rfl fun _ => settles_done _

lemma Job.wait_settles (job : Job) : Settles maxArgs job.wait none := by
  have waitAll (pids : List Pid) (result : Except WaitError JobStatus) :
      Settles maxArgs (Job.waitAll result pids) none := by
    induction pids generalizing result with
    | nil => exact settles_done _
    | cons pid pids ih =>
      have waitFor : Settles maxArgs (Job.waitFor pid) none := by
        rw [Job.waitFor_eq]
        exact settles_of_within (Q := fun _ => True) ⟨rfl, fun _ _ => trivial⟩
      exact waitFor.bind fun ending => ih _
  exact waitAll _ _

lemma launch_settles {plan : Plan} {workingDir : String}
    (made : ∀ child, plan.Makes workingDir child → MadeForLine maxArgs child) :
    Settles maxArgs (launch plan workingDir) none := by
  unfold launch
  split
  · exact settles_done _
  split
  · rename_i single
    refine (spawn_settles (made _ (.only single))).bind fun only => ?_
    cases only <;> exact settles_done _
  · rename_i right piped
    -- every fork is settled by the move behind it, before anything else is asked for
    refine settles_call_bind rfl fun answer => ?_
    cases answer with
    | error errno => exact settles_done _
    | ok ends =>
      refine (spawn_settles (made _ (.reading piped))).bind fun rightSide => ?_
      cases rightSide with
      | error e => exact (closePipe_settles _ _).bind fun _ => settles_done _
      | ok rightPid =>
        refine (spawn_settles (made _ (.writing piped))).bind fun leftSide => ?_
        refine (closePipe_settles _ _).bind fun _ => ?_
        cases leftSide with
        | error e => exact (Job.wait_settles _).bind fun _ => settles_done _
        | ok leftPid => exact settles_done _

lemma runForeground_settles (s : State) (job : Job) :
    Settles maxArgs (s.runForeground job) none := by
  refine (Job.wait_settles job).bind fun ending => ?_
  cases ending with
  | error e => exact settles_done _
  | ok status =>
    refine settles_call_bind rfl fun _ => ?_
    cases status with
    | exited _ => exact settles_done _
    | signaled signal =>
      dsimp only
      split
      · refine settles_call_bind rfl fun answer => ?_
        cases answer <;> exact settles_done _
      · exact settles_call_bind rfl fun _ => settles_done _

lemma runJob_settles {s : State} {plan : Plan}
    (made : ∀ child, plan.Makes s.workingDir child → MadeForLine maxArgs child) :
    Settles maxArgs (s.runJob plan) none := by
  refine settles_call_bind rfl fun answer => ?_
  cases answer with
  | error e => exact settles_done _
  | ok _ =>
    refine (launch_settles made).bind fun launched => ?_
    cases launched with
    | error e => exact settles_done _
    | ok job =>
      dsimp only
      split
      · refine settles_call_bind rfl fun told => ?_
        cases told <;> exact settles_done _
      · exact runForeground_settles s job

lemma run_settles (s : State) (line : String) :
    Settles s.config.maxArgs (s.run line) none := by
  unfold State.run
  split
  · exact settles_done _
  · exact settles_done _
  · rename_i plan planned
    unfold State.runPlan
    split
    · refine settles_of_within ((s.runBuiltin_actsAsBuiltin _ plan).mono fun r builtin => ?_)
      cases r with
      | fork _ | ownGroup _ => exact absurd builtin Bool.false_ne_true
      | _ => rfl
    split
    · exact settles_done _
    · exact runJob_settles fun child made => ⟨line, plan, s.workingDir, planned, made⟩

/-- Whatever operation a shell does, it moves the children of background jobs when it has made them
and no others. -/
lemma perform_settles (s : State) (operation : Operation) :
    Settles s.config.maxArgs (operation.perform s) none := by
  have showing {γ : Type} {part : Shell γ} {Q : γ → Prop}
      (within : part.Within (fun r : ShellCall => r.isShowing = true) Q) :
      Settles s.config.maxArgs part none := by
    refine settles_of_within (within.mono fun r shows => ?_)
    cases r with
    | fork _ | ownGroup _ => exact absurd shows Bool.false_ne_true
    | _ => rfl
  cases operation with
  | execute line =>
    refine Settles.bind ((run_settles s line).bind fun result => ?_) fun _ => settles_done _
    obtain ⟨s', result⟩ := result
    cases result with
    | error e => exact settles_call_bind rfl fun _ => settles_done _
    | ok flow => exact settles_done _
  | reportFinished =>
    -- a sweep asks about processes and forks none
    have sweep (pids : List Pid) : Settles s.config.maxArgs (Job.sweep pids) none := by
      induction pids with
      | nil => exact settles_done _
      | cons pid pids ih =>
        exact settles_call_bind rfl fun answer => ih.bind fun found => settles_done _
    refine Settles.bind ((sweep s.jobs).bind fun found => ?_) fun _ => settles_done _
    dsimp only
    split
    · exact (showing (State.announce_within found.finished)).bind fun _ => settles_done _
    · exact settles_done _
  | prompt => exact (showing s.prompt_within).bind fun _ => settles_done _
  | render => exact (showing s.render_within).bind fun _ => settles_done _

end Settles

/-! ## What stays in the table -/

section Table

variable {s s' : State} {t : List Traffic}

/-- A plan of programs leaves the table as it was, or has made one child for the background. -/
lemma JobRun.jobs_eq_or_started {plan : Plan} {result : Except CommandError Flow}
    (h : JobRun s plan t s' result) (alone : plan.background = true → plan.right = none) :
    s'.jobs = s.jobs ∨ ∃ child pid, child.RunsApart ∧ forks t = [(child, pid)] := by
  have started {job : Job} {u : List Traffic} (launched : LaunchRun plan s.workingDir u (.ok job))
      (goes : job.background = true) (answer : Except IoError Unit) :
      ∃ child pid, child.RunsApart ∧ forks (⟨.flush .output, .ok ()⟩ ::
        (u ++ [⟨.write .output (startNotice job), answer⟩])) = [(child, pid)] := by
    obtain ⟨child, pid, apart, rfl, -⟩ := launched.eq_started goes alone
    refine ⟨child, pid, apart, ?_⟩
    change forks (started child pid ++ _) = _
    rw [forks_append, forks_started]
    rfl
  cases h with
  | background launched goes | backgroundUntold launched goes =>
    exact .inr (started launched goes _)
  | unflushed | notLaunched _ | unwaited _ _ _ | exited _ _ _ | interrupted _ _ _
  | interruptedUnended _ _ _ | killed _ _ _ _ => exact .inl rfl

lemma LineRun.jobs_eq_or_started {line : String} {result : Except CommandError Flow}
    (h : LineRun s line t s' result) :
    s'.jobs = s.jobs ∨ ∃ child pid, child.RunsApart ∧ forks t = [(child, pid)] := by
  cases h with
  | refused _ | blank _ | misplaced _ _ _ => exact .inl rfl
  | @builtin plan builtin _ _ _ _ _ run =>
    exact .inl ((s.runBuiltin_actsAsBuiltin builtin plan).of_runs run).2.jobs_eq
  | job planned _ _ run =>
    exact run.jobs_eq_or_started (planLine_eq_ok_iff.1 planned).right_eq_none

/-- A child that an operation has made and that is in the table after it leaves the group of the
shell. -/
lemma ownGroup_of_mem_jobs {operation : Operation} (h : (operation.perform s).Runs t s')
    (fresh : Throughout childrenAfter ForksFresh s.jobs.toFinset t) {child : Child} {pid : Pid}
    (made : (child, pid) ∈ forks t) (stays : pid ∈ s'.jobs) : child.wiring.ownGroup = true := by
  have unmade (h : ∀ x ∈ t, x.fork? = none) : child.wiring.ownGroup = true := by
    rw [forks, List.filterMap_eq_nil_iff.2 h] at made
    exact absurd made List.not_mem_nil
  -- only a line can have forked, and what it adds to the table is one child that runs apart
  rcases Operation.runs_perform h with ⟨line, flow, -, run⟩ | ⟨result, -, run⟩ | ⟨-, rfl, shows⟩
  · have new := (LineAttempts.of_runs_execute run).first.notMem_of_fresh fresh _ made
    have done : s'.jobs = s.jobs ∨ ∃ child pid, child.RunsApart ∧ forks t = [(child, pid)] := by
      rcases LineRun.of_runs_execute run with went | ⟨t, e, failed, -, rfl⟩
      · exact went.jobs_eq_or_started
      · have same : forks (t ++ [⟨.warn ("orbit: " ++ e.message ++ "\n"), ()⟩]) = forks t := by
          rw [forks_append]
          exact List.append_nil _
        rw [same]
        exact failed.jobs_eq_or_started
    rcases done with same | ⟨other, number, apart, hforks⟩
    · rw [same] at stays
      exact absurd (List.mem_toFinset.2 stays) new
    · rw [hforks, List.mem_singleton] at made
      cases made
      rw [apart]
  · obtain ⟨asking, telling, found, rfl, hsweep, -, shows⟩ :=
      exists_sweep_of_runs_reportFinished run
    obtain ⟨asked, -, rfl, -⟩ := Job.runs_sweep_iff.1 hsweep
    refine unmade (List.forall_mem_append.2 ⟨fun x hx => ?_, fun x hx => ?_⟩)
    · obtain ⟨question, -, rfl⟩ := List.mem_map.1 hx
      rfl
    · exact (Accounted.idle_of_isShowing (shows x hx)).1
  · exact unmade fun x hx => (Accounted.idle_of_isShowing (shows x hx)).1

end Table

/-! ## The children's groups -/

/-- Where a child is, whose shell is in this group and is going to move the child `unsettled`. -/
structure Member.Placed (p : Member) (group : Pid) (unsettled : Option Pid) : Prop where
  /-- It does what is left of a setup. Once it has moved itself it is in its own group, and it has
  done so before it runs, if it is to. -/
  setup : ∃ moved, MovesFirst p.child p.rest moved ∧ (moved = true → p.group = p.pid) ∧
    (p.running = true → p.child.wiring.ownGroup = true → moved = true)
  /-- If it is to leave the group of the shell then it has, or the shell is going to see to that. -/
  settled : p.child.wiring.ownGroup = true → p.group = p.pid ∨ unsettled = some p.pid
  asked : unsettled = some p.pid → p.child.wiring.ownGroup = true
  together : p.child.wiring.ownGroup = false → p.group = group
  distinct : p.pid ≠ group

namespace Member.Placed

variable {p p' : Member} {group : Pid} {unsettled : Option Pid}

lemma forked {child : Child} {pid : Pid} (other : pid ≠ group) :
    (Member.forked child pid group).Placed group
      (unsettledAfter unsettled ⟨.fork child, .ok pid⟩) where
  setup := ⟨false, child.setup_movesFirst, nofun, nofun⟩
  settled own := .inr (if_pos own)
  asked h := by
    have h : (if child.wiring.ownGroup then some pid else none) = some pid := h
    split at h
    · assumption
    · cases h
  together _ := rfl
  distinct := other

lemma after (h : p.Placed group unsettled) {x : Exchange Syscalls}
    (done : p.after? x = some p') : p'.Placed group unsettled := by
  obtain ⟨rest, taken, rfl⟩ := after?_eq_some_iff.1 done
  obtain ⟨moved, first, hmoved, hrunning⟩ := h.setup
  have ready := first.allowed_of_pending? (pending?_of_take? taken)
  refine ⟨⟨_, first.take? taken rfl, ?_, ?_⟩, ?_, h.asked, ?_, h.distinct⟩
  · intro moves
    dsimp only
    split
    · rfl
    · rename_i other
      rw [Bool.eq_false_iff.2 other, Bool.or_false] at moves
      exact hmoved moves
  -- a member runs its program only after the move, and the order of the calls says so
  · intro running own
    rcases Bool.or_eq_true_iff.1 running with running | starts
    · rw [hrunning running own]
      rfl
    · have hmoved : moved = true := by
        obtain ⟨request, answer⟩ := x
        cases request with
        | exec _ _ => exact ready own
        | _ => exact absurd starts Bool.false_ne_true
      rw [hmoved]
      rfl
  · intro own
    dsimp only
    split
    · exact .inl rfl
    · exact h.settled own
  · intro stays
    dsimp only
    split
    · rename_i moves
      have own : p.child.wiring.ownGroup = true := by
        obtain ⟨request, answer⟩ := x
        cases request with
        | ownGroup => exact ready
        | _ => exact absurd moves Bool.false_ne_true
      rw [own] at stays
      cases stays
    · exact h.together stays

lemma killed (h : p.Placed group unsettled) : p.killed.Placed group unsettled := by
  obtain ⟨moved, -, hmoved, hrunning⟩ := h.setup
  exact ⟨⟨moved, trivial, hmoved, hrunning⟩, h.settled, h.asked, h.together, h.distinct⟩

/-- A child that leaves the group of its shell has done so when it asks for its program. -/
lemma isApart_of_isAtProgram (h : p.Placed group unsettled)
    (own : p.child.wiring.ownGroup = true) (arrived : p.isAtProgram = true) :
    p.IsApart group := by
  obtain ⟨moved, first, hmoved, hrunning⟩ := h.setup
  have left : p.group = p.pid := by
    refine hmoved ?_
    rcases Bool.or_eq_true_iff.1 arrived with asks | running
    · obtain ⟨r, hpending, starts⟩ := (Option.any_eq_true _ _).1 asks
      have ready := first.allowed_of_pending? hpending
      cases r with
      | exec _ _ => exact ready own
      | _ => exact absurd starts Bool.false_ne_true
    · exact hrunning running own
  exact ⟨left, left ▸ h.distinct⟩

/-- A child that is moved by its shell. If it runs by now it has moved before. -/
lemma moved (h : p.Placed group (some p.pid)) : p.moved.Placed group none := by
  have own := h.asked rfl
  obtain ⟨moved, first, hmoved, hrunning⟩ := h.setup
  have arrived : p.moved.group = p.pid := by
    unfold Member.moved
    split
    · rename_i running
      exact hmoved (hrunning running own)
    · rfl
  rw [Member.moved_eq]
  refine ⟨⟨moved, first, fun _ => arrived, hrunning⟩, fun _ => .inl arrived, nofun, ?_, h.distinct⟩
  intro stays
  rw [own] at stays
  cases stays

lemma of_other (h : p.Placed group unsettled) {x : Traffic}
    (ready : SettleReady maxArgs unsettled x.request) (fresh : ∀ made ∈ x.fork?, made.2 ≠ p.pid)
    (other : x ≠ ⟨.ownGroup p.pid, ()⟩) : p.Placed group (unsettledAfter unsettled x) := by
  obtain ⟨request, answer⟩ := x
  cases request with
  | fork child =>
    cases answer with
    | error errno => exact h
    -- before a fork nothing is left to be settled, and the new process has its own number
    | ok pid =>
      obtain ⟨rfl, -⟩ := ready
      refine ⟨h.setup, fun own => .inl ?_, fun asked => ?_, h.together, h.distinct⟩
      · exact (h.settled own).resolve_right nofun
      · have asked : (if child.wiring.ownGroup then some pid else none) = some p.pid := asked
        split at asked
        · cases asked
          exact absurd rfl (fresh (child, p.pid) rfl)
        · cases asked
  | ownGroup pid =>
    obtain rfl := ready
    refine ⟨h.setup, fun own => .inl ?_, nofun, h.together, h.distinct⟩
    refine (h.settled own).resolve_right fun asked => ?_
    cases asked
    exact other rfl
  | _ => exact h

end Member.Placed

/-! ## The operation -/

lemma Dialogue.Reaches.concat {I : Interface} [DecidableEq I.Request] {α : Type}
    {d e f : Dialogue I α} {t : List (Exchange I)} {x : Exchange I} (h : d.Reaches t e)
    (taken : e.take? x = some f) : d.Reaches (t ++ [x]) f := by
  induction h with
  | refl d =>
    obtain ⟨again, next, rfl, rfl⟩ := take?_eq_some_iff.1 taken
    exact .step x.answer (.refl _)
  | step answer _ ih => exact .step answer (ih taken)

/-- What is left of a table was in it, and has not been collected. -/
lemma mem_of_mem_leftAfter {table : List Pid} {x : Traffic} {pid : Pid}
    (h : pid ∈ leftAfter table x) :
    pid ∈ table ∧ ∀ live : Finset Pid, pid ∈ live → pid ∈ childrenAfter live x := by
  -- only an answered wait takes anything from the table
  by_cases hx : x.isWait = true
  · obtain ⟨request, answer⟩ := x
    cases request with
    | wait asked block =>
      have h : pid ∈ if Job.verdict? asked answer = none then table
        else table.filter (· ≠ asked) := h
      refine ⟨?_, fun live hlive => ?_⟩
      · split at h
        · exact h
        · exact (List.mem_filter.1 h).1
      · refine (childrenAfter_wait live asked block answer).symm ▸ ?_
        split at h
        · rwa [if_pos ‹_›]
        · rw [if_neg ‹_›]
          exact Finset.mem_erase.2 ⟨by simpa using (List.mem_filter.1 h).2, hlive⟩
    | _ => exact absurd hx Bool.false_ne_true
  · have noWait : x.isWait = false := by simpa using hx
    refine ⟨?_, fun live hlive => subset_childrenAfter noWait hlive⟩
    obtain ⟨request, answer⟩ := x
    cases request with
    | wait asked block => cases noWait
    | _ => exact h

namespace Ensemble

variable {e e' : Ensemble}

/-- What the shell is about: `part`, which it began in the state `s`, with the exchanges `t` so
far. -/
structure Underway (e : Ensemble) (s : State) (part : Shell State) (t : List Traffic) : Prop where
  begun : part = .done s ∨ ∃ operation : Operation, part = operation.perform s
  reached : part.Reaches t e.rest
  distinct : s.jobs.Nodup
  fresh : Throughout childrenAfter ForksFresh s.jobs.toFinset t
  /-- The children are those in the count. -/
  count : e.pids.toFinset = t.foldl childrenAfter s.jobs.toFinset
  /-- Those that were there when the operation began leave the group of the shell. -/
  known : ∀ p ∈ e.children, p.child.wiring.ownGroup = true ∨ (p.child, p.pid) ∈ forks t
  table : ∀ pid ∈ e.table, pid ∈ e.pids
  tracked : ∀ p ∈ e.children, p.pid ∈ e.table → p.child.wiring.ownGroup = true

/-- Between two operations the children are the processes in the table, and all of them leave the
group of the shell. -/
structure Idle (e : Ensemble) (s : State) : Prop where
  distinct : s.jobs.Nodup
  count : e.pids.toFinset = s.jobs.toFinset
  known : ∀ p ∈ e.children, p.child.wiring.ownGroup = true

namespace Underway

variable {s s' : State} {part : Shell State} {t : List Traffic}

theorem idle (h : e.Underway s part t) (ended : e.rest = .done s') :
    e.Idle s' ∧ s'.config = s.config := by
  have run := h.reached
  rw [ended] at run
  have run := reaches_done_iff.1 run
  rcases h.begun with rfl | ⟨operation, rfl⟩
  · obtain ⟨rfl, rfl⟩ := runs_done_iff.1 run
    exact ⟨⟨h.distinct, h.count, fun p hp => (h.known p hp).resolve_right List.not_mem_nil⟩, rfl⟩
  · obtain ⟨distinct, accounts⟩ := Accounted.of_perform h.distinct run h.fresh
    have count : e.pids.toFinset = s'.jobs.toFinset := h.count.trans accounts.count
    refine ⟨⟨distinct, count, fun p hp => ?_⟩, Operation.config_eq_of_runs_perform run⟩
    rcases h.known p hp with own | made
    · exact own
    · refine ownGroup_of_mem_jobs run h.fresh made ?_
      have hpid : p.pid ∈ e.pids.toFinset :=
        List.mem_toFinset.2 (List.mem_map.2 ⟨p, hp, rfl⟩)
      rw [count] at hpid
      exact List.mem_toFinset.1 hpid

lemma begins (h : e.Idle s) (operation : Operation) :
    ({ e with rest := operation.perform s, table := s.jobs } : Ensemble).Underway s
      (operation.perform s) [] where
  begun := .inr ⟨operation, rfl⟩
  reached := .refl _
  distinct := h.distinct
  fresh := trivial
  count := h.count
  known p hp := .inl (h.known p hp)
  table _ hpid := List.mem_toFinset.1 (h.count ▸ List.mem_toFinset.2 hpid)
  tracked p hp _ := h.known p hp

/-- A child does something, which does not change whom it is known as. -/
lemma set (h : e.Underway s part t) {index : Nat} {p p' : Member}
    (hp : e.children[index]? = some p) (same : p'.pid = p.pid) (child : p'.child = p.child) :
    ({ e with children := e.children.set index p' } : Ensemble).Underway s part t := by
  have unchanged : ({ e with children := e.children.set index p' } : Ensemble).pids = e.pids := by
    have hpid : (e.children.map (·.pid))[index]? = some p.pid := by simp [hp]
    obtain ⟨_, hpid⟩ := List.getElem?_eq_some_iff.1 hpid
    rw [pids, pids, List.map_set, same, ← hpid, List.set_getElem_self]
  -- the replaced member has the same number and the same orders as the old one
  have mem {q : Member} (hq : q ∈ e.children.set index p') :
      ∃ q' ∈ e.children, q'.pid = q.pid ∧ q'.child = q.child := by
    rcases List.mem_or_eq_of_mem_set hq with hq | rfl
    · exact ⟨q, hq, rfl, rfl⟩
    · exact ⟨p, List.mem_of_getElem? hp, same.symm, child.symm⟩
  refine ⟨h.begun, h.reached, h.distinct, h.fresh, ?_, ?_, ?_, ?_⟩
  · rw [unchanged]
    exact h.count
  · intro q hq
    obtain ⟨q', hq', hpid, hchild⟩ := mem hq
    rw [← hpid, ← hchild]
    exact h.known q' hq'
  · rw [unchanged]
    exact h.table
  · intro q hq
    obtain ⟨q', hq', hpid, hchild⟩ := mem hq
    rw [← hpid, ← hchild]
    exact h.tracked q' hq'

lemma after (h : e.Underway s part t) {x : Traffic} {rest : Shell State} (can : e.CanHappen x)
    (taken : e.rest.take? x = some rest) :
    ({ e with
        rest
        table := leftAfter e.table x
        children := membersAfter e.group e.children x } : Ensemble).Underway s part (t ++ [x]) where
  begun := h.begun
  reached := h.reached.concat taken
  distinct := h.distinct
  fresh := by
    refine throughout_append.2 ⟨h.fresh, fun made hmade => ?_, trivial⟩
    rw [← h.count]
    exact fun old => (can made hmade).1 (List.mem_toFinset.1 old)
  count := by
    rw [List.foldl_append, ← h.count]
    exact toFinset_membersAfter e.group e.children x
  known p hp := by
    rw [forks_append]
    rcases mem_membersAfter hp with ⟨child, pid, rfl, rfl⟩ | ⟨old, hold, -, rfl⟩ | ⟨hold, -⟩
    · exact .inr (List.mem_append_right _ List.mem_cons_self)
    · rw [Member.moved_eq]
      exact (h.known old hold).imp_right (List.mem_append_left _)
    · exact (h.known p hold).imp_right (List.mem_append_left _)
  table pid hpid := by
    obtain ⟨htable, stays⟩ := mem_of_mem_leftAfter hpid
    have hlive := stays _ (List.mem_toFinset.2 (h.table pid htable))
    rw [pids, ← toFinset_membersAfter e.group] at hlive
    exact List.mem_toFinset.1 hlive
  tracked p hp hpid := by
    obtain ⟨htable, -⟩ := mem_of_mem_leftAfter hpid
    rcases mem_membersAfter hp with ⟨child, pid, rfl, rfl⟩ | ⟨old, hold, -, rfl⟩ | ⟨hold, -⟩
    · exact absurd (h.table pid htable) (can (child, pid) rfl).1
    · rw [Member.moved_eq] at htable ⊢
      exact h.tracked old hold htable
    · exact h.tracked p hold htable

end Underway

/-! ## The invariant -/

/-- The invariant of an ensemble whose shell takes lines of so many arguments. -/
structure Orderly (maxArgs : Nat) (e : Ensemble) : Prop where
  /-- The shell does one operation after the other. -/
  underway : ∃ s part t, s.config.maxArgs = maxArgs ∧ e.Underway s part t
  /-- It moves children when it is time for that, and each child is where it should be. -/
  settles : ∃ unsettled, Settles maxArgs e.rest unsettled ∧
    ∀ p ∈ e.children, p.Placed e.group unsettled
  made : ∀ p ∈ e.children, MadeForLine maxArgs p.child

namespace Orderly

variable {maxArgs : Nat}

lemma start {s : State} (group : Pid) (noJobs : s.jobs = []) :
    (Ensemble.start s group).Orderly s.config.maxArgs where
  underway := by
    refine ⟨s, .done s, [], rfl, .inl rfl, .refl _, ?_, trivial, ?_, ?_, ?_, ?_⟩
    · rw [noJobs]
      exact List.nodup_nil
    · rw [noJobs]
      rfl
    all_goals exact fun _ h => absurd h List.not_mem_nil
  settles := ⟨none, settles_done s, fun _ h => absurd h List.not_mem_nil⟩
  made _ h := absurd h List.not_mem_nil

lemma begins (h : e.Orderly maxArgs) {s : State} (ended : e.rest = .done s)
    (operation : Operation) :
    ({ e with rest := operation.perform s, table := s.jobs } : Ensemble).Orderly maxArgs := by
  obtain ⟨s₀, part, t, settings, underway⟩ := h.underway
  obtain ⟨unsettled, settles, placed⟩ := h.settles
  obtain ⟨idle, config⟩ := underway.idle ended
  rw [← config] at settings
  rw [ended] at settles
  obtain rfl : unsettled = none := settles
  refine ⟨⟨s, _, [], settings, .begins idle operation⟩, ⟨none, ?_, placed⟩, h.made⟩
  rw [← settings]
  exact perform_settles s operation

/-- The shell makes a call. -/
theorem after_shell (h : e.Orderly maxArgs) {x : Traffic} {rest : Shell State}
    (can : e.CanHappen x) (taken : e.rest.take? x = some rest) :
    ({ e with
        rest
        table := leftAfter e.table x
        children := membersAfter e.group e.children x } : Ensemble).Orderly maxArgs := by
  obtain ⟨s, part, t, settings, underway⟩ := h.underway
  obtain ⟨unsettled, settles, placed⟩ := h.settles
  have ready := settles.allowed_of_pending? (pending?_of_take? taken)
  refine ⟨⟨s, part, _, settings, underway.after can taken⟩,
    ⟨_, settles.take? taken rfl, fun p hp => ?_⟩, fun p hp => ?_⟩
  -- `p` has just been forked, or has been moved, or is as it was
  · rcases mem_membersAfter hp with ⟨child, pid, rfl, rfl⟩ | ⟨old, hold, rfl, rfl⟩ | ⟨hold, other⟩
    · exact .forked (can (child, pid) rfl).2
    · obtain rfl : unsettled = some old.pid := ready
      exact (placed old hold).moved
    · refine (placed p hold).of_other ready (fun made hmade same => ?_) other
      refine (can made hmade).1 ?_
      rw [same]
      exact List.mem_map.2 ⟨p, hold, rfl⟩
  · rcases mem_membersAfter hp with ⟨child, pid, rfl, rfl⟩ | ⟨old, hold, -, rfl⟩ | ⟨hold, -⟩
    · exact ready.2
    · rw [Member.moved_eq]
      exact h.made old hold
    · exact h.made p hold

/-- Something happens to one child, which stays where it should be. -/
theorem after_child (h : e.Orderly maxArgs) {index : Nat} {p p' : Member}
    (hp : e.children[index]? = some p) (same : p'.pid = p.pid) (child : p'.child = p.child)
    (stays : ∀ unsettled, p.Placed e.group unsettled → p'.Placed e.group unsettled) :
    ({ e with children := e.children.set index p' } : Ensemble).Orderly maxArgs := by
  obtain ⟨s, part, t, settings, underway⟩ := h.underway
  obtain ⟨unsettled, settles, placed⟩ := h.settles
  have hmem := List.mem_of_getElem? hp
  refine ⟨⟨s, part, t, settings, underway.set hp same child⟩, ⟨unsettled, settles, ?_⟩, ?_⟩
  · intro q hq
    rcases List.mem_or_eq_of_mem_set hq with hq | rfl
    · exact placed q hq
    · exact stays unsettled (placed p hmem)
  · intro q hq
    rcases List.mem_or_eq_of_mem_set hq with hq | rfl
    · exact h.made q hq
    · rw [child]
      exact h.made p hmem

/-- Every turn keeps the ensemble orderly. -/
lemma after (h : e.Orderly maxArgs) {turn : Turn} (taken : e.after? turn = some e') :
    e'.Orderly maxArgs := by
  cases turn with
  | begin operation =>
    simp only [after?] at taken
    split at taken
    · rename_i s ended
      cases taken
      exact h.begins ended operation
    · cases taken
  | shell x =>
    simp only [after?] at taken
    split at taken
    · rename_i can
      obtain ⟨rest, hrest, rfl⟩ := Option.map_eq_some_iff.1 taken
      exact h.after_shell can hrest
    · cases taken
  | child index x =>
    obtain ⟨p, hp, taken⟩ := Option.bind_eq_some_iff.1 taken
    obtain ⟨p', done, rfl⟩ := Option.map_eq_some_iff.1 taken
    obtain ⟨same, child⟩ := Member.made_of_after? done
    exact h.after_child hp same child fun _ placed => placed.after done
  | kill index =>
    obtain ⟨p, hp, rfl⟩ := Option.map_eq_some_iff.1 taken
    exact h.after_child hp rfl rfl fun _ placed => placed.killed

/-- Every sequence of turns keeps the ensemble orderly. -/
lemma of_run (h : e.Orderly maxArgs) {turns : List Turn} (ran : e.run? turns = some e') :
    e'.Orderly maxArgs := by
  induction turns generalizing e with
  | nil =>
    cases ran
    exact h
  | cons turn turns ih =>
    obtain ⟨e₁, taken, ran⟩ := Option.bind_eq_some_iff.1 ran
    exact ih (h.after taken) ran

end Orderly

/-! ## Who is interrupted -/

/-- The children that a signal to the group of the shell reaches. -/
def reached (e : Ensemble) : List Member :=
  e.children.filter (·.group = e.group)

/-- Background jobs are out of reach of what is meant for the shell and its foreground job. -/
structure Shielded (maxArgs : Nat) (e : Ensemble) : Prop where
  /-- Each child has been made for a line, and leaves the group of the shell if that is a line for
  the background. -/
  made : ∀ p ∈ e.children, ∃ line plan workingDir, planLine line maxArgs = .ok (some plan) ∧
    plan.Makes workingDir p.child ∧ p.child.wiring.ownGroup = plan.background
  /-- The processes in the table are uncollected children of that kind. -/
  tracked : (∀ pid ∈ e.jobs, pid ∈ e.pids) ∧
    ∀ p ∈ e.children, p.pid ∈ e.jobs → p.child.wiring.ownGroup = true
  /-- Unless the shell is about to move one of them, all children of that kind are in groups of
  their own. -/
  apart : ¬ e.IsMidLaunch → ∀ p ∈ e.children, p.child.wiring.ownGroup = true → p.IsApart e.group
  /-- When one of them asks for its program it is in a group of its own, in any case. -/
  ready : ∀ p ∈ e.children, p.child.wiring.ownGroup = true → p.isAtProgram = true →
    p.IsApart e.group
  /-- All other children are in the group of the shell. -/
  together : ∀ p ∈ e.children, p.child.wiring.ownGroup = false → p.group = e.group
  /-- So a signal to the group of the shell does not reach any process in the table. -/
  unreached : ¬ e.IsMidLaunch → ∀ p ∈ e.reached, p.pid ∉ e.jobs

/-- Whatever the shell is about, the processes in the table are children for the background. -/
theorem Orderly.tracked {maxArgs : Nat} (h : e.Orderly maxArgs) :
    (∀ pid ∈ e.jobs, pid ∈ e.pids) ∧
      ∀ p ∈ e.children, p.pid ∈ e.jobs → p.child.wiring.ownGroup = true := by
  obtain ⟨s, part, t, -, underway⟩ := h.underway
  cases hrest : e.rest with
  | done s' =>
    have hjobs : e.jobs = s'.jobs := by rw [jobs, hrest]
    obtain ⟨idle, -⟩ := underway.idle hrest
    rw [hjobs]
    refine ⟨fun pid hpid => ?_, fun p hp _ => idle.known p hp⟩
    exact List.mem_toFinset.1 (idle.count ▸ List.mem_toFinset.2 hpid)
  | ask r again next =>
    have hjobs : e.jobs = e.table := by rw [jobs, hrest]
    rw [hjobs]
    exact ⟨underway.table, underway.tracked⟩

/-- A shell that is still to move a child is about to do so. -/
lemma isMidLaunch_of_settles {maxArgs : Nat} {pid : Pid}
    (h : Settles maxArgs e.rest (some pid)) : e.IsMidLaunch := by
  cases hrest : e.rest with
  | done s =>
    rw [hrest] at h
    cases (show some pid = none from h)
  | ask r again next =>
    have hpending : e.rest.pending? = some r := by rw [hrest, pending?]
    have ready := h.allowed_of_pending? hpending
    cases r with
    | ownGroup other => exact ⟨other, hpending⟩
    | fork child => cases ready.1
    | _ => cases (show some pid = none from ready)

/-- In an orderly ensemble every child is in the group where it should be. -/
lemma Orderly.shielded {maxArgs : Nat} (h : e.Orderly maxArgs) : e.Shielded maxArgs := by
  obtain ⟨unsettled, settles, placed⟩ := h.settles
  have apart (settled : ¬ e.IsMidLaunch) (p : Member) (hp : p ∈ e.children)
      (own : p.child.wiring.ownGroup = true) : p.IsApart e.group := by
    have arrived : p.group = p.pid := by
      refine ((placed p hp).settled own).resolve_right fun asked => settled ?_
      rw [asked] at settles
      exact isMidLaunch_of_settles settles
    exact ⟨arrived, arrived ▸ (placed p hp).distinct⟩
  refine ⟨fun p hp => ?_, h.tracked, apart, fun p hp => (placed p hp).isApart_of_isAtProgram,
    fun p hp => (placed p hp).together, fun settled p hp tracked => ?_⟩
  · obtain ⟨line, plan, workingDir, planned, made⟩ := h.made p hp
    exact ⟨line, plan, workingDir, planned, made, made.ownGroup_eq⟩
  · obtain ⟨hp, same⟩ := List.mem_filter.1 hp
    exact (apart settled p hp (h.tracked.2 p hp tracked)).2 (by simpa using same)

/-- **Background jobs are shielded from interrupts.** Whatever a shell is asked to do, and whichever
of its calls, calls of its children and ends of children come one after the other: unless the shell
is about to move a child that it has just made, every child of a background job, and so every
process in the table, is in a process group of its own that a signal to the group of the shell does
not reach. A child of a background job is there before it asks for its program, and every other
child is in the group of the shell. -/
theorem background_shielded {config : Config} {workingDir : String} {onTerminal : Bool}
    {group : Pid} {turns : List Turn} {e : Ensemble}
    (ran : (Ensemble.start (.start config workingDir onTerminal) group).run? turns = some e) :
    e.Shielded config.maxArgs :=
  ((Orderly.start group rfl).of_run ran).shielded

/-- A child that naps. -/
def napper (pid : Pid) (rest : Dialogue Syscalls Started) (running : Bool) : Member :=
  { pid, child := napping.onlyChild "/", group := pid, rest, running }

/-- `sleep 9 &` is started, and its child has turned into the program by the time the shell moves
it. -/
def quickNap : List Turn :=
  [.shell ⟨.flush .output, .ok ()⟩,
    .shell ⟨.fork (napping.onlyChild "/"), .ok 20⟩,
    .child 0 ⟨.defaultSignals, ()⟩,
    .child 0 ⟨.ownGroup, ()⟩,
    .child 0 ⟨.enter "/", .ok ()⟩,
    .child 0 ⟨.exec "sleep" ["sleep", "9"], none⟩,
    .shell ⟨.ownGroup 20, ()⟩,
    .shell ⟨.write .output (startNotice ⟨[20], true⟩), .ok ()⟩]

/-- What a shell comes to by that. -/
def onceNapped : Ensemble :=
  { group := 10
    rest := .done { State.start {} "/" false with jobs := [20] }
    children := [napper 20 (.done .running) true] }

/-- `sleep 9 &` is started, and its child has not yet done anything when the shell moves it. -/
def slowNap : List Turn :=
  [.shell ⟨.flush .output, .ok ()⟩,
    .shell ⟨.fork (napping.onlyChild "/"), .ok 21⟩,
    .shell ⟨.ownGroup 21, ()⟩,
    .shell ⟨.write .output (startNotice ⟨[21], true⟩), .ok ()⟩]

/-- What a shell comes to by one after the other. -/
def twiceNapped : Ensemble :=
  { group := 10
    rest := .done { State.start {} "/" false with jobs := [20, 21] }
    table := [20]
    children :=
      [napper 20 (.done .running) true, napper 21 (napping.onlyChild "/").setup false] }

/-- `ls | cat` is started while one nap goes on and the other is still being set up. -/
def busyListing : List Turn :=
  [.shell ⟨.flush .output, .ok ()⟩,
    .shell ⟨.makePipe, .ok (3, 4)⟩,
    .shell ⟨.fork (copiedListing.readingChild { program := "cat" } "/" 3 4), .ok 22⟩,
    .child 1 ⟨.defaultSignals, ()⟩,
    .child 2 ⟨.defaultSignals, ()⟩,
    .shell ⟨.fork (copiedListing.writingChild "/" 3 4), .ok 23⟩,
    .child 1 ⟨.ownGroup, ()⟩,
    .shell ⟨.close 3, .ok ()⟩]

theorem background_shielded_sharedTerminal :
    ∃ e, (Ensemble.start (.start {} "/" false) 10).run?
        ((.begin (.execute "sleep 9 &") :: quickNap) ++
          ((.begin (.execute "sleep 9 &") :: slowNap) ++
            (.begin (.execute "ls | cat") :: busyListing))) = some e ∧
      e.jobs = [20, 21] ∧ ¬ e.IsMidLaunch ∧
      e.children.map (fun p => (p.pid, p.group)) = [(20, 20), (21, 21), (22, 10), (23, 10)] ∧
      e.reached.map (·.pid) = [22, 23] ∧ e.Shielded 64 := by
  have nap : planLine "sleep 9 &" 64 = .ok (some napping) := by cbv
  have copy : planLine "ls | cat" 64 = .ok (some copiedListing) := by cbv
  have once : (Ensemble.start (.start {} "/" false) 10).run?
      (.begin (.execute "sleep 9 &") :: quickNap) = some onceNapped :=
    (run?_begin_execute rfl nap _).trans rfl
  have twice : onceNapped.run? (.begin (.execute "sleep 9 &") :: slowNap) = some twiceNapped :=
    (run?_begin_execute rfl nap _).trans rfl
  have possible : (Ensemble.run? { twiceNapped with
      rest := { State.start {} "/" false with jobs := [20, 21] }.performPlan copiedListing
      table := [20, 21] } busyListing).isSome = true := rfl
  have listing : twiceNapped.run? (.begin (.execute "ls | cat") :: busyListing) = _ :=
    (run?_begin_execute rfl copy _).trans (Option.some_get possible).symm
  have ran := (run?_append once _).trans ((run?_append twice _).trans listing)
  refine ⟨_, ran, rfl, ?_, rfl, rfl, background_shielded ran⟩
  rintro ⟨pid, asked⟩
  cases asked

end Ensemble

end CommandShell
