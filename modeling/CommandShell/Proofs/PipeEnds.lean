import CommandShell.Proofs.Scene

/-!
# Who holds the ends of a pipe

When a pipeline has been started and both children have come to their programs, each end of the pipe
is held by the one child that needs it and by nobody else (`pipe_ends_confined`). A copy too many
would keep the right side from ever reading the end of its input.

The invariant `Scene.Orderly` has a part for everyone who takes turns. For the shell it says what is
true when a call of `launch` is made, and when `launch` is over (`launch_secures`). For a child it
says what becomes of the two ends on the way to the program (`PipeEnds.Wires`). The other processes
have neither end, since nobody gives them one. Every move preserves the invariant
(`Scene.Orderly.after`), and `Scene.Orderly.pipeConfined` reads off who holds the ends.
-/

namespace CommandShell

open Dialogue

/-! ## The shell -/

/-- What a shell that starts a plan knows: its descriptors, the pipes that it has made, and the
children that it has made. -/
structure ShellView where
  table : Descriptors
  pipes : List PipeEnds := []
  children : List (Child × Pid) := []

/-- What the shell sees of a scene. -/
def Scene.view (s : Scene) : ShellView :=
  ⟨s.shell, s.pipes, s.children.map ChildProcess.made⟩

namespace ShellView

/-- What the shell sees after a call. -/
def after (v : ShellView) (file : Nat) (x : Traffic) : ShellView where
  table := tableAfter (openedSlot file x) v.table x
  pipes := v.pipes ++ openedPipe file x
  children := v.children ++ x.fork?.toList

/-- A call of the shell leads from one view to another. Files that are opened are new to it. -/
def Next (v : ShellView) (x : Traffic) (v' : ShellView) : Prop :=
  ∃ file, v.table.Below file ∧ OpensFresh v.table x ∧ v' = v.after file x

variable {v v' : ShellView}

/-- A call that makes no pipe and no child and leaves the table alone changes nothing. -/
lemma Next.eq_self {x : Traffic} (done : Next v x v') (hpipe : x.pipe? = none)
    (hfork : x.fork? = none) (htable : ∀ behind, tableAfter behind v.table x = v.table) :
    v' = v := by
  obtain ⟨file, -, -, rfl⟩ := done
  simp [after, openedPipe, hpipe, hfork, htable]

lemma Next.of_close {fd : Fd} {answer : Except Errno Unit}
    (done : Next v ⟨.close fd, answer⟩ v') : v' = { v with table := v.table.put fd none } := by
  obtain ⟨file, -, -, rfl⟩ := done
  simp [after, openedPipe, Traffic.pipe?, Traffic.fork?, tableAfter]

lemma Next.of_fork {child : Child} {pid : Pid} (done : Next v ⟨.fork child, .ok pid⟩ v') :
    v' = { v with children := v.children ++ [(child, pid)] } := by
  obtain ⟨file, -, -, rfl⟩ := done
  simp [after, openedPipe, Traffic.pipe?, Traffic.fork?, tableAfter]

end ShellView

/-- Where a child of a pipeline takes the end that it is made for. -/
def Child.pipeGoal (c : Child) : Place :=
  c.journey ((c.wiring.input.or c.wiring.output).map fun fd => (fd, true))

namespace PipeEnds

/-- A number that is neither of the ends. -/
def Other (ends : PipeEnds) (file : Nat) : Prop :=
  file ≠ ends.reading ∧ file ≠ ends.writing

/-- No descriptor refers to one of the ends. -/
def AbsentFrom (ends : PipeEnds) (table : Descriptors) : Prop :=
  table.StandsAt ends.reading none ∧ table.StandsAt ends.writing none

/-- The end that a child of a pipeline is made for. -/
def usedBy (ends : PipeEnds) (c : Child) : Nat :=
  if c.wiring.input.isSome then ends.reading else ends.writing

/-- The end that a child of a pipeline has no use for. -/
def unusedBy (ends : PipeEnds) (c : Child) : Nat :=
  if c.wiring.input.isSome then ends.writing else ends.reading

/-- A child deals with the ends as it should: it brings the one to where it belongs, and drops the
other. -/
structure Wires (ends : PipeEnds) (c : Child) (rest : Dialogue Syscalls Started) (s : Setup) :
    Prop where
  used : Brings ends.Other (ends.usedBy c) c.pipeGoal rest s
  unused : Drops ends.Other (ends.unusedBy c) c rest s

end PipeEnds

/-- What is true when the shell makes a call in order to start a pipeline. -/
def LaunchReady (plan : Plan) (right : Segment) (workingDir : String) (v : ShellView) :
    ShellCall → Prop
  | .makePipe => v.pipes = [] ∧ v.children = []
  | .fork child => ∀ ends ∈ v.pipes, ends.Wires child child.setup ⟨v.table, []⟩
  | .wait pid _ => ∃ ends read write, v.pipes = [ends] ∧ ends.AbsentFrom v.table ∧
      v.children = [(plan.readingChild right workingDir read write, pid)]
  | _ => True

/-- What is true when a pipeline has been started. -/
def LaunchOver (plan : Plan) (right : Segment) (workingDir : String) (v : ShellView) :
    Except LaunchError Job → Prop
  | .ok job => ∃ ends read write leftPid rightPid,
      v.pipes = [ends] ∧ ends.AbsentFrom v.table ∧ read ≠ write ∧
        v.children = [(plan.readingChild right workingDir read write, rightPid),
          (plan.writingChild workingDir read write, leftPid)] ∧
        job.pids = [leftPid, rightPid]
  | .error _ => True

section Launch

variable {plan : Plan} {right : Segment} {workingDir : String} {v v' : ShellView} {ends : PipeEnds}
  {read write : Fd} {allowed : ShellView → ShellCall → Prop}

/-- A shell that has just made a pipe. -/
structure HasPipe (ends : PipeEnds) (read write : Fd) (v : ShellView) : Prop where
  pipes : v.pipes = [ends]
  distinct : read ≠ write
  reading : v.table.StandsAt ends.reading (some (read, true))
  writing : v.table.StandsAt ends.writing (some (write, true))

lemma HasPipe.wires_readingChild (h : HasPipe ends read write v) :
    LaunchReady plan right workingDir v
      (.fork (plan.readingChild right workingDir read write)) := by
  intro ends' hends
  rw [h.pipes, List.mem_singleton] at hends
  subst hends
  constructor
  · exact Child.setup_brings (fun n other => other.1) _ h.reading
  · exact Child.setup_drops (fun n other => other.2) _ rfl h.writing

lemma HasPipe.wires_writingChild (h : HasPipe ends read write v) :
    LaunchReady plan right workingDir v (.fork (plan.writingChild workingDir read write)) := by
  intro ends' hends
  rw [h.pipes, List.mem_singleton] at hends
  subst hends
  constructor
  · exact Child.setup_brings (fun n other => other.2) _ h.writing
  · exact Child.setup_drops (fun n other => other.1) _ rfl h.reading

lemma spawn_secures {child : Child} {post : ShellView → Except LaunchError Pid → Prop}
    (ready : allowed v (.fork child)) (group : ∀ v pid, allowed v (.ownGroup pid))
    (failed : ∀ errno, post v (.error (.failed .fork errno)))
    (made : ∀ pid, post { v with children := v.children ++ [(child, pid)] } (.ok pid)) :
    (spawn child).Secures ShellView.Next allowed post v := by
  refine secures_call_bind ready fun answer v' done => ?_
  cases answer with
  | error errno =>
    obtain rfl := done.eq_self rfl rfl fun _ => rfl
    exact failed errno
  | ok pid =>
    obtain rfl := done.of_fork
    dsimp only
    split
    · refine secures_call_bind (group _ pid) fun answer v' done => ?_
      obtain rfl := done.eq_self rfl rfl fun _ => rfl
      exact made pid
    · exact made pid

lemma closePipe_secures {post : ShellView → Unit → Prop} (close : ∀ v fd, allowed v (.close fd))
    (closed : post { v with table := (v.table.put read none).put write none } ()) :
    (closePipe read write).Secures ShellView.Next allowed post v := by
  refine secures_call_bind (close v read) fun first v' done => ?_
  obtain rfl := done.of_close
  refine secures_call_bind (close _ write) fun second v' done => ?_
  obtain rfl := done.of_close
  exact closed

/-- Waiting for a child changes nothing that the shell sees of the scene. -/
theorem wait_secures {pid : Pid} {background : Bool}
    {post : ShellView → Except WaitError JobStatus → Prop} (ready : allowed v (.wait pid true))
    (waited : ∀ result, post v result) :
    (Job.wait ⟨[pid], background⟩).Secures ShellView.Next allowed post v := by
  refine Secures.bind ?_
  rw [Job.waitFor_eq]
  refine ⟨(· = v), rfl, ?_⟩
  rintro v rfl
  refine ⟨ready, fun answer v' done => ?_⟩
  obtain rfl := done.eq_self rfl rfl fun _ => rfl
  exact ⟨fun _ => rfl, fun _ => waited _⟩

/-- Once the shell has closed both descriptors of the pipe it has neither end any more. -/
lemma HasPipe.absentFrom_closed (h : HasPipe ends read write v) :
    ends.AbsentFrom ((v.table.put read none).put write none) := by
  have closed (fd : Fd) (hfd : fd = read ∨ fd = write) :
      ((Place.closed (some (fd, true)) read).closed write) = none := by
    rcases hfd with rfl | rfl <;> simp [Place.closed]
  constructor
  · exact closed read (.inl rfl) ▸ (h.reading.put read (by simp)).put write (by simp)
  · exact closed write (.inr rfl) ▸ (h.writing.put read (by simp)).put write (by simp)

lemma launchSides_secures (h : HasPipe ends read write v) (alone : v.children = []) :
    (launchSides plan.left right workingDir plan.background read write).Secures ShellView.Next
      (LaunchReady plan right workingDir) (LaunchOver plan right workingDir) v := by
  obtain ⟨table, _, children⟩ := v
  obtain rfl : children = [] := alone
  refine Secures.bind (spawn_secures h.wires_readingChild (fun _ _ => trivial) ?_ ?_)
  · intro errno
    exact Secures.bind (closePipe_secures (fun _ _ => trivial) trivial)
  intro rightPid
  have h' : HasPipe ends read write
      ⟨table, _, [(plan.readingChild right workingDir read write, rightPid)]⟩ :=
    ⟨h.pipes, h.distinct, h.reading, h.writing⟩
  refine Secures.bind (spawn_secures h'.wires_writingChild (fun _ _ => trivial) ?_ ?_)
  · intro errno
    refine Secures.bind (closePipe_secures (fun _ _ => trivial) ?_)
    refine Secures.bind (wait_secures ?_ fun _ => trivial)
    exact ⟨ends, read, write, h.pipes, h.absentFrom_closed, rfl⟩
  · intro leftPid
    refine Secures.bind (closePipe_secures (fun _ _ => trivial) ?_)
    exact ⟨ends, read, write, leftPid, rightPid, h.pipes, h.absentFrom_closed, h.distinct,
      rfl, rfl⟩

/-- With a call for a pipe the shell has both ends of it. -/
theorem HasPipe.of_makePipe (first : v.pipes = [])
    (done : ShellView.Next v ⟨.makePipe, .ok (read, write)⟩ v') :
    ∃ ends, HasPipe ends read write v' ∧ v'.children = v.children := by
  obtain ⟨file, below, fresh, rfl⟩ := done
  obtain ⟨distinct, hread, hwrite⟩ := fresh (read, write) rfl
  have hreading : v.table.StandsAt file none := below.stands_none (Nat.le_refl file)
  have hwriting : v.table.StandsAt (file + 1) none := below.stands_none (Nat.le_add_right file 1)
  have htable : (v.after file ⟨.makePipe, .ok (read, write)⟩).table =
      (v.table.put read (some ⟨file, true⟩)).put write (some ⟨file + 1, true⟩) := by
    simp [ShellView.after, tableAfter, openedSlot, Traffic.pipe?, distinct.symm]
  have hwrite' : (v.table.put read (some ⟨file, true⟩)).get? write = none := by
    rw [Descriptors.get?_put, if_neg distinct, hwrite]
  refine ⟨⟨file, file + 1⟩, ⟨?_, distinct, ?_, ?_⟩, ?_⟩
  · simp [ShellView.after, openedPipe, first, Traffic.pipe?]
  · rw [htable]
    exact (hreading.put_self read true).opened hwrite' (by simp)
  · rw [htable]
    exact (hwriting.opened hread (by simp)).put_self write true
  · simp [ShellView.after, Traffic.fork?]

/-- Starting a pipeline, the shell makes each call when it is time for it: a pipe before the first
child, a child while it has both ends, and a wait when it has neither. It is done when it has
neither and both children have been made. -/
theorem launch_secures (piped : plan.right = some right) (first : v.pipes = [])
    (alone : v.children = []) :
    (launch plan workingDir).Secures ShellView.Next (LaunchReady plan right workingDir)
      (LaunchOver plan right workingDir) v := by
  unfold launch
  split
  · exact trivial
  · rw [piped]
    refine secures_call_bind ⟨first, alone⟩ fun answer v' done => ?_
    cases answer with
    | error errno => exact trivial
    | ok opened =>
      obtain ⟨ends, h, hchildren⟩ := HasPipe.of_makePipe first done
      exact launchSides_secures h (hchildren.trans alone)

end Launch

/-! ## The scene -/

namespace ChildProcess

variable {p p' : ChildProcess} {ends : PipeEnds}

/-- A child deals with the ends as it should, whatever it does next. -/
lemma wires_after {file : Nat} {x : Exchange Syscalls}
    (h : ends.Wires p.child p.rest p.toSetup) (other : ends.Other file)
    (done : p.after? file x = some p') :
    ends.Wires p'.child p'.rest p'.toSetup := by
  obtain ⟨rest, setup, hrest, hsetup, rfl⟩ := after?_eq_some_iff.1 done
  constructor
  · exact Secures.take? h.used hrest ⟨file, other, hsetup⟩
  · exact Secures.take? h.unused hrest ⟨file, other, hsetup⟩

lemma wires_killed (p : ChildProcess) :
    ends.Wires p.killed.child p.killed.rest p.killed.toSetup := by
  constructor
  · exact fun running => nomatch running
  · intro fd closeOnExec
    simp [killed, Descriptors.get?]

/-- When a child has come to its program and lives, the end that it is made for stands at its goal,
and it does not have the other one. -/
lemma stands_of_isAtProgram (h : ends.Wires p.child p.rest p.toSetup)
    (kept : p.child.pipeGoal.kept = p.child.pipeGoal)
    (arrived : p.isAtProgram = true) (lives : p.hasEnded = false) :
    p.table.StandsAt (ends.usedBy p.child) p.child.pipeGoal ∧
      p.table.StandsAt (ends.unusedBy p.child) none := by
  obtain ⟨used, unused⟩ := h
  cases hrest : p.rest with
  | done result =>
    rw [hrest] at used unused
    cases result with
    | running => exact ⟨kept ▸ used rfl, unused⟩
    | ended code => simp [hasEnded, hrest] at lives
  | ask r again next =>
    have pending : p.rest.pending? = some r := by rw [hrest]; rfl
    have tries : p.toSetup.Tries r := by
      simp only [isAtProgram, pending, Bool.or_eq_true, List.any_eq_true] at arrived
      rcases arrived with hr | ⟨c, hc, hexec⟩
      · exact ⟨r, List.mem_cons_self, hr⟩
      · exact ⟨c, List.mem_cons_of_mem r hc, hexec⟩
    exact ⟨used.allowed_of_pending? pending tries, (unused.allowed_of_pending? pending).2 tries⟩

/-- An end that a child has no use for is held only until the child has closed it. -/
lemma heldUntilClosed (h : ends.Wires p.child p.rest p.toSetup) :
    HeldUntilClosed (ends.unusedBy p.child) p.child p.toSetup := by
  obtain ⟨-, unused⟩ := h
  cases hrest : p.rest with
  | done result =>
    rw [hrest] at unused
    exact .of_stands_none unused
  | ask r again next =>
    have pending : p.rest.pending? = some r := by rw [hrest]; rfl
    exact (unused.allowed_of_pending? pending).1

end ChildProcess

namespace Scene

/-- The invariant of a scene in which a pipeline is started. -/
structure Orderly (plan : Plan) (right : Segment) (workingDir : String) (s : Scene) : Prop where
  /-- The shell does what a launch does. -/
  launch : s.rest.Secures ShellView.Next (LaunchReady plan right workingDir)
    (LaunchOver plan right workingDir) s.view
  /-- The children deal with the pipe as they should. -/
  wired : ∀ p ∈ s.children, ∀ ends ∈ s.pipes, ends.Wires p.child p.rest p.toSetup
  /-- Nobody else has an end. -/
  apart : ∀ table ∈ s.others, ∀ ends ∈ s.pipes, ends.AbsentFrom table
  /-- Numbers that are given to open files next are new. -/
  numbered : ∀ table ∈ s.shell :: s.others, table.Below s.files
  pipes_numbered : ∀ ends ∈ s.pipes, ends.reading < s.files ∧ ends.writing < s.files

variable {plan : Plan} {right : Segment} {workingDir : String} {s s' : Scene}

namespace Orderly

lemma files_other (h : Orderly plan right workingDir s) {ends : PipeEnds}
    (hends : ends ∈ s.pipes) : ends.Other s.files := by
  obtain ⟨hreading, hwriting⟩ := h.pipes_numbered ends hends
  exact ⟨by omega, by omega⟩

/-- A call of the shell keeps the scene orderly: the children it makes get the pipe in the state in
which it is, and a pipe that it makes is known to nobody else. -/
theorem after_shell (h : Orderly plan right workingDir s) {x : Traffic}
    {rest : Shell (Except LaunchError Job)} (fresh : OpensFresh s.shell x)
    (hrest : s.rest.take? x = some rest) :
    Orderly plan right workingDir
      { s with
        rest
        shell := tableAfter (openedSlot s.files x) s.shell x
        children := s.children ++ x.fork?.toList.map fun made => .forked made.1 made.2 s.shell
        pipes := s.pipes ++ openedPipe s.files x
        files := s.files + 2 } := by
  have ready := h.launch.allowed_of_pending? (pending?_of_take? hrest)
  constructor
  · have made : (s.children ++ x.fork?.toList.map fun made =>
          ChildProcess.forked made.1 made.2 s.shell).map ChildProcess.made =
        s.children.map ChildProcess.made ++ x.fork?.toList := by
      rw [List.map_append, List.map_map]
      congr 1
      exact List.map_id _
    refine h.launch.take? hrest ⟨s.files, h.numbered _ List.mem_cons_self, fresh, ?_⟩
    rw [view, made]
    rfl
  -- a new child has been made for the one pipe there is, as `ready` says
  · intro p hp ends hends
    rcases List.mem_append.1 hends with old | new
    · rcases List.mem_append.1 hp with hp | hp
      · exact h.wired p hp ends old
      · obtain ⟨⟨child, pid⟩, hfork, rfl⟩ := List.mem_map.1 hp
        obtain rfl := Traffic.eq_of_fork? (Option.mem_toList.1 hfork)
        exact ready ends old
    -- the pipe is made before the first child
    · obtain ⟨fds, hpipe, rfl⟩ := List.mem_map.1 new
      obtain rfl := Traffic.eq_of_pipe? (Option.mem_toList.1 hpipe)
      obtain ⟨-, alone⟩ := ready
      simp [List.map_eq_nil_iff.1 alone, Traffic.fork?] at hp
  -- the numbers of a new pipe are beyond all that any table has
  · intro table htable ends hends
    rcases List.mem_append.1 hends with hends | hends
    · exact h.apart table htable ends hends
    · obtain ⟨fds, -, rfl⟩ := List.mem_map.1 hends
      have below := h.numbered table (List.mem_cons_of_mem _ htable)
      exact ⟨below.stands_none (Nat.le_refl _), below.stands_none (Nat.le_add_right _ 1)⟩
  · intro table htable
    rcases List.mem_cons.1 htable with rfl | htable
    · exact (h.numbered _ List.mem_cons_self).tableAfter x
    · exact (h.numbered table (List.mem_cons_of_mem _ htable)).mono (Nat.le_add_right _ 2)
  · intro ends hends
    show ends.reading < s.files + 2 ∧ ends.writing < s.files + 2
    rcases List.mem_append.1 hends with hends | hends
    · have := h.pipes_numbered ends hends
      omega
    · obtain ⟨fds, -, rfl⟩ := List.mem_map.1 hends
      simp

/-- What happens to one child keeps the scene orderly, if the child still deals with the pipe as it
should. -/
theorem after_child (h : Orderly plan right workingDir s) {index : Nat} {p p' : ChildProcess}
    (hp : s.children[index]? = some p) (same : p'.made = p.made)
    (wires : ∀ ends ∈ s.pipes, ends.Wires p'.child p'.rest p'.toSetup) :
    Orderly plan right workingDir
      { s with children := s.children.set index p', files := s.files + 2 } := by
  constructor
  · have unchanged : (s.children.set index p').map ChildProcess.made =
        s.children.map ChildProcess.made := by
      have hmade : (s.children.map ChildProcess.made)[index]? = some p.made := by simp [hp]
      obtain ⟨_, hmade⟩ := List.getElem?_eq_some_iff.1 hmade
      rw [List.map_set, same, ← hmade, List.set_getElem_self]
    rw [view, unchanged]
    exact h.launch
  · intro q hq ends hends
    rcases List.mem_or_eq_of_mem_set hq with hq | rfl
    · exact h.wired q hq ends hends
    · exact wires ends hends
  · exact h.apart
  · intro table htable
    exact (h.numbered table htable).mono (Nat.le_add_right _ 2)
  · intro ends hends
    exact (h.pipes_numbered ends hends).imp (Nat.lt_add_right 2) (Nat.lt_add_right 2)

lemma after_others (h : Orderly plan right workingDir s) {tables : List Descriptors}
    (can : ∀ table ∈ tables, s.canHave table = true) :
    Orderly plan right workingDir { s with others := tables, files := s.files + 2 } where
  launch := h.launch
  wired := h.wired
  apart := by
    intro table htable ends hends
    have absent (file : Nat) (old : file < s.files)
        (apart : ∀ other ∈ s.others, other.StandsAt file none) : table.StandsAt file none := by
      refine Descriptors.StandsAt.none_iff.2 fun fd refers => ?_
      rcases refersTo_of_canHave (can table htable) refers with
        rfl | rfl | ⟨other, hother, fd, refers⟩
      · omega
      · omega
      · exact Descriptors.StandsAt.none_iff.1 (apart other hother) fd refers
    obtain ⟨hreading, hwriting⟩ := h.pipes_numbered ends hends
    exact ⟨absent _ hreading fun other hother => (h.apart other hother ends hends).1,
      absent _ hwriting fun other hother => (h.apart other hother ends hends).2⟩
  numbered := by
    intro table htable
    rcases List.mem_cons.1 htable with rfl | htable
    · exact (h.numbered _ List.mem_cons_self).mono (Nat.le_add_right _ 2)
    · intro fd file refers
      show file < s.files + 2
      rcases refersTo_of_canHave (can table htable) refers with
        rfl | rfl | ⟨other, hother, fd, refers⟩
      · omega
      · omega
      · exact Nat.lt_add_right 2 (h.numbered other (List.mem_cons_of_mem _ hother) fd file refers)
  pipes_numbered := by
    intro ends hends
    exact (h.pipes_numbered ends hends).imp (Nat.lt_add_right 2) (Nat.lt_add_right 2)

/-- Every move keeps the scene orderly. -/
theorem after (h : Orderly plan right workingDir s) {move : Move}
    (moved : s.after? move = some s') : Orderly plan right workingDir s' := by
  cases move with
  | shell x =>
    simp only [after?] at moved
    split at moved
    · rename_i fresh
      obtain ⟨rest, hrest, rfl⟩ := Option.map_eq_some_iff.1 moved
      exact h.after_shell fresh hrest
    · cases moved
  | child index x =>
    obtain ⟨p, hp, moved⟩ := Option.bind_eq_some_iff.1 moved
    obtain ⟨p', done, rfl⟩ := Option.map_eq_some_iff.1 moved
    refine h.after_child hp (ChildProcess.made_of_after? done) fun ends hends => ?_
    have wires := h.wired p (List.mem_of_getElem? hp) ends hends
    exact ChildProcess.wires_after wires (h.files_other hends) done
  | kill index =>
    obtain ⟨p, hp, rfl⟩ := Option.map_eq_some_iff.1 moved
    exact h.after_child hp rfl fun ends _ => ChildProcess.wires_killed p
  | others tables =>
    simp only [after?] at moved
    split at moved
    · rename_i can
      cases moved
      exact h.after_others (List.all_eq_true.1 can)
    · cases moved

lemma of_run (h : Orderly plan right workingDir s) {moves : List Move}
    (ran : s.run? moves = some s') : Orderly plan right workingDir s' := by
  induction moves generalizing s with
  | nil =>
    cases ran
    exact h
  | cons move moves ih =>
    obtain ⟨s₁, moved, ran⟩ := Option.bind_eq_some_iff.1 ran
    exact ih (h.after moved) ran

end Orderly

lemma orderly_before (piped : plan.right = some right) {shell : Descriptors}
    {others : List Descriptors} {files : Nat}
    (numbered : ∀ table ∈ shell :: others, table.Below files) :
    Orderly plan right workingDir (before plan workingDir shell others files) where
  launch := launch_secures piped rfl rfl
  wired := by simp [before]
  apart := by simp [before]
  numbered := numbered
  pipes_numbered := by simp [before]

/-- Who has the ends of the pipe while a pipeline is started. -/
structure PipeConfined (plan : Plan) (right : Segment) (s : Scene) : Prop where
  /-- Once the plan has been started and both children have come to their programs, each end is held
  by the child that is made for it, behind the standard stream that it replaces, and by nobody else;
  and by nobody at all if that stream is redirected to a file. -/
  started : ∀ job, s.rest = .done (.ok job) → (∀ p ∈ s.children, p.isAtProgram = true) →
    ∃ ends reader writer, s.pipes = [ends] ∧ s.children = [reader, writer] ∧
      job.pids = [writer.pid, reader.pid] ∧
      reader.child.segment = right ∧ writer.child.segment = plan.left ∧
      (∀ who fd, s.Holds who fd ends.writing ↔
        who = .child 1 ∧ fd = Fd.stdout ∧ plan.left.output = none ∧ writer.hasEnded = false) ∧
      ∀ who fd, s.Holds who fd ends.reading ↔
        who = .child 0 ∧ fd = Fd.stdin ∧ right.input = none ∧ reader.hasEnded = false
  /-- When the shell waits before that, there is the reading child only, and the writing end is held
  by nobody but this child, which has not yet come to close it. -/
  waiting : ∀ pid block, s.rest.pending? = some (.wait pid block) →
    ∃ ends reader, s.pipes = [ends] ∧ s.children = [reader] ∧
      reader.pid = pid ∧ reader.child.segment = right ∧
      ∀ who fd, s.Holds who fd ends.writing →
        who = .child 0 ∧ reader.child.wiring.unused = some fd ∧ Syscall.close fd ∉ reader.past

/-- A child has the end that it is made for behind the stream that this end replaces, unless the
stream is redirected, and it has the other end not at all. -/
lemma refersTo_iff_of_goal {p : ChildProcess} {ends : PipeEnds} {α : Type}
    {redirection : Option α} {stream : Fd} (h : ends.Wires p.child p.rest p.toSetup)
    (goal : p.child.pipeGoal = if redirection.isSome then none else some (stream, false))
    (arrived : p.isAtProgram = true) (lives : p.hasEnded = false) (fd : Fd) :
    (p.table.RefersTo fd (ends.usedBy p.child) ↔ fd = stream ∧ redirection = none) ∧
      ¬ p.table.RefersTo fd (ends.unusedBy p.child) := by
  have kept : p.child.pipeGoal.kept = p.child.pipeGoal := by
    rw [goal]
    split <;> rfl
  obtain ⟨used, unused⟩ := ChildProcess.stands_of_isAtProgram h kept arrived lives
  refine ⟨?_, Descriptors.StandsAt.none_iff.1 unused fd⟩
  rw [used.refersTo_iff, goal]
  cases redirection <;> simp [eq_comm]

lemma refersTo_iff_of_readingChild {p : ChildProcess} {ends : PipeEnds} {read write : Fd}
    (distinct : read ≠ write) (h : ends.Wires p.child p.rest p.toSetup)
    (hchild : p.child = plan.readingChild right workingDir read write)
    (arrived : p.isAtProgram = true) (lives : p.hasEnded = false) (fd : Fd) :
    (p.table.RefersTo fd ends.reading ↔ fd = Fd.stdin ∧ right.input = none) ∧
      ¬ p.table.RefersTo fd ends.writing := by
  have goal : p.child.pipeGoal =
      if right.input.isSome then none else some (Fd.stdin, false) := by
    rw [hchild]
    cases hinput : right.input <;> cases houtput : right.output <;>
      simp [Child.pipeGoal, Plan.readingChild, Child.journey, Place.closed, Place.moved, Fd.stdin,
        Fd.stdout, hinput, houtput, distinct]
  have result := refersTo_iff_of_goal h goal arrived lives fd
  simpa [PipeEnds.usedBy, PipeEnds.unusedBy, hchild, Plan.readingChild] using result

lemma refersTo_iff_of_writingChild {p : ChildProcess} {ends : PipeEnds} {read write : Fd}
    (distinct : read ≠ write) (h : ends.Wires p.child p.rest p.toSetup)
    (hchild : p.child = plan.writingChild workingDir read write)
    (arrived : p.isAtProgram = true) (lives : p.hasEnded = false) (fd : Fd) :
    (p.table.RefersTo fd ends.writing ↔ fd = Fd.stdout ∧ plan.left.output = none) ∧
      ¬ p.table.RefersTo fd ends.reading := by
  have goal : p.child.pipeGoal =
      if plan.left.output.isSome then none else some (Fd.stdout, false) := by
    rw [hchild]
    cases hinput : plan.left.input <;> cases houtput : plan.left.output <;>
      simp [Child.pipeGoal, Plan.writingChild, Child.journey, Place.closed, Place.moved, Fd.stdin,
        Fd.stdout, hinput, houtput, distinct.symm]
  have result := refersTo_iff_of_goal h goal arrived lives fd
  simpa [PipeEnds.usedBy, PipeEnds.unusedBy, hchild, Plan.writingChild] using result

/-- In an orderly scene the ends are where they should be. -/
theorem Orderly.pipeConfined (h : Orderly plan right workingDir s) : s.PipeConfined plan right where
  started := by
    intro job hrest arrived
    have done := h.launch
    rw [hrest] at done
    obtain ⟨ends, read, write, leftPid, rightPid, (hpipes : s.pipes = [ends]), absent, distinct,
      hchildren, hpids⟩ := done
    -- `launch` says that there are two children, the reader first
    obtain ⟨reader, _, hpair, hreader, hmore⟩ := List.map_eq_cons_iff.1 hchildren
    obtain ⟨writer, _, rfl, hwriter, hnil⟩ := List.map_eq_cons_iff.1 hmore
    obtain rfl := List.map_eq_nil_iff.1 hnil
    obtain ⟨hreaderChild, rfl⟩ := Prod.mk.inj hreader
    obtain ⟨hwriterChild, rfl⟩ := Prod.mk.inj hwriter
    have hends : ends ∈ s.pipes := hpipes ▸ List.mem_cons_self
    have hreader : reader ∈ s.children := hpair ▸ List.mem_cons_self
    have hwriter : writer ∈ s.children := hpair ▸ List.mem_cons_of_mem _ List.mem_cons_self
    have reads := refersTo_iff_of_readingChild distinct (h.wired reader hreader ends hends)
      hreaderChild (arrived reader hreader)
    have writes := refersTo_iff_of_writingChild distinct (h.wired writer hwriter ends hends)
      hwriterChild (arrived writer hwriter)
    have others := fun table htable => h.apart table htable ends hends
    refine ⟨ends, reader, writer, hpipes, hpair, hpids, by rw [hreaderChild]; rfl,
      by rw [hwriterChild]; rfl, fun who fd => ?_, fun who fd => ?_⟩
    -- only the writer can hold the writing end, and only the reader the reading end
    · rw [holds_iff_of_pair hpair absent.2 fun table htable => (others table htable).2]
      constructor
      · rintro (⟨rfl, lives, refers⟩ | ⟨rfl, lives, refers⟩)
        · exact absurd refers (reads lives fd).2
        · obtain ⟨hfd, hout⟩ := (writes lives fd).1.1 refers
          exact ⟨rfl, hfd, hout, lives⟩
      · rintro ⟨rfl, hfd, hout, lives⟩
        exact .inr ⟨rfl, lives, (writes lives fd).1.2 ⟨hfd, hout⟩⟩
    · rw [holds_iff_of_pair hpair absent.1 fun table htable => (others table htable).1]
      constructor
      · rintro (⟨rfl, lives, refers⟩ | ⟨rfl, lives, refers⟩)
        · obtain ⟨hfd, hin⟩ := (reads lives fd).1.1 refers
          exact ⟨rfl, hfd, hin, lives⟩
        · exact absurd refers (writes lives fd).2
      · rintro ⟨rfl, hfd, hin, lives⟩
        exact .inl ⟨rfl, lives, (reads lives fd).1.2 ⟨hfd, hin⟩⟩
  waiting := by
    intro pid block pending
    -- a launch waits only for the reader, after the fork of the writer has failed
    obtain ⟨ends, read, write, (hpipes : s.pipes = [ends]), absent, hchildren⟩ :=
      h.launch.allowed_of_pending? pending
    obtain ⟨reader, _, halone, hreader, hnil⟩ := List.map_eq_cons_iff.1 hchildren
    obtain rfl := List.map_eq_nil_iff.1 hnil
    obtain ⟨hchild, rfl⟩ := Prod.mk.inj hreader
    have hends : ends ∈ s.pipes := hpipes ▸ List.mem_cons_self
    have hreader : reader ∈ s.children := halone ▸ List.mem_cons_self
    refine ⟨ends, reader, hpipes, halone, rfl, by rw [hchild]; rfl, fun who fd holds => ?_⟩
    obtain ⟨index, p, rfl, hp, -, refers⟩ :=
      (holds_iff absent.2 fun table htable => (h.apart table htable ends hends).2).1 holds
    rw [halone] at hp
    match index, hp with
    | 0, hp =>
      cases hp
      refine ⟨rfl, ChildProcess.heldUntilClosed (h.wired reader hreader ends hends) fd ?_⟩
      rw [hchild]
      exact refers

end Scene

/-- **The ends of a pipe reach only the processes that need them.** Whatever the shell, the children
of a pipeline and all other processes do, in whatever order, and whatever the system answers: when
the pipeline has been started and both children have come to their programs, the writing end is held
by the left side as its standard output and the reading end by the right side as its standard input,
unless these are redirected, and by nobody else. If the left side cannot be made, then from the
moment at which the shell waits for the right side nobody else holds the writing end, and the right
side does so only until it has closed it. -/
theorem pipe_ends_confined {plan : Plan} {right : Segment} {workingDir : String}
    {shell : Descriptors} {others : List Descriptors} {files : Nat} {moves : List Move} {s : Scene}
    (piped : plan.right = some right)
    (numbered : ∀ table ∈ shell :: others, table.Below files)
    (ran : (Scene.before plan workingDir shell others files).run? moves = some s) :
    s.PipeConfined plan right :=
  ((Scene.orderly_before piped numbered).of_run ran).pipeConfined

/-- `ls | wc > count` -/
def countedIntoFile : Plan where
  left := { program := "ls" }
  right := some { program := "wc", output := some ⟨"count", .truncate⟩ }

/-- A shell whose standard input and output are closed, so that a pipe gets their numbers, beside a
process that it has started before. -/
def closedStreams : Scene :=
  .before countedIntoFile "/" ⟨[none, none, some ⟨0, false⟩]⟩ [⟨[some ⟨1, false⟩, none]⟩] 2

/-- The shell, both children and the other process take turns until the plan has been started, the
left side runs, and the right side is about to. -/
def turnsTaken : List Move :=
  let right : Segment := { program := "wc", output := some ⟨"count", .truncate⟩ }
  [.shell ⟨.makePipe, .ok (0, 1)⟩,
    .shell ⟨.fork (countedIntoFile.readingChild right "/" 0 1), .ok 7⟩,
    .child 0 ⟨.defaultSignals, ()⟩,
    .others [⟨[some ⟨1, false⟩, some ⟨8, true⟩]⟩, ⟨[some ⟨1, false⟩]⟩],
    .shell ⟨.fork (countedIntoFile.writingChild "/" 0 1), .ok 8⟩,
    .child 1 ⟨.defaultSignals, ()⟩,
    .child 0 ⟨.close 1, .ok ()⟩,
    .shell ⟨.close 0, .ok ()⟩,
    .child 0 ⟨.enter "/", .ok ()⟩,
    .child 1 ⟨.close 0, .ok ()⟩,
    .child 0 ⟨.keepOnExec 0, .ok ()⟩,
    .child 0 ⟨.openFile "count" (.write .truncate 0o644) true, .error .EINTR⟩,
    .child 1 ⟨.enter "/", .ok ()⟩,
    .child 0 ⟨.openFile "count" (.write .truncate 0o644) true, .ok 1⟩,
    .child 1 ⟨.keepOnExec 1, .ok ()⟩,
    .child 1 ⟨.exec "ls" ["ls"], none⟩,
    .shell ⟨.close 1, .error .EINTR⟩,
    .child 0 ⟨.keepOnExec 1, .ok ()⟩]

/-- The left side cannot be made, and the shell waits for the right side before that has done
anything. -/
def leftSideFails : List Move :=
  let right : Segment := { program := "wc", output := some ⟨"count", .truncate⟩ }
  [.shell ⟨.makePipe, .ok (0, 1)⟩,
    .shell ⟨.fork (countedIntoFile.readingChild right "/" 0 1), .ok 7⟩,
    .shell ⟨.fork (countedIntoFile.writingChild "/" 0 1), .error .EAGAIN⟩,
    .shell ⟨.close 0, .ok ()⟩,
    .shell ⟨.close 1, .ok ()⟩,
    .others [⟨[]⟩, ⟨[none, some ⟨1, false⟩]⟩]]

theorem pipe_ends_confined_closedStreams :
    ∃ right, countedIntoFile.right = some right ∧
      (∀ table ∈ closedStreams.shell :: closedStreams.others, table.Below 2) ∧
      (∃ s, closedStreams.run? turnsTaken = some s ∧ s.rest = .done (.ok ⟨[8, 7], false⟩) ∧
        (∀ p ∈ s.children, p.isAtProgram = true) ∧ s.PipeConfined countedIntoFile right) ∧
      ∃ s, closedStreams.run? leftSideFails = some s ∧
        s.rest.pending? = some (.wait 7 true) ∧ s.Holds (.child 0) 1 3 ∧
        s.PipeConfined countedIntoFile right := by
  have numbered : ∀ table ∈ closedStreams.shell :: closedStreams.others, table.Below 2 := by
    simp only [Descriptors.below_iff]
    decide
  have confined {moves : List Move} {s : Scene} (ran : closedStreams.run? moves = some s) :
      s.PipeConfined countedIntoFile { program := "wc", output := some ⟨"count", .truncate⟩ } :=
    pipe_ends_confined rfl numbered ran
  refine ⟨_, rfl, numbered, ?_, ?_⟩
  · have possible : (closedStreams.run? turnsTaken).isSome = true := rfl
    have ran := (Option.some_get possible).symm
    exact ⟨_, ran, rfl, List.all_eq_true.1 rfl, confined ran⟩
  · have possible : (closedStreams.run? leftSideFails).isSome = true := rfl
    have ran := (Option.some_get possible).symm
    have holds : ((closedStreams.run? leftSideFails).get possible).Holds (.child 0) 1 3 :=
      ⟨⟨[some ⟨2, true⟩, some ⟨3, true⟩, some ⟨0, false⟩]⟩, rfl, ⟨3, true⟩, rfl, rfl⟩
    exact ⟨_, ran, rfl, holds, confined ran⟩

end CommandShell
