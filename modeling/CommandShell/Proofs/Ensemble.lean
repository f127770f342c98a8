import CommandShell.Proofs.Children
import CommandShell.Proofs.Scene
import CommandShell.Proofs.Starting

/-!
# A shell among its children

A shell does one operation after the other while the children it has made set themselves up and run.
An `Ensemble` is a moment of this: what the shell has left to do, and the children that it has made
and not collected, each with what is left of its setup and with the process group it is in. Any of
them may take the next `Turn`, so a sequence of turns is an interleaving of the whole life of a
shell, with all that the system may answer (`Ensemble.run?`).

A group is changed by two calls. A child moves itself to a group of its own, and a shell moves a
child there, which has no effect any more once the child has turned into its program
(`Member.moved`). Both calls are made for the same children, and either can come first.
-/

namespace CommandShell

open Dialogue

/-! ## Children -/

/-- A call by which a process moves to a group of its own. -/
def Syscall.isMove : Syscall → Bool
  | .ownGroup => true
  | _ => false

/-- With this exchange a process turns into its program. -/
def startsProgram : Exchange Syscalls → Bool
  | ⟨.exec _ _, none⟩ => true
  | _ => false

/-- A child that a shell has made and not collected. -/
structure Member where
  pid : Pid
  child : Child
  /-- The process group that it is in. -/
  group : Pid
  /-- What is left of its setup. -/
  rest : Dialogue Syscalls Started
  /-- It has turned into its program. -/
  running : Bool := false

namespace Member

/-- A child as it has just been made by a shell in this group. -/
def forked (child : Child) (pid group : Pid) : Member :=
  { pid, child, group, rest := child.setup }

/-- A child after one more call of its own, if this is its call. -/
def after? (p : Member) (x : Exchange Syscalls) : Option Member :=
  (p.rest.take? x).map fun rest =>
    { p with
      rest
      group := if x.request.isMove then p.pid else p.group
      running := p.running || startsProgram x }

/-- A child that its shell moves to a group of its own. A program is not moved any more. -/
def moved (p : Member) : Member :=
  if p.running then p else { p with group := p.pid }

/-- A child that a signal has ended, or a program that has ended. -/
def killed (p : Member) : Member :=
  { p with rest := .done (.ended 0) }

/-- The child is about to ask for its program, or has turned into it. -/
def isAtProgram (p : Member) : Bool :=
  p.rest.pending?.any Syscall.isExec || p.running

/-- The child is in a process group of its own, and not in that of a shell in this group. -/
def IsApart (p : Member) (group : Pid) : Prop :=
  p.group = p.pid ∧ p.group ≠ group

end Member

/-- The children of a shell in this group after an exchange of the shell. A child that has been made
starts in the group of the shell, and one that has been collected is gone. -/
def membersAfter (group : Pid) (children : List Member) : Traffic → List Member
  | ⟨.fork child, .ok pid⟩ => children ++ [.forked child pid group]
  | ⟨.ownGroup pid, _⟩ => children.map fun p => if p.pid = pid then p.moved else p
  | ⟨.wait pid _, answer⟩ =>
    if Job.verdict? pid answer = none then children else children.filter (·.pid ≠ pid)
  | _ => children

/-- What is left of a table of processes after an exchange of the shell that may have collected one
of them. -/
def leftAfter (table : List Pid) : Traffic → List Pid
  | ⟨.wait pid _, answer⟩ =>
    if Job.verdict? pid answer = none then table else table.filter (· ≠ pid)
  | _ => table

/-! ## Turns -/

/-- A shell and the children that it has made and not collected. -/
structure Ensemble where
  /-- The process group of the shell. -/
  group : Pid
  /-- What is left of the operation that the shell is about, and the state it comes to. -/
  rest : Shell State
  /-- The table of background processes with which the operation began, without those that have been
  collected since. -/
  table : List Pid := []
  children : List Member := []

/-- What happens next: the shell begins an operation or makes a call, a child makes a call, or a
child ends. -/
inductive Turn
  | begin (operation : Operation)
  | shell (x : Traffic)
  | child (index : Nat) (x : Exchange Syscalls)
  | kill (index : Nat)

namespace Ensemble

/-- The numbers of the children. -/
def pids (e : Ensemble) : List Pid :=
  e.children.map (·.pid)

/-- The background processes in the table of the shell. -/
def jobs (e : Ensemble) : List Pid :=
  match e.rest with
  | .done s => s.jobs
  | .ask _ _ _ => e.table

/-- The shell has made a child and has not yet moved it to a group of its own, as it is going to do
next. -/
def IsMidLaunch (e : Ensemble) : Prop :=
  ∃ pid, e.rest.pending? = some (.ownGroup pid)

/-- A new child has a number that no uncollected child has, and not that of the group of the
shell. -/
def CanHappen (e : Ensemble) (x : Traffic) : Prop :=
  ∀ made ∈ x.fork?, made.2 ∉ e.pids ∧ made.2 ≠ e.group

instance (e : Ensemble) (x : Traffic) : Decidable (e.CanHappen x) :=
  inferInstanceAs (Decidable (∀ made ∈ x.fork?, _))

/-- The ensemble after a turn, if it is one that can be taken. -/
def after? (e : Ensemble) : Turn → Option Ensemble
  | .begin operation =>
    match e.rest with
    | .done s => some { e with rest := operation.perform s, table := s.jobs }
    | .ask _ _ _ => none
  | .shell x =>
    if e.CanHappen x then
      (e.rest.take? x).map fun rest =>
        { e with
          rest
          table := leftAfter e.table x
          children := membersAfter e.group e.children x }
    else none
  | .child index x =>
    (e.children[index]?).bind fun p => (p.after? x).map fun p =>
      { e with children := e.children.set index p }
  | .kill index =>
    (e.children[index]?).map fun p => { e with children := e.children.set index p.killed }

/-- The ensemble after a sequence of turns. -/
def run? (e : Ensemble) (turns : List Turn) : Option Ensemble :=
  turns.foldlM after? e

/-- A shell that has made no children yet. -/
def start (s : State) (group : Pid) : Ensemble :=
  { group, rest := .done s }

end Ensemble

/-! ## What a turn can do -/

namespace Member

variable {p p' : Member}

lemma after?_eq_some_iff {x : Exchange Syscalls} :
    p.after? x = some p' ↔ ∃ rest, p.rest.take? x = some rest ∧
      p' = { p with
        rest
        group := if x.request.isMove then p.pid else p.group
        running := p.running || startsProgram x } := by
  unfold after?
  rw [Option.map_eq_some_iff]
  exact exists_congr fun rest => and_congr_right fun _ => eq_comm

/-- No turn of a child changes what the shell knows it by. -/
theorem made_of_after? {x : Exchange Syscalls} (done : p.after? x = some p') :
    p'.pid = p.pid ∧ p'.child = p.child := by
  obtain ⟨rest, -, rfl⟩ := after?_eq_some_iff.1 done
  exact ⟨rfl, rfl⟩

lemma moved_eq (p : Member) : p.moved = { p with group := p.moved.group } := by
  unfold moved
  split <;> rfl

end Member

section MembersAfter

variable {group : Pid} {children : List Member} {p : Member} {x : Traffic}

/-- Each child after an exchange of the shell has just been made, or has just been moved, or was
there before and has been left alone. -/
theorem mem_membersAfter (h : p ∈ membersAfter group children x) :
    (∃ child pid, x = ⟨.fork child, .ok pid⟩ ∧ p = .forked child pid group) ∨
      (∃ old ∈ children, x = ⟨.ownGroup old.pid, ()⟩ ∧ p = old.moved) ∨
        (p ∈ children ∧ x ≠ ⟨.ownGroup p.pid, ()⟩) := by
  obtain ⟨request, answer⟩ := x
  cases request with
  | fork child =>
    cases answer with
    | error errno => exact .inr (.inr ⟨h, nofun⟩)
    | ok pid =>
      rcases List.mem_append.1 h with old | new
      · exact .inr (.inr ⟨old, nofun⟩)
      · exact .inl ⟨child, pid, rfl, List.mem_singleton.1 new⟩
  | ownGroup pid =>
    obtain ⟨old, hold, rfl⟩ := List.mem_map.1 h
    by_cases hpid : old.pid = pid
    · subst hpid
      exact .inr (.inl ⟨old, hold, rfl, if_pos rfl⟩)
    · rw [if_neg hpid]
      refine .inr (.inr ⟨hold, fun same => ?_⟩)
      cases same
      exact hpid rfl
  -- an answered wait can only take members away
  | wait pid block =>
    refine .inr (.inr ⟨?_, nofun⟩)
    have h : p ∈ if Job.verdict? pid answer = none then children
      else children.filter (·.pid ≠ pid) := h
    split at h
    · exact h
    · exact (List.mem_filter.1 h).1
  | _ => exact .inr (.inr ⟨h, nofun⟩)

/-- The numbers of the children go along with the count. -/
lemma toFinset_membersAfter (group : Pid) (children : List Member) (x : Traffic) :
    ((membersAfter group children x).map (·.pid)).toFinset =
      childrenAfter (children.map (·.pid)).toFinset x := by
  obtain ⟨request, answer⟩ := x
  cases request with
  | fork child =>
    cases answer with
    | error errno => rfl
    | ok pid => simp [membersAfter, childrenAfter, Member.forked, Finset.union_comm]
  | ownGroup pid =>
    have same : (membersAfter group children ⟨.ownGroup pid, answer⟩).map (·.pid) =
        children.map (·.pid) := by
      refine (List.map_map ..).trans (List.map_congr_left fun p _ => ?_)
      simp only [Function.comp_apply]
      split
      · rw [Member.moved_eq]
      · rfl
    rw [same]
    rfl
  | wait pid block =>
    refine Eq.trans ?_ (childrenAfter_wait _ pid block answer).symm
    have after : membersAfter group children ⟨.wait pid block, answer⟩ =
      if Job.verdict? pid answer = none then children else children.filter (·.pid ≠ pid) := rfl
    -- the pids that are kept are those of the members that are kept
    rw [after]
    split
    · rfl
    · ext other
      simp only [List.mem_toFinset, List.mem_map, List.mem_filter, decide_eq_true_eq,
        Finset.mem_erase]
      constructor
      · rintro ⟨p, ⟨hp, kept⟩, rfl⟩
        exact ⟨kept, p, hp, rfl⟩
      · rintro ⟨kept, p, hp, rfl⟩
        exact ⟨p, ⟨hp, kept⟩, rfl⟩
  | _ => rfl

end MembersAfter

/-! ## Lines -/

/-- Runs a plan, tells what went wrong, and comes to the state after it. -/
def State.performPlan (s : State) (plan : Plan) : Shell State :=
  Dialogue.bind (Dialogue.bind (s.runPlan plan) fun
    | (s, .ok flow) => .done (s, flow)
    | (s, .error e) => s.complain e) fun done => .done done.1

lemma Operation.perform_execute_eq {s : State} {line : String} {plan : Plan}
    (planned : planLine line s.config.maxArgs = .ok (some plan)) :
    (Operation.execute line).perform s = s.performPlan plan := by
  unfold State.performPlan
  rw [← run_eq_runPlan (planLine_eq_ok_iff.1 planned)]
  rfl

namespace Ensemble

lemma run?_append {e e' : Ensemble} {turns : List Turn} (ran : e.run? turns = some e')
    (later : List Turn) : e.run? (turns ++ later) = e'.run? later := by
  unfold run? at ran ⊢
  rw [List.foldlM_append, ran]
  rfl

/-- A shell begins a line that has this plan. -/
theorem run?_begin_execute {e : Ensemble} {s : State} {line : String} {plan : Plan}
    (ended : e.rest = .done s) (planned : planLine line s.config.maxArgs = .ok (some plan))
    (turns : List Turn) :
    e.run? (.begin (.execute line) :: turns) =
      ({ e with rest := s.performPlan plan, table := s.jobs } : Ensemble).run? turns := by
  have begun : e.after? (.begin (.execute line)) =
      some { e with rest := s.performPlan plan, table := s.jobs } := by
    rw [after?, ended, ← Operation.perform_execute_eq planned]
  unfold run?
  rw [List.foldlM_cons, begun]
  rfl

end Ensemble

end CommandShell
