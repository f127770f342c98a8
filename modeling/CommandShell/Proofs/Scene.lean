import CommandShell.Proofs.Wiring
import Mathlib

/-!
# Processes that take turns

The shell starts a plan while the children it has made set themselves up, and while other processes
run. A `Scene` is a moment of this: the descriptors of every process, and what the shell and each
child have left to do. Any of them may make the next `Move`, so a sequence of moves is an
interleaving, with all that the system may answer (`Scene.run?`).

The descriptors of the other processes may change in any way that does not reach into the shell or
its children: they can open files, make processes and pass descriptors on to each other
(`Scene.canHave`).
-/

namespace CommandShell

open Dialogue

deriving instance DecidableEq for Syscall

instance : DecidableEq Syscalls.Request := inferInstanceAs (DecidableEq Syscall)

/-- The open files behind the ends of a pipe. -/
structure PipeEnds where
  reading : Nat
  writing : Nat
  deriving DecidableEq, Repr

/-! ## Children -/

/-- A child of the shell on the way to its program. -/
structure ChildProcess extends Setup where
  pid : Pid
  child : Child
  rest : Dialogue Syscalls Started

namespace ChildProcess

/-- A child as it has just been made by a process with these descriptors. -/
def forked (child : Child) (pid : Pid) (table : Descriptors) : ChildProcess :=
  { table, pid, child, rest := child.setup }

/-- A child after one more call, if this is its call and the system can answer so. -/
def after? (p : ChildProcess) (file : Nat) (x : Exchange Syscalls) : Option ChildProcess := do
  let rest ← p.rest.take? x
  let setup ← p.toSetup.after? file x
  return { p with toSetup := setup, rest }

/-- A child that a signal has ended. -/
def killed (p : ChildProcess) : ChildProcess :=
  { p with table := {}, rest := .done (.ended 0) }

/-- A child and its number, as the shell knows it. -/
def made (p : ChildProcess) : Child × Pid :=
  (p.child, p.pid)

/-- The child has ended, by itself or by a signal. -/
def hasEnded (p : ChildProcess) : Bool :=
  match p.rest with
  | .done (.ended _) => true
  | _ => false

/-- The child has come to the point at which it asks for its program, or past it. -/
def isAtProgram (p : ChildProcess) : Bool :=
  p.rest.pending?.any Syscall.isExec || p.past.any Syscall.isExec

end ChildProcess

/-- The shell while it starts a plan, the children it has made so far, and the other processes.
Every open file has a number under `files`, and numbers are never used again. -/
structure Scene where
  shell : Descriptors
  rest : Shell (Except LaunchError Job)
  /-- In the order in which they were made. -/
  children : List ChildProcess := []
  others : List Descriptors
  files : Nat
  /-- The pipes that the shell has made. -/
  pipes : List PipeEnds := []

/-- A process of a scene. -/
inductive Who
  | shell
  | child (index : Nat)
  | other (index : Nat)
  deriving DecidableEq, Repr

/-- What happens next: the shell or a child makes a call, a signal ends a child, or the other
processes do something. -/
inductive Move
  | shell (x : Traffic)
  | child (index : Nat) (x : Exchange Syscalls)
  | kill (index : Nat)
  /-- The other processes have these descriptors now. -/
  | others (tables : List Descriptors)

/-- What stands behind a descriptor that the shell has opened for a pipe. The reading end comes
first, and neither is for other programs. -/
def openedSlot (file : Nat) (x : Traffic) (fd : Fd) : Slot :=
  ⟨if x.pipe?.map (·.2) = some fd then file + 1 else file, true⟩

/-- The pipe that an exchange has made, if it has made one. -/
def openedPipe (file : Nat) (x : Traffic) : List PipeEnds :=
  x.pipe?.toList.map fun _ => ⟨file, file + 1⟩

namespace Scene

/-- The descriptors of a process, as long as it lives. -/
def table? (s : Scene) : Who → Option Descriptors
  | .shell => some s.shell
  | .child index => (s.children[index]?).bind fun p => if p.hasEnded then none else some p.table
  | .other index => s.others[index]?

/-- A process has an open file behind a descriptor. -/
def Holds (s : Scene) (who : Who) (fd : Fd) (file : Nat) : Prop :=
  ∃ table, s.table? who = some table ∧ table.RefersTo fd file

/-- Descriptors that the other processes can have come to: for files that are new, or that one of
them had open. They can open files, make processes and pass descriptors on to each other. -/
def canHave (s : Scene) (table : Descriptors) : Bool :=
  table.slots.all fun slot => slot.all fun held =>
    held.file == s.files || held.file == s.files + 1 || s.others.any (·.holds held.file)

/-- The scene after a move, if it is one that can be made. With every move the system can open two
files. -/
def after? (s : Scene) : Move → Option Scene
  | .shell x =>
    if OpensFresh s.shell x then
      (s.rest.take? x).map fun rest =>
        { s with
          rest
          shell := tableAfter (openedSlot s.files x) s.shell x
          children := s.children ++ x.fork?.toList.map fun made =>
            .forked made.1 made.2 s.shell
          pipes := s.pipes ++ openedPipe s.files x
          files := s.files + 2 }
    else none
  | .child index x =>
    (s.children[index]?).bind fun p => (p.after? s.files x).map fun p =>
      { s with children := s.children.set index p, files := s.files + 2 }
  | .kill index =>
    (s.children[index]?).map fun p =>
      { s with children := s.children.set index p.killed, files := s.files + 2 }
  | .others tables =>
    if tables.all s.canHave then some { s with others := tables, files := s.files + 2 } else none

/-- The scene after a sequence of moves. -/
def run? (s : Scene) (moves : List Move) : Option Scene :=
  moves.foldlM after? s

/-- A shell that is about to start a plan, among other processes. -/
def before (plan : Plan) (workingDir : String) (shell : Descriptors) (others : List Descriptors)
    (files : Nat) : Scene :=
  { shell, rest := launch plan workingDir, others, files }

end Scene

/-! ## What a move can do -/

namespace ChildProcess

variable {p p' : ChildProcess}

lemma after?_eq_some_iff {file : Nat} {x : Exchange Syscalls} :
    p.after? file x = some p' ↔ ∃ rest setup, p.rest.take? x = some rest ∧
      p.toSetup.after? file x = some setup ∧ p' = { p with toSetup := setup, rest } := by
  simp only [after?, Option.bind_eq_bind, Option.bind_eq_some_iff, Option.pure_def,
    Option.some.injEq, eq_comm (a := p')]
  constructor
  · rintro ⟨rest, hrest, setup, hsetup, rfl⟩
    exact ⟨rest, setup, hrest, hsetup, rfl⟩
  · rintro ⟨rest, setup, hrest, hsetup, rfl⟩
    exact ⟨rest, hrest, setup, hsetup, rfl⟩

lemma made_of_after? {file : Nat} {x : Exchange Syscalls} (done : p.after? file x = some p') :
    p'.made = p.made := by
  obtain ⟨rest, setup, -, -, rfl⟩ := after?_eq_some_iff.1 done
  rfl

end ChildProcess

lemma Traffic.eq_of_fork? {x : Traffic} {child : Child} {pid : Pid}
    (h : x.fork? = some (child, pid)) : x = ⟨.fork child, .ok pid⟩ := by
  unfold fork? at h
  split at h
  · cases h
    rfl
  · cases h

lemma Traffic.eq_of_pipe? {x : Traffic} {ends : Fd × Fd} (h : x.pipe? = some ends) :
    x = ⟨.makePipe, .ok ends⟩ := by
  unfold pipe? at h
  split at h
  · cases h
    rfl
  · cases h

namespace Descriptors

variable {d : Descriptors} {n : Nat}

/-- With every call the shell can open two files. -/
theorem Below.tableAfter (h : d.Below n) (x : Traffic) :
    (tableAfter (openedSlot n x) d x).Below (n + 2) := by
  have old : d.Below (n + 2) := h.mono (by omega)
  have put {table : Descriptors} (h : table.Below (n + 2)) (fd : Fd) {slot : Option Slot}
      (hslot : ∀ s ∈ slot, s.file < n + 2) : (table.put fd slot).Below (n + 2) := by
    intro other file refers
    rcases refersTo_of_put refers with ⟨s, hs, rfl⟩ | refers
    · exact hslot s hs
    · exact h other file refers
  have opened (fd : Fd) : ∀ s ∈ some (openedSlot n x fd), s.file < n + 2 := by
    rintro _ ⟨⟩
    unfold openedSlot
    dsimp only
    split <;> omega
  unfold CommandShell.tableAfter
  split
  · exact put (put old _ (opened _)) _ (opened _)
  · exact put old _ (opened _)
  · exact put old _ (by simp)
  · exact old

end Descriptors

namespace Scene

variable {s : Scene}

/-- The other processes have new files, or files that one of them had before. -/
theorem refersTo_of_canHave {table : Descriptors} {fd : Fd} {file : Nat}
    (h : s.canHave table = true) (refers : table.RefersTo fd file) :
    file = s.files ∨ file = s.files + 1 ∨ ∃ other ∈ s.others, ∃ fd, other.RefersTo fd file := by
  obtain ⟨held, hmem, rfl⟩ := refers.exists_mem
  have allowed := List.all_eq_true.1 h _ hmem
  simpa [Descriptors.holds_iff, or_assoc] using allowed

/-! ## Who holds a file -/

/-- A file that neither the shell nor any of the other processes has is held by children only. -/
theorem holds_iff {file : Nat} (shell : s.shell.StandsAt file none)
    (others : ∀ table ∈ s.others, table.StandsAt file none) {who : Who} {fd : Fd} :
    s.Holds who fd file ↔ ∃ index p, who = .child index ∧ s.children[index]? = some p ∧
      p.hasEnded = false ∧ p.table.RefersTo fd file := by
  constructor
  · rintro ⟨table, htable, refers⟩
    -- neither the shell nor the others have the file, so the holder is a child that lives
    cases who with
    | shell =>
      cases htable
      exact absurd refers (Descriptors.StandsAt.none_iff.1 shell fd)
    | other index =>
      have absent := others table (List.mem_of_getElem? htable)
      exact absurd refers (Descriptors.StandsAt.none_iff.1 absent fd)
    | child index =>
      obtain ⟨p, hp, htable⟩ := Option.bind_eq_some_iff.1 htable
      split at htable
      · cases htable
      · rename_i lives
        cases htable
        exact ⟨index, p, rfl, hp, by simpa using lives, refers⟩
  · rintro ⟨index, p, rfl, hp, lives, refers⟩
    refine ⟨p.table, ?_, refers⟩
    simp [table?, hp, lives]

/-- With two children, such a file is held by the one or by the other. -/
theorem holds_iff_of_pair {reader writer : ChildProcess} (pair : s.children = [reader, writer])
    {file : Nat} (shell : s.shell.StandsAt file none)
    (others : ∀ table ∈ s.others, table.StandsAt file none) {who : Who} {fd : Fd} :
    s.Holds who fd file ↔
      (who = .child 0 ∧ reader.hasEnded = false ∧ reader.table.RefersTo fd file) ∨
        (who = .child 1 ∧ writer.hasEnded = false ∧ writer.table.RefersTo fd file) := by
  rw [holds_iff shell others, pair]
  constructor
  · rintro ⟨index, p, rfl, hp, lives, refers⟩
    match index, hp with
    | 0, hp =>
      cases hp
      exact .inl ⟨rfl, lives, refers⟩
    | 1, hp =>
      cases hp
      exact .inr ⟨rfl, lives, refers⟩
  · rintro (⟨rfl, lives, refers⟩ | ⟨rfl, lives, refers⟩)
    · exact ⟨0, reader, rfl, rfl, lives, refers⟩
    · exact ⟨1, writer, rfl, rfl, lives, refers⟩

end Scene

end CommandShell
