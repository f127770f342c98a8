import CommandShell.Machine.Kernel

/-!
# Letting processes run

`Machine.turn` lets one process make one system call. A `round` gives every process its turn,
oldest first, in which nobody interrupts what it writes to its standard error, and
`Machine.runUntil` goes on with rounds until a question about the machine has an answer. Time passes
while processes work, if slowly. When nobody can do anything, it passes until the first sleeper
wakes; when there are no sleepers either, nothing will ever happen again.
-/

namespace CommandShell

namespace Machine

/-- Puts a process where the answer to its call leaves it. -/
def advance (m : Machine) (pid : Pid) (rest : Dialogue Syscalls Nat) : Machine :=
  m.modifyProcess pid ({ · with condition := .running rest })

/-- The exit code of a process has eight bits, which stand above those of a signal. -/
def exitWord (code : Nat) : Nat :=
  code % 256 * 256

/-- Lets a process make its next system call, `none` if it cannot. -/
def turn (m : Machine) (p : Process) : Option Machine :=
  match p.condition with
  | .running (.done code) => some (m.conclude p (exitWord code))
  | .running (.ask .fork again next) =>
    let back (side : Syscall.Forked) : Dialogue Syscalls Nat :=
      Dialogue.resume (I := Syscalls) (r := .fork) again next (.ok side)
    let (m, pid) := m.addProcess fun pid =>
      { p with
        pid
        parent := p.pid
        traced := false
        caught := []
        condition := .running (back .child) }
    some (m.advance p.pid (back (.parent pid)))
  | .running (.ask (.sleep duration) again next) =>
    some <| m.modifyProcess p.pid
      ({ · with condition := .asleep (m.clock + duration) (Dialogue.resume again next ()) })
  | .running (.ask r again next) =>
    match m.perform p r with
    | .answer a m => some (m.advance p.pid (Dialogue.resume again next a))
    | .answerBefore a event => some (event (m.advance p.pid (Dialogue.resume again next a)))
    | .blocked => none
    | .replaced m => some m
  | .asleep wakeTime rest => if wakeTime ≤ m.clock then some (m.advance p.pid rest) else none
  | _ => none

/-- The process is about to write to its standard error. -/
def isReporting (p : Process) : Bool :=
  match p.condition with
  | .running (.ask (.write fd _) _ _) => fd == Fd.stderr
  | _ => false

/-- How many writes there can be in a report. -/
def maxReport : Nat := 8

/-- Lets a process go on for as long as it reports, with so many writes at most. -/
def goOnReporting (m : Machine) (pid : Pid) : Nat → Machine
  | 0 => m
  | writes + 1 =>
    match ((m.process? pid).filter isReporting).bind m.turn with
    | some m => m.goOnReporting pid writes
    | none => m

/-- Gives the processes of these numbers their turns. Tells whether any of them could use it. -/
def turns (m : Machine) (moved : Bool) : List Pid → Machine × Bool
  | [] => (m, moved)
  | pid :: rest =>
    match m.process? pid with
    | none => m.turns moved rest
    | some p =>
      match m.turn p with
      | some m => (if isReporting p then m.goOnReporting pid maxReport else m).turns true rest
      | none => m.turns moved rest

/-- Gives every process its turn. -/
def round (m : Machine) : Machine × Bool :=
  m.turns false (m.processes.map (·.pid))

/-- When the first sleeper wakes. -/
def wakeTime? (m : Machine) : Option Nat :=
  (m.processes.filterMap fun p =>
    match p.condition with
    | .asleep wakeTime _ => some wakeTime
    | _ => none).min?

/-- How many rounds there are in a millisecond. -/
def roundsPerMillisecond : Nat := 256

/-- Lets the time pass that a round takes. -/
def tick (m : Machine) : Machine :=
  if m.rounds + 1 < roundsPerMillisecond then { m with rounds := m.rounds + 1 }
  else { m with rounds := 0, clock := m.clock + 1 }

/-- Lets the processes run until there is an answer, for so many rounds at most. -/
def runUntil {α : Type} (m : Machine) (answer? : Machine → Option α) : Nat → Option (α × Machine)
  | 0 => none
  | rounds + 1 =>
    match answer? m with
    | some a => some (a, m)
    | none =>
      match m.round with
      | (m, true) => m.tick.runUntil answer? rounds
      | (m, false) =>
        match m.wakeTime? with
        | some time => { m with clock := time, rounds := 0 }.runUntil answer? rounds
        | none => none

end Machine

end CommandShell
