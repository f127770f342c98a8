import CommandShell.System.Syscall

/-!
# Processes and open files

The tables of a `Machine`: what stands behind the descriptors of its processes, and the processes
themselves. An open file is shared by all descriptors that were duplicated or inherited from the
one it was opened with, so its read position moves for all of them at once.

A process carries the rest of its program as a dialogue, so it can be run one system call at a
time.
-/

namespace CommandShell

/-- What an open file can be used for. -/
structure Access where
  reads : Bool := true
  writes : Bool := true
  /-- All is written at the end. -/
  appends : Bool := false

/-- What can be done with a file that has been opened in a mode. -/
def Access.ofMode : OpenMode → Access
  | .read => { writes := false }
  | .output flags => { reads := false, appends := flags.appends }
  | .update flags => { appends := flags.appends }

/-- What an open file reads from and writes to, and where it was found. -/
inductive OpenFile
  /-- A regular file, read and written at a position. -/
  | regular (place : Location) (offset : Nat) (access : Access)
  | directory (place : Location)
  | device (place : Location) (kind : Device) (access : Access)
  /-- A text that is made when it is first read. -/
  | report (place : Location) (text : Option ByteArray) (offset : Nat)
  /-- One or the other end of a pipe, or both at once. -/
  | pipe (number : Nat) (access : Access)

namespace OpenFile

/-- Where an open file was found. A pipe is nowhere on the disk, and has a name for readers only. -/
def place : OpenFile → Location
  | .regular place _ _ | .directory place | .device place _ _ | .report place _ _ => place
  | .pipe number _ => [("pipe:[" ++ toString number ++ "]", .pipe number)]

/-- The open file after places have changed. -/
def relocate (change : Location → Location) : OpenFile → OpenFile
  | .regular place offset access => .regular (change place) offset access
  | .directory place => .directory (change place)
  | .device place kind access => .device (change place) kind access
  | .report place text offset => .report (change place) text offset
  | .pipe number access => .pipe number access

/-- The end of a pipe that is read from. -/
def pipeReader (number : Nat) : OpenFile :=
  .pipe number { writes := false }

/-- The end of a pipe that is written to. -/
def pipeWriter (number : Nat) : OpenFile :=
  .pipe number { reads := false }

/-- It can be written to. -/
def isWritable : OpenFile → Bool
  | .regular _ _ access | .device _ _ access | .pipe _ access => access.writes
  | .directory _ | .report _ _ _ => false

/-- It can be read from. -/
def isReadable : OpenFile → Bool
  | .regular _ _ access | .device _ _ access | .pipe _ access => access.reads
  | .directory _ | .report _ _ _ => true

end OpenFile

/-- How far a process has got. -/
inductive Condition
  /-- It runs, and has this left to do. -/
  | running (rest : Dialogue Syscalls Nat)
  /-- It does nothing before a point in time. -/
  | asleep (wakeTime : Nat) (rest : Dialogue Syscalls Nat)
  /-- A signal has stopped it. `told` if nobody has to hear of that (any more). -/
  | stopped (number : Nat) (told : Bool) (rest : Dialogue Syscalls Nat)
  /-- It has ended, with this status word for its parent. -/
  | ended (word : Nat)
  /-- It is not run by the machine: its calls come from outside. -/
  | attended

/-- The variables that a process finds. -/
abbrev Environment := List (String × String)

/-- A process. -/
structure Process where
  pid : Pid
  parent : Pid
  group : Pid
  /-- The name of its program. -/
  command : String
  /-- The file of its program. -/
  executable : Location := []
  /-- What its program was started with. -/
  arguments : List String := []
  cwd : Location
  descriptors : Descriptors
  /-- Descriptors must have numbers below this one. -/
  limit : Nat := 1024
  environment : Environment := []
  dispositions : Dispositions := {}
  /-- The handled signals that have come and that it has not asked about yet. -/
  caught : List Nat := []
  /-- The permissions that things made by it do not get. -/
  mask : Nat := 0
  /-- Its parent traces it, so signals stop it. -/
  traced : Bool := false
  condition : Condition

namespace Process

/-- The highest limit on descriptors that a process can set for itself. -/
def maxLimit : Nat := 1048576

/-- The permissions that something made by a process gets if it asks for these. -/
def permitted (p : Process) (mode : Nat) : Nat :=
  mode - (mode &&& p.mask)

/-- The process after places have changed. -/
def relocate (change : Location → Location) (p : Process) : Process :=
  { p with executable := change p.executable, cwd := change p.cwd }

/-- The process has ended and waits to be collected. -/
def hasEnded (p : Process) : Bool :=
  match p.condition with
  | .ended _ => true
  | _ => false

end Process

end CommandShell
