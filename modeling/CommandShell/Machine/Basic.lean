import CommandShell.Machine.Process
import CommandShell.System.Disk

/-!
# Machines

A `Machine` is a disk, a table of open files, pipes, processes and a clock: enough of a system to
run a shell and its children on. One of the processes is the shell, whose calls come from outside;
all others carry their program with them.

This file has the tables. `CommandShell.Machine.View` shows the processes among the files,
`CommandShell.Machine.Kernel` answers system calls, `CommandShell.Machine.Schedule` lets processes
run, and `CommandShell.Machine.Host` answers what the shell asks for.
-/

namespace CommandShell

/-- Where the output of the shell is gathered if it does not go to its standard output. -/
structure Outlet where
  text : ByteArray := .empty
  /-- How many more bytes it takes, if there is an end to them. -/
  room : Option Nat := none
  /-- It fails to hand on what it has taken. -/
  flushFails : Bool := false

/-- Takes bytes up to the room there is. -/
def Outlet.take (o : Outlet) (bytes : ByteArray) : Except IoError Unit × Outlet :=
  match o.room with
  | none => (.ok (), { o with text := o.text ++ bytes })
  | some room =>
    let fits := bytes.extract 0 room
    let o := { o with text := o.text ++ fits, room := some (room - fits.size) }
    (if bytes.size ≤ room then .ok () else .error (.os .ENOSPC), o)

/-- A system with its processes. -/
structure Machine where
  disk : Disk
  openFiles : Array OpenFile := #[]
  /-- What has been written to each pipe and not been read yet. -/
  pipes : Array ByteArray := #[]
  /-- The processes that have not been collected, oldest first. -/
  processes : List Process := []
  nextPid : Pid := 2
  /-- Milliseconds since the start. -/
  clock : Nat := 0
  /-- How often every process has had its turn since the clock has moved. -/
  rounds : Nat := 0
  /-- The process whose calls come from outside. -/
  shell : Pid := 0
  /-- An interrupt has reached the shell and it has not asked about it since. -/
  interrupted : Bool := false
  /-- How many more children the shell can make, if there is a limit. -/
  forksLeft : Option Nat := none
  /-- Closing a descriptor of the shell reports a failure. -/
  closeFails : Bool := false
  outlet : Option Outlet := none
  /-- What the shell has not read yet of its standard input, as far as it knows. -/
  inputLeft : ByteArray := .empty

namespace Machine

instance : Inhabited Machine := ⟨{ disk := default }⟩

/-! ## Processes -/

/-- The process of this number. -/
def process? (m : Machine) (pid : Pid) : Option Process :=
  m.processes.find? (·.pid == pid)

/-- Changes one process. -/
def modifyProcess (m : Machine) (pid : Pid) (f : Process → Process) : Machine :=
  { m with processes := m.processes.map fun p => if p.pid = pid then f p else p }

/-- Adds a process, under the next number. -/
def addProcess (m : Machine) (make : Pid → Process) : Machine × Pid :=
  let pid := m.nextPid
  ({ m with processes := m.processes ++ [make pid], nextPid := pid + 1 }, pid)

/-- Forgets a process for good. -/
def dropProcess (m : Machine) (pid : Pid) : Machine :=
  { m with processes := m.processes.filter (·.pid != pid) }

/-- The number of the process that takes over orphans. -/
def init : Pid := 1

/-- Ends a process: its descriptors are closed and its children become orphans. It stays in the
table until its parent collects it; an orphan is collected at once. -/
def finish (m : Machine) (pid : Pid) (word : Nat) : Machine :=
  let m := m.modifyProcess pid fun p => { p with descriptors := {}, condition := .ended word }
  let adopt (m : Machine) (p : Process) : Machine :=
    if p.parent = pid then
      if p.hasEnded then m.dropProcess p.pid
      else m.modifyProcess p.pid fun p => { p with parent := init }
    else m
  let m := m.processes.foldl adopt m
  match m.process? pid with
  | some p => if p.parent = init then m.dropProcess pid else m
  | none => m

/-! ## Open files -/

/-- Adds an open file. -/
def addOpenFile (m : Machine) (f : OpenFile) : Machine × Nat :=
  ({ m with openFiles := m.openFiles.push f }, m.openFiles.size)

/-- Replaces an open file. -/
def setOpenFile (m : Machine) (file : Nat) (f : OpenFile) : Machine :=
  { m with openFiles := m.openFiles.setIfInBounds file f }

/-- The open file behind a descriptor of a process. -/
def fileOf? (m : Machine) (p : Process) (fd : Fd) : Option (Nat × OpenFile) := do
  let slot ← p.descriptors.get? fd
  let file ← m.openFiles[slot.file]?
  return (slot.file, file)

/-- Opens a file for a process under its lowest free descriptor. -/
def install (m : Machine) (p : Process) (f : OpenFile) (closeOnExec : Bool) :
    Except Errno (Machine × Fd) :=
  let (m, file) := m.addOpenFile f
  match p.descriptors.allocate p.limit { file, closeOnExec } with
  | .error e => .error e
  | .ok (fd, descriptors) => .ok (m.modifyProcess p.pid ({ · with descriptors }), fd)

/-- The machine after places have changed. Whoever is in one, or has a file open there, goes with
it. -/
def relocate (m : Machine) (change : Location → Location) : Machine :=
  { m with
    openFiles := m.openFiles.map (OpenFile.relocate change)
    processes := m.processes.map (Process.relocate change) }

/-- Some process has an open file that `test` is true of. -/
def anyHolds (m : Machine) (test : OpenFile → Bool) : Bool :=
  m.processes.any fun p =>
    p.descriptors.slots.any fun slot =>
      match slot with
      | some s => (m.openFiles[s.file]?).any test
      | none => false

/-- Somebody could still write to a pipe. -/
def hasWriter (m : Machine) (pipe : Nat) : Bool :=
  m.anyHolds fun
    | .pipe n access => n == pipe && access.writes
    | _ => false

/-- Somebody could still read from a pipe. -/
def hasReader (m : Machine) (pipe : Nat) : Bool :=
  m.anyHolds fun
    | .pipe n access => n == pipe && access.reads
    | _ => false

/-- Some process could write to the file of a node. -/
def isWritten (m : Machine) (node : NodeId) : Bool :=
  m.anyHolds fun f => f.isWritable && f.place.node == node

/-- Where a file without a name is. -/
def nowhere (node : NodeId) : Location :=
  [("nameless", node)]

/-- A file without a name that holds these bytes, open at its start. -/
def addAnonymous (m : Machine) (bytes : ByteArray) (appends : Bool) : Machine × Nat × NodeId :=
  let (disk, node) := m.disk.add (.file 0o600 bytes)
  let (m, file) := { m with disk }.addOpenFile (.regular (nowhere node) 0 { appends })
  (m, file, node)

end Machine

end CommandShell
