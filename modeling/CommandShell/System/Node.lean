import CommandShell.System.Descriptors

/-!
# Nodes

What there is to be found under the names on a disk. A `Node` is a file, a directory, a link or
something that only looks like one of these, and a `NodeId` tells it from all others. Most nodes
are stored. Some are not, and only come about when somebody looks for them: the ends of pipes, and
what the system tells about its processes.

A `Location` is a way down from the root, so it has a node at its end and a name at every step.
-/

namespace CommandShell

/-- What the system tells about a process. -/
inductive ProcessPart
  /-- The directory of all the others. -/
  | overview
  /-- What its program was started with. -/
  | arguments
  /-- The name of its program. -/
  | command
  | environment
  /-- Its condition in one line. -/
  | condition
  /-- Its condition in words. -/
  | status
  /-- A link to its working directory. -/
  | workingDir
  /-- A link to the file of its program. -/
  | executable
  /-- A link to the directory that is its root. -/
  | root
  /-- The directory of its descriptors. -/
  | descriptors
  /-- A link to what stands behind one of them. -/
  | descriptor (fd : Fd)
  deriving DecidableEq, Repr

/-- What a node is known by. -/
inductive NodeId
  /-- One that is stored. -/
  | stored (number : Nat)
  /-- What stands behind the ends of a pipe. -/
  | pipe (number : Nat)
  /-- The directory of the processes. -/
  | processes
  /-- The link in it that leads everybody to their own process. -/
  | self
  | process (pid : Pid) (part : ProcessPart)
  deriving DecidableEq, Repr

/-- A special file. -/
inductive Device
  | null
  | full
  | zero
  /-- One that always has more to read. -/
  | random
  /-- The terminal of a process, which no process here has. -/
  | terminal
  deriving DecidableEq, Repr

/-- A directory: its entries in the order in which they were made, whether it came with the system,
and whether it takes no new entries, as one that has been removed while something still refers to
it, or one whose entries are not made by anybody. -/
structure Directory where
  mode : Nat := 0o755
  entries : List (String × NodeId) := []
  ofSystem : Bool := false
  isSealed : Bool := false

/-- The way down from the root, innermost entry first. The root is the empty way. -/
abbrev Location := List (String × NodeId)

/-- The node of the root. -/
def NodeId.root : NodeId := .stored 0

/-- The node a location leads to. -/
def Location.node (l : Location) : NodeId :=
  match l with
  | [] => .root
  | (_, id) :: _ => id

/-- The canonical path of a location. -/
def Location.path (l : Location) : String :=
  if l.isEmpty then "/" else String.join (l.reverse.map fun e => "/" ++ e.1)

/-- Where a place is after the thing at `source` has gone to `target`, with all that is in it. -/
def Location.moved (source target l : Location) : Location :=
  if source.isSuffixOf l then l.take (l.length - source.length) ++ target else l

/-- One thing on a disk. -/
inductive Node
  | file (mode : Nat) (content : ByteArray)
  | directory (d : Directory)
  | link (target : String)
  /-- A link that leads to a place at once, whatever its text says. -/
  | shortcut (text : String) (target : Location)
  /-- A file that nobody can change: one that came with the system, or one that it makes up. -/
  | readOnly (mode : Nat) (content : ByteArray)
  | device (kind : Device)
  | pipe (number : Nat)

end CommandShell
