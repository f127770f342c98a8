import CommandShell.Dialogue
import CommandShell.Plan
import CommandShell.System.Descriptors
import CommandShell.System.Disk
import CommandShell.System.Disposition

/-!
# System calls of a process

What a process other than the shell can ask of the system, and what it is answered. The setup of a
child and every program that runs in a machine is a dialogue through this interface; its result is
the exit code of the process.
-/

namespace CommandShell

/-- What becomes of a file that is opened to be written to. -/
structure OutputFlags where
  /-- It is made if it is missing. -/
  creates : Bool := false
  /-- What is in it goes. -/
  truncates : Bool := false
  /-- All is written at its end. -/
  appends : Bool := false
  /-- What may be done with it if it is made. -/
  permissions : Nat := 0
  deriving DecidableEq, Repr

/-- What a file is opened for. -/
inductive OpenMode
  | read
  /-- For writing. -/
  | output (flags : OutputFlags)
  /-- For both, at the beginning of what is there. -/
  | update (flags : OutputFlags)
  deriving DecidableEq, Repr

namespace OpenMode

/-- For writing; the file is made with these permissions if it is missing. -/
abbrev write (mode : OutputMode) (permissions : Nat) : OpenMode :=
  .output { creates := true, truncates := mode == .truncate, appends := mode == .append,
            permissions }

/-- For reading and writing; the file is made with these permissions if it is missing. -/
abbrev readWrite (permissions : Nat) : OpenMode :=
  .update { creates := true, permissions }

end OpenMode

/-- What kind of thing a path leads to, or what stands behind a descriptor, and its node. -/
inductive FileKind
  | regular (node : NodeId) (size : Nat) (mode : Nat)
  | directory (node : NodeId) (mode : Nat)
  | link (node : NodeId)
  | device (node : NodeId)
  | pipe (node : NodeId)
  deriving DecidableEq, Repr

namespace FileKind

/-- The node by which a thing is known to be the same under another name. -/
def node : FileKind → NodeId
  | regular node _ _ | directory node _ | link node | device node | pipe node => node

/-- It is a directory. -/
def isDirectory : FileKind → Bool
  | directory _ _ => true
  | _ => false

/-- It is a symbolic link. -/
def isLink : FileKind → Bool
  | link _ => true
  | _ => false

/-- It is a regular file. -/
def isRegular : FileKind → Bool
  | regular _ _ _ => true
  | _ => false

end FileKind

/-- A system call. -/
inductive Syscall
  /-- Puts back the signal dispositions that a program expects to start with. -/
  | defaultSignals
  /-- Moves the process into a process group of its own. -/
  | ownGroup
  /-- Changes the working directory. -/
  | enter (path : String)
  | openFile (path : String) (mode : OpenMode) (closeOnExec : Bool)
  | close (fd : Fd)
  /-- Makes `target` another name for `source`. -/
  | duplicate (source target : Fd)
  /-- Makes another name for `source`, the lowest free one from `lowest` on. -/
  | duplicateAbove (source lowest : Fd)
  /-- Lets a descriptor live on in another program. -/
  | keepOnExec (fd : Fd)
  /-- Gives the next program of the process these variables. -/
  | setEnvironment (environment : List (String × String))
  /-- Turns the process into a program, which is searched for if its name has no slash. -/
  | exec (program : String) (argv : List String)
  /-- Turns the process into the program at a path. -/
  | execAt (path : String) (argv : List String)
  /-- Reads at most `max` bytes, none at the end of the file. -/
  | read (fd : Fd) (max : Nat)
  | write (fd : Fd) (bytes : ByteArray)
  /-- At which position of its file a descriptor reads and writes next. -/
  | tell (fd : Fd)
  /-- Goes on reading and writing at a position. -/
  | seek (fd : Fd) (position : Nat)
  | makePipe
  /-- Makes a copy of the process, which goes on from here with a different answer. -/
  | fork
  /-- Waits for the end of a child: the one of this number, any for -1, one of the own process group
  for 0, and one of another group for its number with a minus sign. -/
  | wait (pid : Pid)
  /-- Sends a signal, known by its number, to a process. As with `wait`, 0 and negative numbers
  stand for several processes. -/
  | kill (pid : Pid) (number : Nat)
  /-- What the process does about a signal. -/
  | disposition (number : Nat)
  /-- Arranges what the process does about a signal. -/
  | dispose (number : Nat) (wanted : Disposition)
  /-- The handled signals that have come since this was asked last. -/
  | takeCaught
  /-- Does nothing for a number of milliseconds. -/
  | sleep (duration : Nat)
  | processId
  | parentId
  /-- The path of the working directory. -/
  | whereAmI
  | inspect (path : String) (follow : Bool)
  /-- Fails unless the process may use a thing in these ways. -/
  | access (path : String) (rights : List Disk.Right)
  | inspectOpen (fd : Fd)
  /-- The names in a directory. -/
  | list (path : String)
  | makeDirectory (path : String) (mode : Nat)
  | removeDirectory (path : String)
  | remove (path : String)
  | rename (source target : String)
  | makeLink (path target : String)
  /-- Gives a file another name besides those it has. -/
  | shareFile (source target : String)
  /-- Where a symbolic link leads. -/
  | readLink (path : String)
  | setMode (path : String) (mode : Nat)
  /-- Takes these permissions away from all that the process makes, and tells which it took away
  before. -/
  | setMask (mask : Nat)
  /-- Which number all descriptors have to stay below. -/
  | limit
  | setLimit (limit : Nat)
  /-- Lets the parent trace the process, so that signals stop it before they act. -/
  | beTraced

namespace Syscall

/-- Which of the two processes after a fork an answer is for. -/
inductive Forked
  | child
  | parent (pid : Pid)

/-- The answers to a system call. A program that is started in place of the process leaves nobody
to answer; `none` stands for that. -/
def Answer : Syscall → Type
  | .defaultSignals => Unit
  | .ownGroup => Unit
  | .enter _ => Except Errno Unit
  | .openFile _ _ _ => Except Errno Fd
  | .close _ => Except Errno Unit
  | .duplicate _ _ => Except Errno Unit
  | .duplicateAbove _ _ => Except Errno Fd
  | .keepOnExec _ => Except Errno Unit
  | .setEnvironment _ => Unit
  | .exec _ _ => Option Errno
  | .execAt _ _ => Option Errno
  | .read _ _ => Except Errno ByteArray
  | .write _ _ => Except Errno Unit
  | .tell _ => Except Errno Nat
  | .seek _ _ => Except Errno Unit
  | .makePipe => Except Errno (Fd × Fd)
  | .fork => Except Errno Forked
  | .wait _ => Except Errno (Pid × Nat)
  | .kill _ _ => Except Errno Unit
  | .disposition _ => Disposition
  | .dispose _ _ => Except Errno Unit
  | .takeCaught => List Nat
  | .sleep _ => Unit
  | .processId => Pid
  | .parentId => Pid
  | .whereAmI => Except Errno String
  | .inspect _ _ => Except Errno FileKind
  | .inspectOpen _ => Except Errno FileKind
  | .access _ _ => Except Errno Unit
  | .list _ => Except Errno (List String)
  | .makeDirectory _ _ => Except Errno Unit
  | .removeDirectory _ => Except Errno Unit
  | .remove _ => Except Errno Unit
  | .rename _ _ => Except Errno Unit
  | .makeLink _ _ => Except Errno Unit
  | .shareFile _ _ => Except Errno Unit
  | .readLink _ => Except Errno String
  | .setMode _ _ => Except Errno Unit
  | .setMask _ => Nat
  | .limit => Nat
  | .setLimit _ => Except Errno Unit
  | .beTraced => Unit

end Syscall

/-- System calls as an interface. -/
def Syscalls : Interface := ⟨Syscall, Syscall.Answer⟩

end CommandShell
