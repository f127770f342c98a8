import CommandShell.Child
import CommandShell.System.WaitStatus

/-!
# What the shell asks of the system

The interface through which the shell itself deals with its surroundings. Besides the calls that
make, wire and collect children it has a few that the system offers in several steps, such as
writing a whole text or finding the canonical path of a directory; each has one answer.
-/

namespace CommandShell

/-- Where a built-in command writes to. -/
inductive Sink
  /-- The standard output of the shell. -/
  | output
  /-- A file that a redirection has opened. -/
  | file (fd : Fd)
  deriving DecidableEq, Repr

/-- With which options the shell opens a file. -/
structure OpenOptions where
  reads : Bool := false
  writes : Bool := false
  /-- All is written at the end. -/
  appends : Bool := false
  /-- What is in the file goes. -/
  truncates : Bool := false
  /-- The file is made if it is missing. -/
  creates : Bool := false
  /-- What may be done with a file that is made. -/
  permissions : Nat := 0o666
  deriving DecidableEq, Repr

/-- What the system is asked for by some options. A file has to be opened for something, only one
that is written to can be made or emptied, and nothing is emptied that is only added to. -/
def OpenOptions.openMode (o : OpenOptions) : Except Errno OpenMode :=
  let flags : OutputFlags :=
    { creates := o.creates, truncates := o.truncates, appends := o.appends,
      permissions := o.permissions }
  if o.appends then
    if o.truncates then .error .EINVAL
    else .ok (if o.reads then .update flags else .output flags)
  else if o.writes then .ok (if o.reads then .update flags else .output flags)
  else if o.creates || o.truncates then .error .EINVAL
  else if o.reads then .ok .read
  else .error .EINVAL

/-- What the shell asks for. -/
inductive ShellCall
  /-- Writes a text in full. -/
  | write (sink : Sink) (text : String)
  /-- Hands on what has been written but not passed on yet. -/
  | flush (sink : Sink)
  /-- Writes to the standard error. -/
  | warn (text : String)
  /-- Whether a path leads to a directory. -/
  | isDirectory (path : String)
  /-- The path of an existing thing with every link in it resolved. -/
  | canonical (path : String)
  /-- Opens the file of an output redirection. -/
  | openOutput (path : String) (options : OpenOptions)
  | makePipe
  /-- Makes a child, which sets itself up. -/
  | fork (child : Child)
  /-- Moves a child into a process group of its own. -/
  | ownGroup (pid : Pid)
  /-- Closes a descriptor. It is closed even if the answer is an error. -/
  | close (fd : Fd)
  /-- Asks about a child, and waits until there is something to tell if `block` says so. -/
  | wait (pid : Pid) (block : Bool)
  /-- Whether an interrupt has been noted. It is forgotten with the answer. -/
  | takeInterrupt
  /-- Leaves the input to others: these bytes of it have not been read by the shell. -/
  | leaveInput (unread : List UInt8)
  /-- What others have made of the bytes that were left to them, if they have read some of them or
  changed them. -/
  | renewedInput
  deriving DecidableEq, Repr

/-- The answers to what the shell asks for. -/
def ShellCall.Answer : ShellCall → Type
  | .write _ _ => Except IoError Unit
  | .flush _ => Except IoError Unit
  | .warn _ => Unit
  | .isDirectory _ => Except IoError Bool
  | .canonical _ => Except IoError String
  | .openOutput _ _ => Except IoError Fd
  | .makePipe => Except Errno (Fd × Fd)
  | .fork _ => Except Errno Pid
  | .ownGroup _ => Unit
  | .close _ => Except Errno Unit
  | .wait _ _ => Except Errno WaitReport
  | .takeInterrupt => Bool
  | .leaveInput _ => Unit
  | .renewedInput => Option (List UInt8)

/-- The shell's calls as an interface. -/
def ShellCalls : Interface := ⟨ShellCall, ShellCall.Answer⟩

/-- A part of the shell that comes to an `α`. -/
abbrev Shell (α : Type) := Dialogue ShellCalls α

/-- Asks for something once. -/
def Shell.call (request : ShellCall) : Shell request.Answer :=
  Dialogue.call (I := ShellCalls) request

end CommandShell
