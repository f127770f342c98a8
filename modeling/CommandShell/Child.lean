import CommandShell.System.Syscall

/-!
# Setting up a child

What a freshly forked child does before it turns into the program it was made for: it puts back
the signals, moves to its own group if it is to run in the background, drops the pipe end it has
no use for, enters the working directory of the shell, and attaches a pipe end or files to its
standard streams. Files are opened after the pipe is attached, so a redirection overrides the pipe
on its side.

The first of these steps that fails is the last one. It is reported in one line on the standard
error, and the child ends with a status that tells a program that was not found (127) and one that
may not be run (126) from every other failure (1).
-/

namespace CommandShell

/-- What a child does with the pipe of its job, and whether it leaves the group of the shell. -/
structure Wiring where
  /-- The end it reads from. -/
  input : Option Fd := none
  /-- The end it writes to. -/
  output : Option Fd := none
  /-- The end it has no use for. -/
  unused : Option Fd := none
  ownGroup : Bool := false
  deriving DecidableEq, Repr

/-- A child that is to be made. -/
structure Child where
  segment : Segment
  workingDir : String
  wiring : Wiring := {}
  deriving DecidableEq, Repr

/-- What the setup of a child comes to. -/
inductive Started
  /-- The child has turned into its program. -/
  | running
  /-- The child has ended with this exit code. -/
  | ended (code : Nat)
  deriving DecidableEq, Repr

namespace Child

/-- Exit code of a child whose surroundings could not be set up. -/
def setupFailed : Nat := 1

/-- Exit code of a child whose program may not be run. -/
def notExecutable : Nat := 126

/-- Exit code of a child whose program was not found. -/
def notFound : Nat := 127

/-- The permissions of a file that a redirection makes: its owner may read and write it, and all
others may read it. -/
def outputPermissions : Nat := 0o400 ||| 0o200 ||| 0o040 ||| 0o004

/-- How the output file of a segment is opened. -/
def outputFlags (mode : OutputMode) : OutputFlags :=
  let flags : OutputFlags := { creates := true, permissions := outputPermissions }
  match mode with
  | .truncate => { flags with truncates := true }
  | .append => { flags with appends := true }

/-- Writes texts to the standard error, one by one. Nothing is made of those that fail. -/
def tell : List String → Dialogue Syscalls Started → Dialogue Syscalls Started
  | [], next => next
  | part :: parts, next => do
    let _ ← Dialogue.call (I := Syscalls) (.write Fd.stderr (Text.bytes part))
    tell parts next

/-- Reports a failure and ends. -/
def die (subject reason : String) (code : Nat) : Dialogue Syscalls Started :=
  tell ["orbit: ", subject, ": ", reason, "\n"] (.done (.ended code))

/-- A call that an interrupt cut short is made again. -/
def wasInterrupted {α : Type} : Except Errno α → Bool
  | .error e => e == .EINTR
  | .ok _ => false

/-- Moves a descriptor onto one of the standard ones and goes on. A descriptor that is already in
its place was opened to be closed later, and is told to stay. -/
def attach (fd target : Fd) (next : Dialogue Syscalls Started) : Dialogue Syscalls Started :=
  if fd = target then do
    match ← Dialogue.call (I := Syscalls) (.keepOnExec fd) with
    | .error e => die "fcntl" e.describe setupFailed
    | .ok _ => next
  else
    .ask (I := Syscalls) (.duplicate fd target) wasInterrupted fun answer _ =>
      match answer with
      | .error e => die "dup2" e.describe setupFailed
      | .ok _ => do
        let _ ← Dialogue.call (I := Syscalls) (.close fd)
        next

/-- Attaches a pipe end, if there is one. -/
def attachPipe (fd : Option Fd) (target : Fd) (next : Dialogue Syscalls Started) :
    Dialogue Syscalls Started :=
  match fd with
  | none => next
  | some fd => attach fd target next

/-- Opens a file and attaches it. -/
def attachFile (path : String) (mode : OpenMode) (target : Fd)
    (next : Dialogue Syscalls Started) : Dialogue Syscalls Started :=
  .ask (I := Syscalls) (.openFile path mode true) wasInterrupted fun answer _ =>
    match answer with
    | .error e => die path e.describe setupFailed
    | .ok fd => attach fd target next

/-- Attaches the input file of a segment, if it has one. -/
def attachInput (s : Segment) (next : Dialogue Syscalls Started) : Dialogue Syscalls Started :=
  match s.input with
  | none => next
  | some path => attachFile path .read Fd.stdin next

/-- Attaches the output file of a segment, if it has one. -/
def attachOutput (s : Segment) (next : Dialogue Syscalls Started) : Dialogue Syscalls Started :=
  match s.output with
  | none => next
  | some target =>
    attachFile target.path (.output (outputFlags target.mode)) Fd.stdout next

/-- Exit code and wording for a program that could not be started. Only a bare name is searched
for, so only a bare name can be an unknown command. -/
def execFailure (program : String) (e : Errno) : Nat × String :=
  if e = .ENOENT then
    (notFound, if program.contains '/' then e.describe else "command not found")
  else if e = .EACCES then (notExecutable, e.describe)
  else (setupFailed, e.describe)

/-- Turns the child into the program of a segment. -/
def start (s : Segment) : Dialogue Syscalls Started := do
  match ← Dialogue.call (I := Syscalls) (.exec s.program s.argv) with
  | none => return .running
  | some e =>
    let (code, reason) := execFailure s.program e
    die s.program reason code

/-- All that a child does up to its program. -/
def setup (c : Child) : Dialogue Syscalls Started := do
  Dialogue.call (I := Syscalls) .defaultSignals
  if c.wiring.ownGroup then
    Dialogue.call (I := Syscalls) .ownGroup
  if let some fd := c.wiring.unused then
    let _ ← Dialogue.call (I := Syscalls) (.close fd)
  match ← Dialogue.call (I := Syscalls) (.enter c.workingDir) with
  | .error e => die c.workingDir e.describe setupFailed
  | .ok _ =>
    attachPipe c.wiring.input Fd.stdin <|
      attachPipe c.wiring.output Fd.stdout <|
        attachInput c.segment <| attachOutput c.segment <| start c.segment

end Child

end CommandShell
