import CommandShell.Machine.Schedule
import CommandShell.Shell.Call

/-!
# A machine as the surroundings of a shell

`Machine.host` answers what a shell asks for. The shell is one of the processes of the machine;
while it waits for a child the others run.
-/

namespace CommandShell

namespace Machine

/-- How many rounds the shell waits for a child. -/
def patience : Nat := 10000000

/-- The process of the shell. -/
def shellProcess (m : Machine) : Process :=
  (m.process? m.shell).getD
    { pid := m.shell, parent := init, group := m.shell, command := "", cwd := [],
      descriptors := {}, condition := .attended }

/-! ## Output -/

/-- Writes to a descriptor of the shell. -/
def writeDescriptor (m : Machine) (fd : Fd) (text : String) : Except IoError Unit × Machine :=
  match m.fileOf? m.shellProcess fd with
  | none => (.error (.os .EBADF), m)
  | some (file, f) =>
    match m.writeTo file f text.toUTF8 with
    | .moved _ m => (.ok (), m)
    | .failed e => (.error (.os e), m)
    | .waits => (.error (.os .EAGAIN), m)
    | .broken => (.error (.os .EPIPE), m)

/-- Writes to the output of the shell. -/
def writeOutput (m : Machine) (text : String) : Except IoError Unit × Machine :=
  match m.outlet with
  | none => m.writeDescriptor Fd.stdout text
  | some o =>
    let (result, o) := o.take text.toUTF8
    (result, { m with outlet := some o })

/-- Hands on what the output of the shell has taken. -/
def flushOutput (m : Machine) : Except IoError Unit :=
  if m.outlet.any (·.flushFails) then .error (.os .deviceFailure) else .ok ()

/-! ## Paths -/

/-- A call that takes a path can only be made if no NUL character stands in it. -/
def withPath {α : Type} (path : String) (result : Except Errno α) : Except IoError α :=
  if path.contains '\x00' then .error .nulInPath else result.mapError .os

/-! ## Children -/

/-- A child and all that it will do: it sets itself up, and if that comes to an end before it has
turned into its program, it ends too. -/
def childBody (child : Child) : Dialogue Syscalls Nat :=
  child.setup.bind fun
    | .running => .done 0
    | .ended code => .done code

/-- Makes a child of the shell. -/
def forkChild (m : Machine) (child : Child) : Except Errno Pid × Machine :=
  let make (m : Machine) : Except Errno Pid × Machine :=
    let (m, pid) := m.addProcess fun pid =>
      { m.shellProcess with pid, parent := m.shell, condition := .running (childBody child) }
    (.ok pid, m)
  match m.forksLeft with
  | none => make m
  | some 0 => (.error .EAGAIN, m)
  | some (n + 1) => make { m with forksLeft := some n }

/-- Waits until there is news about a child of the shell. -/
def awaitChild (m : Machine) (pid : Pid) : Option (Except Errno WaitReport × Machine) :=
  let ask (m : Machine) : Option (Except Errno WaitReport × Machine) :=
    match m.collect m.shellProcess pid with
    | .word _ word m => some (WaitReport.ofWord word, m)
    | .noChild => some (.error .ECHILD, m)
    | .nothingYet => none
  (m.runUntil ask patience).map (·.1)

/-- Asks for news about a child of the shell. -/
def askChild (m : Machine) (pid : Pid) : Except Errno WaitReport × Machine :=
  match m.collect m.shellProcess pid with
  | .word _ word m => (WaitReport.ofWord word, m)
  | .noChild => (.error .ECHILD, m)
  | .nothingYet => (.ok .stillAlive, m)

/-- Waits until all these children of the shell have ended, without collecting them. Numbers of
other processes are passed over. -/
def awaitEnds (m : Machine) (pids : List Pid) : Option Machine :=
  let ended (m : Machine) : Option Unit :=
    let pending := pids.any fun pid =>
      (m.process? pid).any fun p => p.parent == m.shell && !p.hasEnded
    if pending then none else some ()
  (m.runUntil ended patience).map (·.2)

/-! ## Input -/

/-- Moves on in the standard input of the shell, so that these bytes are left. -/
def leaveInput (m : Machine) (unread : List UInt8) : Machine :=
  let left : ByteArray := ⟨unread.toArray⟩
  let taken := m.inputLeft.size - left.size
  let m' := { m with inputLeft := left }
  match m.fileOf? m.shellProcess Fd.stdin with
  | some (file, .regular place offset access) =>
    m'.setOpenFile file (.regular place (offset + taken) access)
  | some (_, .pipe pipe _) =>
    let content := m.pipes.getD pipe .empty
    let content := if m.inputLeft.size < left.size then left else content.extract taken content.size
    { m' with pipes := m.pipes.setIfInBounds pipe content }
  | _ => m'

/-- What can be read from the standard input of the shell. -/
def input (m : Machine) : ByteArray :=
  match m.fileOf? m.shellProcess Fd.stdin with
  | some (_, .regular place offset _) =>
    let content := (m.disk.content? place.node).getD .empty
    content.extract offset content.size
  | some (_, .pipe pipe _) => m.pipes.getD pipe .empty
  | _ => .empty

/-- What others have made of the standard input of the shell, if it is not what was left to
them. -/
def renewedInput (m : Machine) : Option (List UInt8) × Machine :=
  let now := m.input
  if now == m.inputLeft then (none, m) else (some now.toList, { m with inputLeft := now })

/-! ## The answers -/

/-- Answers what the shell asks for. -/
def host : Dialogue.Host ShellCalls Machine
  | .write .output text, m => some (m.writeOutput text)
  | .write (.file fd) text, m => some (m.writeDescriptor fd text)
  | .flush .output, m => some (m.flushOutput, m)
  | .flush (.file _), m => some (.ok (), m)
  | .warn text, m => some ((), (m.writeDescriptor Fd.stderr text).2)
  | .isDirectory path, m =>
    let disk := m.view m.shell
    some (withPath path ((disk.lookup m.shellProcess.cwd path).map disk.isDirectory), m)
  | .canonical path, m =>
    let disk := m.viewByText m.shell
    some (withPath path ((disk.canonical m.shellProcess.cwd path).map (·.path)), m)
  | .openOutput path options, m =>
    let opened := do m.openPath m.shellProcess path (← options.openMode) true
    match withPath path opened with
    | .ok (m, fd) => some (.ok fd, m)
    | .error e => some (.error e, m)
  | .makePipe, m =>
    match m.makePipe m.shellProcess with
    | .ok (m, ends) => some (.ok ends, m)
    | .error e => some (.error e, m)
  | .fork child, m => some (m.forkChild child)
  | .ownGroup pid, m => some ((), m.modifyProcess pid fun p => { p with group := pid })
  | .close fd, m =>
    match m.withDescriptors m.shellProcess (m.shellProcess.descriptors.close fd) with
    | .error e => some (.error e, m)
    | .ok m => some (if m.closeFails then .error .deviceFailure else .ok (), m)
  | .wait pid true, m => m.awaitChild pid
  | .wait pid false, m => some (m.askChild pid)
  | .takeInterrupt, m => some (m.interrupted, { m with interrupted := false })
  | .leaveInput unread, m => some ((), m.leaveInput unread)
  | .renewedInput, m => some m.renewedInput

/-- Runs a part of the shell. -/
def play {α : Type} (m : Machine) (part : Shell α) : Option (α × Machine) :=
  Dialogue.play host patience part m

end Machine

end CommandShell
