import CommandShell.Machine.Boot
import CommandShell.Shell.Execute

/-!
# Sessions

A `Session` is a shell together with the machine it runs on. Things are done in it step by step:
command lines are executed, jobs are started and waited for, prompts are shown, files are made and
looked at. Each step can be given its own `Conditions`, such as an output that has little room or a
limit on descriptors, and comes with a `Report` of what it wrote and how it left the shell.

What children write is only reported when no background process is left, since until then more may
come at any time.
-/

namespace CommandShell

/-- The circumstances of one step. -/
structure Conditions where
  /-- How many bytes the output of the shell takes. -/
  outputRoom : Option Nat := none
  flushFails : Bool := false
  /-- What can be read from the standard input. -/
  input : Option ByteArray := none
  inputClosed : Bool := false
  /-- Descriptors must have numbers below this one. -/
  descriptorLimit : Option Nat := none
  /-- How many children the shell can make. -/
  forks : Option Nat := none
  closeFails : Bool := false

/-- What a step has written, and how it has left the shell. -/
structure Report where
  /-- What the shell wrote to its output. -/
  output : ByteArray
  /-- What arrived on the standard output and the standard error, unless there are background
  processes left. -/
  streams : Option (ByteArray × ByteArray)
  status : Option JobStatus
  workingDir : String
  jobs : Nat

/-- A shell and the machine it runs on. -/
structure Session where
  machine : Machine
  state : State
  /-- The directory that paths of fixtures and of things looked at start from. -/
  root : Location
  /-- The files that hold the standard output and the standard error. -/
  output : NodeId
  errors : NodeId

/-- A process that a job is made of. -/
inductive JobPart
  /-- Those that a command line starts. -/
  | line (text : String)
  /-- One that somebody else has started. -/
  | process (pid : Pid)

/-- What became of a part of a job. -/
inductive PartResult
  | started (job : Job)
  | foreign
  | failed (error : CommandError)

namespace Session

/-! ## Beginning -/

/-- Starts a session in a directory below the root, which is made if it is missing. The shell
starts in `dir`, seen from there; `entered` tells that it finds out itself where it is. -/
def start (root : String) (fixtures : List Fixture) (dir : String) (entered : Bool)
    (config : Config) (onTerminal : Bool) : Session :=
  let (disk, location) := Disk.standard.makeDirectories [] (Path.names root)
  let disk := fixtures.foldl (·.plant location ·) disk
  let boot := Boot.start disk location
  let m := boot.machine
  let path := if dir.isEmpty || dir = "." then root else Path.join root dir
  let cwd := match (m.view m.shell).enter location path with
    | .ok l => l
    | .error _ => location
  { machine := if entered then m.modifyShell ({ · with cwd }) else m
    state := State.start config (if entered then cwd.path else path) onTerminal
    root := location
    output := boot.output
    errors := boot.errors }

/-! ## Steps -/

/-- Arranges the circumstances of a step. -/
def arrange (m : Machine) (c : Conditions) : Machine :=
  let m :=
    { m with
      outlet := some { room := c.outputRoom, flushFails := c.flushFails }
      forksLeft := c.forks
      closeFails := c.closeFails }
  let m := match c.descriptorLimit with
    | some limit => m.modifyShell ({ · with limit })
    | none => m
  if c.inputClosed then m.setStdin none
  else
    match c.input with
    | some bytes => m.setStdinBytes bytes
    | none => m

/-- Puts back what the circumstances of a step have changed. -/
def restore (m : Machine) : Machine :=
  { m with forksLeft := none, closeFails := false }
    |>.modifyShell ({ · with limit := 1024 })
    |>.setStdin (some (Boot.emptyInput m.disk))

/-- What has arrived on the streams and has not been told yet. It is told if no background process
is left, and the files that hold it are emptied. -/
def tell (s : Session) : Option (ByteArray × ByteArray) × Session :=
  if s.state.jobs.isEmpty then
    (some (s.machine.captured s.output, s.machine.captured s.errors),
      { s with machine := (s.machine.clear s.output).clear s.errors })
  else (none, s)

/-- Does something in a session under conditions. There is no result if the machine cannot go on.
-/
def step {α : Type} (s : Session) (c : Conditions) (act : Session → Option (α × Session)) :
    Option (α × Report × Session) := do
  let (result, s) ← act { s with machine := arrange s.machine c }
  let output := match s.machine.outlet with
    | some o => o.text
    | none => .empty
  let s := { s with machine := restore s.machine }
  let (streams, s) := s.tell
  return (result,
    { output, streams, status := s.state.lastStatus, workingDir := Text.shown s.state.workingDir,
      jobs := s.state.jobs.length },
    s)

/-- Lets the shell do something. -/
def play {α : Type} (s : Session) (part : Shell α) : Option (α × Session) :=
  (s.machine.play part).map fun (a, machine) => (a, { s with machine })

/-- Lets the shell do something that changes its state. -/
def playState {α : Type} (s : Session) (part : State → Shell (State × α)) :
    Option (α × Session) :=
  (s.machine.play (part s.state)).map fun ((state, a), machine) =>
    (a, { s with machine, state })

/-! ## What can be done -/

/-- Executes a command line. -/
def execute (line : String) (s : Session) : Option (Flow × Session) :=
  s.playState (·.execute line)

/-- Runs a command line without reporting what goes wrong. -/
def run (line : String) (s : Session) : Option (Except CommandError Flow × Session) :=
  s.playState (·.run line)

/-- Carries out a built-in command. -/
def builtin (b : Builtin) (arguments : List String) (s : Session) :
    Option (Except BuiltinError Flow × Session) :=
  s.playState fun state => b.execute arguments state .output

/-- The prompt. -/
def prompt (s : Session) : Option (String × Session) :=
  s.play s.state.prompt

/-- Shows the prompt. -/
def render (s : Session) : Option (Except IoError Unit × Session) :=
  s.play s.state.render

/-- Reports the background processes that have ended. -/
def sweep (s : Session) : Option (Except IoError Unit × Session) :=
  s.playState (·.reportFinished)

/-- Reports the background processes once all of them have ended. -/
def reap (s : Session) : Option (Except IoError Unit × Session) := do
  let machine ← s.machine.awaitEnds s.state.jobs
  { s with machine }.sweep

/-- Starts the processes of one part of a job. -/
def startPart (s : State) (background : Bool) : JobPart → Shell PartResult
  | .process _ => .done .foreign
  | .line text =>
    match planLine text s.config.maxArgs with
    | .error e => .done (.failed e)
    | .ok none => .done (.failed (.plan .emptyCommand))
    | .ok (some plan) => do
      match ← launch { plan with background := plan.background || background } s.workingDir with
      | .ok job => return .started job
      | .error e => return .failed (.launch e)

/-- Starts the parts of a job one after the other. The job is one in the background from the first
part on that is. -/
def startParts (s : State) (background : Bool) :
    List JobPart → Shell (List PartResult × Job)
  | [] => .done ([], ⟨[], background⟩)
  | part :: rest => do
    let result ← startPart s background part
    let (pids, here) := match part, result with
      | .process pid, _ => ([pid], background)
      | _, .started job => (job.pids, background || job.background)
      | _, _ => ([], background)
    let (results, job) ← startParts s here rest
    return (result :: results, { job with pids := pids ++ job.pids })

/-- Starts a job of parts. -/
def startJob (parts : List JobPart) (background : Bool) (s : Session) :
    Option ((List PartResult × Job) × Session) :=
  s.play (startParts s.state background parts)

/-- Starts a job of parts and takes it into the table. Tells of each of its processes whether the
table holds it. -/
def trackJob (parts : List JobPart) (background : Bool) (s : Session) :
    Option ((List PartResult × Job × List Bool) × Session) := do
  let ((results, job), s) ← s.startJob parts background
  let state := s.state.track job
  return ((results, job, job.pids.map state.jobs.contains), { s with state })

/-- Starts a job of parts and waits for it. -/
def awaitJob (parts : List JobPart) (background : Bool) (s : Session) :
    Option ((List PartResult × Job × Except WaitError JobStatus) × Session) := do
  let ((results, job), s) ← s.startJob parts background
  let (status, s) ← s.play job.wait
  return ((results, job, status), s)

/-! ## Signals -/

/-- Sends the shell an interrupt. -/
def interrupt (s : Session) : Option (Unit × Session) :=
  let shell := s.machine.shell
  some ((), { s with machine := s.machine.send shell shell Signal.SIGINT.number })

/-- Asks whether an interrupt has been noted, and forgets it. -/
def takeInterrupt (s : Session) : Option (Bool × Session) :=
  s.play (Shell.call .takeInterrupt)

/-- Changes what the shell does about signals, and tells what that is. -/
def withDispositions (change : Dispositions → Dispositions) (s : Session) :
    Option (Dispositions × Session) :=
  let machine := s.machine.modifyShell fun p => { p with dispositions := change p.dispositions }
  some (machine.shellProcess.dispositions, { s with machine })

/-! ## Settings and files -/

/-- Replaces the settings. -/
def configure (config : Config) (s : Session) : Option (Unit × Session) :=
  some ((), { s with state := { s.state with config } })

/-- Adds fixtures. -/
def plant (fixtures : List Fixture) (s : Session) : Option (Unit × Session) :=
  let disk := fixtures.foldl (·.plant s.root ·) s.machine.disk
  some ((), { s with machine := { s.machine with disk } })

/-- Removes a file or a tree. Tells whether there was one. -/
def remove (path : String) (s : Session) : Option (Bool × Session) :=
  let (removed, disk) := s.machine.disk.removeTree s.root path
  some (removed, { s with machine := { s.machine with disk } })

/-- The contents of a file, if there is one. -/
def contents (path : String) (s : Session) : Option (Option ByteArray × Session) :=
  some (((s.machine.view s.machine.shell).readAll s.root path).toOption, s)

/-- Everything below the root. -/
def listing (s : Session) : Option (List Disk.Entry × Session) :=
  some (s.machine.disk.listing s.root.node "" Disk.maxDepth, s)

end Session

end CommandShell
