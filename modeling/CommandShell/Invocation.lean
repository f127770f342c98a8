import CommandShell.EnvFile
import CommandShell.LogFilter
import CommandShell.Machine.Settings
import CommandShell.Shell.Loop

/-!
# The shell as a program

`Invocation.run` is the whole life of a shell: it takes in the environment file, loads its
settings, makes its log file, and then reads and executes lines until there are no more. It runs on
a machine of its own, whose standard streams can be looked at afterwards.
-/

namespace CommandShell

/-- Something that happens at a pipe from which a shell reads. -/
inductive InputPiece
  | bytes (bytes : ByteArray)
  /-- An interrupt comes while the shell waits for more. -/
  | interrupt

/-- What stands behind the standard input of a shell. -/
inductive InputSource
  | file (bytes : ByteArray)
  | pipe (pieces : List InputPiece)
  /-- A directory, which cannot be read. -/
  | directory

namespace InputSource

/-- What a shell meets as it reads. -/
def events : InputSource → List InputEvent
  | .directory => [.failure .EISDIR]
  | .file bytes => Input.blocks bytes.toList
  | .pipe pieces =>
    pieces.flatMap fun
      | .bytes b => Input.blocks b.toList
      | .interrupt => [.interrupt, .failure .EINTR]

/-- Puts the source behind the standard input of a shell. A pipe holds what has been written before
the first interrupt. -/
def attach (source : InputSource) (m : Machine) (dir : Location) : Machine :=
  match source with
  | .directory => m.setStdin (some (.directory dir))
  | .file bytes => m.setStdinBytes bytes
  | .pipe _ => m.setStdinPipe ⟨(Input.leadingBytes source.events).1.toArray⟩

end InputSource

/-- How a shell is started. -/
structure Invocation where
  /-- The directory it starts in. -/
  root : String
  fixtures : List Fixture := []
  /-- Variables that are added to its environment. -/
  additions : Environment := []
  input : InputSource

/-- What a shell leaves behind. -/
structure Aftermath where
  code : Nat
  output : ByteArray
  errors : ByteArray
  disk : Disk
  root : Location

namespace Invocation

/-- Exit code of a shell whose settings cannot be used. -/
def badConfig : Nat := 1

/-- Exit code of a shell that cannot make its log file or its environment. -/
def broken : Nat := 101

/-- A change of the disk that needs a path, which cannot be made if a NUL character stands in it. -/
def withPath {α : Type} (path : String) (change : Except Errno α) : Except Errno α :=
  if path.contains '\x00' then .error .EINVAL else change

/-- Makes a directory, and those above it if it cannot be made without. It is given by its names,
the last one first. Tells whether it is there in the end; what has been made on the way stays. -/
def makeAbove (disk : Disk) (cwd : Location) (absolute : Bool) : List String → Disk × Bool
  | [] => (disk, true)
  | name :: up =>
    let path := Path.ofSteps absolute (name :: up).reverse
    let isThere (disk : Disk) (e : Errno) : Disk × Bool :=
      (disk, e = .EEXIST && (disk.enter cwd path).toBool)
    match withPath path (disk.makeDirectory cwd path 0o777) with
    | .ok disk => (disk, true)
    | .error e =>
      if e ≠ .ENOENT then isThere disk e
      else
        match makeAbove disk cwd absolute up with
        | (disk, false) => (disk, false)
        | (disk, true) =>
          match withPath path (disk.makeDirectory cwd path 0o777) with
          | .ok disk => (disk, true)
          | .error e => isThere disk e

/-- Opens a log file, with the directories above it if it cannot be made without. An existing one
is kept. The file stays open. Tells whether there is one in the end. -/
def openLog (m : Machine) (config : Config) : Machine × Bool :=
  let path := Path.join config.logDir config.logFile
  let cwd := m.shellProcess.cwd
  let attempt (m : Machine) : Machine × Bool :=
    match withPath path (m.openPath m.shellProcess path (.write .append 0o666) true) with
    | .ok (m, _) => (m, true)
    | .error _ => (m, false)
  match attempt m with
  | (m, true) => (m, true)
  | (m, false) =>
    let above := (Path.steps path).reverse.drop 1
    match makeAbove (m.view m.shell) cwd (Path.isAbsolute path) above with
    | (disk, true) => attempt (m.withView disk)
    | (disk, false) => (m.withView disk, false)

/-- Writes what there is to be said about the filters of the log. -/
def reportFilters (m : Machine) (environment : Environment) : Machine :=
  let directives := (environment.lookup LogFilter.variableName).getD ""
  (LogFilter.complaints directives).foldl
    (fun m line => (m.writeDescriptor Fd.stderr line).2) m

/-- The lines of a shell, from its settings on. What is left of the input may have been read
before. -/
def runLoop (m : Machine) (config : Config) (source : InputSource) : Option (Ending × Machine) :=
  let state := State.start config m.shellProcess.cwd.path false
  let input : Input := { events := source.events }
  match m.renewedInput with
  | (none, m) => m.play (state.serve input)
  | (some bytes, m) => m.play (state.serve (input.renew bytes))

/-- Runs a shell from its start to its end. There is no result if the machine cannot go on. -/
def run (i : Invocation) : Option Aftermath := do
  let (disk, root) := Disk.standard.makeDirectories [] (Path.names i.root)
  let boot := Boot.start (i.fixtures.foldl (·.plant root ·) disk) root
  let m := i.input.attach boot.machine root
  let aftermath (code : Nat) (m : Machine) : Aftermath :=
    { code, output := m.captured boot.output, errors := m.captured boot.errors, disk := m.disk,
      root }
  let kept := Boot.environment.filter fun v => (i.additions.lookup v.1).isNone
  let given := kept ++ i.additions
  let extended := match EnvFile.find? (m.view m.shell) root with
    | some bytes => EnvFile.extend given bytes
    | none => some given
  let some environment := extended | return aftermath broken m
  let m := m.modifyShell ({ · with environment })
  match m.loadConfig (environment.lookup Config.fileVariable) with
  | (.error _, m) => return aftermath badConfig m
  | (.ok config, m) =>
    match openLog m config with
    | (m, false) => return aftermath broken m
    | (m, true) =>
      let (ending, m) ← runLoop (reportFilters m environment) config i.input
      return aftermath ending.code m

end Invocation

end CommandShell
