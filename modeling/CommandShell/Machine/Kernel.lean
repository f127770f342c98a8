import CommandShell.Machine.View
import CommandShell.Program.Catalogue
import CommandShell.System.ProgramFile
import CommandShell.System.Shebang

/-!
# System calls of processes

How a `Machine` answers a system call. Most calls are answered at once. A read from an empty pipe,
a write to a full one and a wait for a child that still runs are `blocked`: they are tried again
when others have run. A few calls change what the process has left to do instead of answering:
it turns into another program, or a signal ends or stops it.
-/

namespace CommandShell

namespace Machine

/-- What becomes of a system call. -/
inductive Outcome (r : Syscall)
  | answer (a : r.Answer) (m : Machine)
  /-- An answer that the process gets before something happens that may concern itself. -/
  | answerBefore (a : r.Answer) (event : Machine → Machine)
  | blocked
  /-- The process has other things to do than to take an answer. -/
  | replaced (m : Machine)

/-! ## Reading and writing -/

/-- How many bytes a pipe holds before writers have to wait. -/
def pipeCapacity : Nat := 65536

/-- The bytes `bytes` put over `content` at a position, with zeros in a gap. -/
def overlay (content bytes : ByteArray) (offset : Nat) : ByteArray :=
  if offset = content.size then content ++ bytes
  else
    let gap : ByteArray := ⟨Array.replicate (offset - content.size) 0⟩
    content.extract 0 offset ++ gap ++ bytes ++
      content.extract (offset + bytes.size) content.size

/-- What an attempt to move bytes comes to. -/
inductive Transfer (α : Type)
  | moved (result : α) (m : Machine)
  | failed (e : Errno)
  /-- The pipe is empty or full. -/
  | waits
  /-- Nobody reads the pipe. -/
  | broken

/-- What comes out of a device that has an end to nothing. -/
def endless (kind : Device) (max : Nat) : ByteArray :=
  match kind with
  | .random => ⟨((List.range max).map fun n => UInt8.ofNat (n * 167 + 13)).toArray⟩
  | _ => ⟨Array.replicate max 0⟩

/-- Reads from an open file. -/
def readFrom (m : Machine) (file : Nat) (f : OpenFile) (max : Nat) : Transfer ByteArray :=
  if !f.isReadable then .failed .EBADF
  else
    match f with
    | .regular place offset access =>
      let content := (m.disk.content? place.node).getD .empty
      let bytes := content.extract offset (offset + max)
      .moved bytes (m.setOpenFile file (.regular place (offset + bytes.size) access))
    | .directory _ => .failed .EISDIR
    | .device _ kind _ => .moved (if kind = .null then .empty else endless kind max) m
    | .report place text? offset =>
      match text? <|> (m.view m.shell).content? place.node with
      | none => .failed .ESRCH
      | some text =>
        let bytes := text.extract offset (offset + max)
        .moved bytes (m.setOpenFile file (.report place (some text) (offset + bytes.size)))
    | .pipe pipe _ =>
      let content := m.pipes.getD pipe .empty
      if content.isEmpty then
        if m.hasWriter pipe then .waits else .moved .empty m
      else
        .moved (content.extract 0 max)
          { m with pipes := m.pipes.setIfInBounds pipe (content.extract max content.size) }

/-- Writes to an open file. -/
def writeTo (m : Machine) (file : Nat) (f : OpenFile) (bytes : ByteArray) : Transfer Unit :=
  if !f.isWritable then .failed .EBADF
  else
    match f with
    | .regular place offset access =>
      match m.disk.node place.node with
      | .file mode content =>
        let offset := if access.appends then content.size else offset
        let changed := .file mode (overlay content bytes offset)
        let m := { m with disk := m.disk.set place.node changed }
        .moved () (m.setOpenFile file (.regular place (offset + bytes.size) access))
      | _ => .failed .EBADF
    | .directory _ | .report _ _ _ => .failed .EBADF
    | .device _ kind _ => if kind = .full then .failed .ENOSPC else .moved () m
    | .pipe pipe _ =>
      if !m.hasReader pipe then .broken
      else
        let content := m.pipes.getD pipe .empty
        if content.size ≥ pipeCapacity then .waits
        else .moved () { m with pipes := m.pipes.setIfInBounds pipe (content ++ bytes) }

/-! ## Opening -/

/-- What stands behind a place once it is open. -/
def openPlace (disk : Disk) (place : Location) (access : Access) : OpenFile :=
  match disk.node place.node with
  | .directory _ => .directory place
  | .device kind => .device place kind access
  | .pipe number => .pipe number access
  | _ =>
    match place.node with
    | .stored _ => .regular place 0 access
    | _ => .report place none 0

/-- A path leads to the file of a program that is running, which nobody may write to. -/
def isRunning (m : Machine) (disk : Disk) (p : Process) (path : String) : Bool :=
  match disk.lookup p.cwd path with
  | .ok l => disk.allows l.node .write && m.processes.any fun q =>
      !q.hasEnded && q.executable.node == l.node
  | .error _ => false

/-- Where a path leads that is opened to be written to. -/
def openOutput (disk : Disk) (cwd : Location) (path : String) (flags : OutputFlags)
    (permitted : Nat) : Except Errno (Disk × Location) := do
  if !flags.creates then
    let _ ← disk.lookup cwd path
  disk.openWrite cwd path flags.truncates permitted

/-- Opens a path for a process. A free descriptor is looked for before the path is. -/
def openPath (m : Machine) (p : Process) (path : String) (mode : OpenMode) (closeOnExec : Bool) :
    Except Errno (Machine × Fd) := do
  if p.descriptors.lowestFree ≥ p.limit then .error .EMFILE
  else
    let disk := m.view p.pid
    if mode ≠ .read && m.isRunning disk p path then .error .ETXTBSY
    let (disk, place) ← match mode with
      | .read => do pure (disk, ← disk.openRead p.cwd path)
      | .output flags => openOutput disk p.cwd path flags (p.permitted flags.permissions)
      | .update flags => do
        let (disk, place) ← openOutput disk p.cwd path flags (p.permitted flags.permissions)
        disk.demand place.node [.read]
        pure (disk, place)
    (m.withView disk).install p (openPlace disk place (.ofMode mode)) closeOnExec

/-- Makes a pipe whose ends get the two lowest free descriptors of a process. -/
def makePipe (m : Machine) (p : Process) : Except Errno (Machine × Fd × Fd) := do
  let pipe := m.pipes.size
  let m := { m with pipes := m.pipes.push .empty }
  let (m, read) ← m.install p (.pipeReader pipe) true
  let p := (m.process? p.pid).getD p
  let (m, write) ← m.install p (.pipeWriter pipe) true
  return (m, read, write)

/-- What kind of thing a node is. The size of a text that is not there yet counts as nothing. -/
def kindOf (disk : Disk) (node : NodeId) : FileKind :=
  match disk.node node with
  | .file mode content => .regular node content.size mode
  | .readOnly mode content =>
    match node with
    | .stored _ => .regular node content.size mode
    | _ => .regular node 0 mode
  | .directory d => .directory node d.mode
  | .link _ | .shortcut _ _ => .link node
  | .device _ => .device node
  | .pipe _ => .pipe node

/-- What kind of thing a path leads to. -/
def inspect (m : Machine) (p : Process) (path : String) (follow : Bool) : Except Errno FileKind :=
  let disk := m.view p.pid
  (disk.lookup p.cwd path follow).map fun l => kindOf disk l.node

/-- A process may use a thing in these ways. -/
def access (m : Machine) (p : Process) (path : String) (rights : List Disk.Right) :
    Except Errno Unit := do
  let disk := m.view p.pid
  disk.demand (← disk.lookup p.cwd path).node rights

/-- The names in a directory, which is open while they are read. -/
def list (m : Machine) (p : Process) (path : String) : Except Errno (List String) := do
  if p.descriptors.lowestFree ≥ p.limit then .error .EMFILE
  let disk := m.view p.pid
  let place ← disk.lookup p.cwd path
  if !disk.isDirectory place then .error .ENOTDIR
  disk.demand place.node [.read]
  let (m, _) ← m.install p (.directory place) true
  match (m.view p.pid).directory? place.node with
  | some d => return d.entries.map (·.1)
  | none => .error .ENOTDIR

/-! ## Turning into a program -/

/-- How many scripts may stand behind each other as interpreters. -/
def maxInterpreters : Nat := 5

/-- What a process turns into. -/
structure Loaded where
  program : String
  /-- The file of the program. -/
  place : Location
  argv : List String

/-- How many bytes an argument or a variable may have, with the zero after it. -/
def maxWord : Nat := 131072

/-- How many bytes all of them may have together, with what points to them. -/
def maxWords : Nat := 2097152

/-- The variables of a process, as the words that a program is given. -/
def environmentWords (p : Process) : List String :=
  p.environment.map fun (name, value) => name ++ "=" ++ value

/-- How many bytes words have, with a zero after each of them. -/
def wordBytes (words : List String) : Nat :=
  words.foldl (fun sum word => sum + Text.size word + 1) 0

/-- The arguments and the variables of a new program are not too much for it. Each of them has a
pointer of eight bytes to it, and the name of its file is there too. -/
def wordsFit (path : String) (argv environment : List String) (argc : Nat) : Bool :=
  let words := path :: (argv ++ environment)
  (words.all fun word => Text.size word < maxWord) &&
    wordBytes words + 8 * (argc + environment.length) ≤ maxWords

/-- Where the file of a path is that is to be executed. The empty path is that of the working
directory. A file that somebody may be writing cannot be executed. -/
def executable (m : Machine) (p : Process) (path : String) : Except Errno Location := do
  if path.isEmpty then .error .EACCES
  let disk := m.view p.pid
  let l ← disk.lookup p.cwd path
  if disk.isDirectory l then .error .EACCES
  disk.demand l.node [.execute]
  if m.isWritten l.node then .error .ETXTBSY
  return l

/-- The program that a file is, with the arguments it gets. A script is the program of its
interpreter, which is looked up before the scripts are counted. `fits` tells whether arguments are
not too much. -/
def loadFile (m : Machine) (p : Process) (path : String) (argv : List String)
    (fits : List String → Bool) : Nat → Except Errno Loaded
  | 0 => do
    let _ ← m.executable p path
    .error .ELOOP
  | scripts + 1 => do
    let place ← m.executable p path
    if !fits argv then .error .E2BIG
    let content := (m.disk.content? place.node).getD .empty
    match ProgramFile.program? content, Shebang.read? content with
    | some program, _ => return ⟨program, place, argv⟩
    | none, none => .error .ENOEXEC
    | none, some line =>
      let argv := line.interpreter :: line.argument.toList ++ path :: argv.drop 1
      m.loadFile p line.interpreter argv fits scripts

/-- The shell that runs executable files without an interpreter. -/
def fallbackShell : String := "/bin/sh"

/-- The program that a path leads to, and the path. -/
def loadOnce (m : Machine) (p : Process) (path : String) (argv : List String) :
    Except Errno (String × Loaded) :=
  let fits (words : List String) : Bool :=
    wordsFit path words (environmentWords p) (max argv.length 1)
  (m.loadFile p path argv fits (maxInterpreters + 1)).map (path, ·)

/-- As `loadOnce`, but a file that is no program is a script for the standard shell. -/
def loadPath (m : Machine) (p : Process) (path : String) (argv : List String) :
    Except Errno (String × Loaded) :=
  match m.loadOnce p path argv with
  | .error e =>
    if e = .ENOEXEC then
      m.loadOnce p fallbackShell (fallbackShell :: path :: argv.drop 1)
    else .error e
  | loaded => loaded

/-- Looks for a program in directories; an empty name of one stands for the working directory. A
file that may not be run does not end the search, but it is what the search reports if nothing else
is found. Otherwise it reports what was wrong with the last directory. -/
def search (m : Machine) (p : Process) (name : String) (argv : List String) (denied : Bool)
    (last : Errno) : List String → Except Errno (String × Loaded)
  | [] => .error (if denied then .EACCES else last)
  | dir :: rest =>
    match m.loadPath p (if dir.isEmpty then name else dir ++ "/" ++ name) argv with
    | .ok loaded => .ok loaded
    | .error e =>
      if e = .EACCES then m.search p name argv true e rest
      else if e = .ENOENT || e = .ENOTDIR then m.search p name argv denied e rest
      else .error e

/-- The directories that a process searches for programs. -/
def searchPath (p : Process) : List String :=
  ((p.environment.lookup "PATH").getD "/bin:/usr/bin").splitOn ":"

/-- Finds the program for a name, which is searched for if it has no slash. -/
def findProgram (m : Machine) (p : Process) (name : String) (argv : List String) :
    Except Errno (String × Loaded) :=
  if name.isEmpty then .error .ENOENT
  else if name.contains '/' then m.loadPath p name argv
  else m.search p name argv false .ENOENT (searchPath p)

/-- What a program does that cannot open its libraries. -/
def withoutLibraries : Program := fun argv _ => do
  Program.complain
    (argv.headD "" ++ ": error while loading shared libraries: libc.so.6: " ++
      "cannot open shared object file: Error 24\n")
  return 127

/-- The name of a process that has executed a path, which has no more than fifteen bytes. -/
def commandName (path : String) : String :=
  Text.ofBytes ((Text.bytes (Program.baseName path)).extract 0 15)

/-- Turns a process into the program that a path has led to. -/
def become (m : Machine) (p : Process) (path : String) (loaded : Loaded) : Machine :=
  let descriptors := p.descriptors.afterExec
  let program :=
    if descriptors.lowestFree < p.limit then Catalogue.program loaded.program else withoutLibraries
  m.modifyProcess p.pid fun p =>
    { p with
      command := commandName path
      executable := loaded.place
      arguments := loaded.argv
      descriptors
      dispositions := p.dispositions.afterExec
      condition := .running (program loaded.argv p.environment) }

/-! ## Waiting -/

/-- What a process hears about one of its children. -/
inductive News
  | word (child : Pid) (word : Nat) (m : Machine)
  | nothingYet
  | noChild

/-- A wait of the process `parent` for a number is about the process `child`. -/
def isAwaited (parent child : Process) (pid : Pid) : Bool :=
  child.parent == parent.pid &&
    if pid > 0 then child.pid == pid
    else if pid = 0 then child.group == parent.group
    else pid == -1 || child.group == -pid

/-- What there is to be heard about one child. One that has ended is collected, and a stop is told
once. -/
def newsOf? (m : Machine) (c : Process) : Option News :=
  match c.condition with
  | .ended word => some (.word c.pid word (m.dropProcess c.pid))
  | .stopped number false rest =>
    some (.word c.pid (number * 256 + 127)
      (m.modifyProcess c.pid ({ · with condition := .stopped number true rest })))
  | _ => none

/-- Asks about children, of whom the oldest comes first. -/
def collect (m : Machine) (parent : Process) (pid : Pid) : News :=
  match m.processes.filter (isAwaited parent · pid) with
  | [] => .noChild
  | children => (children.findSome? m.newsOf?).getD .nothingYet

/-! ## Signals -/

/-- The call of a process has to wait for others. -/
def mustWait (m : Machine) (p : Process) : Syscall → Bool
  | .read fd max =>
    match m.fileOf? p fd with
    | some (file, f) => match m.readFrom file f max with
      | .waits => true
      | _ => false
    | none => false
  | .write fd bytes =>
    match m.fileOf? p fd with
    | some (file, f) => match m.writeTo file f bytes with
      | .waits => true
      | _ => false
    | none => false
  | .wait pid =>
    match m.collect p pid with
    | .nothingYet => true
    | _ => false
  | _ => false

/-- The answer to a call that a signal has cut short. -/
def cutShort? : (r : Syscall) → Option r.Answer
  | .read _ _ => some (.error .EINTR : Except Errno ByteArray)
  | .write _ _ => some (.error .EINTR : Except Errno Unit)
  | .wait _ => some (.error .EINTR : Except Errno (Pid × Nat))
  | _ => none

/-- Lets a process take note of a signal, which ends what it is waiting for. -/
def note (m : Machine) (p : Process) (number : Nat) : Machine :=
  let condition := match p.condition with
    | .running (.ask r again next) =>
      match cutShort? r with
      | some answer =>
        if m.mustWait p r then .running (Dialogue.resume (I := Syscalls) again next answer)
        else p.condition
      | none => p.condition
    | .asleep _ rest => .running rest
    | condition => condition
  m.modifyProcess p.pid fun p => { p with condition, caught := p.caught.insert number }

/-- Ends a process, and tells its parent if the parent wants to know. -/
def conclude (m : Machine) (p : Process) (word : Nat) : Machine :=
  let m := m.finish p.pid word
  match m.process? p.parent with
  | some parent =>
    if parent.dispositions.of Signal.SIGCHLD.number = .handled then
      m.note parent Signal.SIGCHLD.number
    else m
  | none => m

/-- Does to a process what a signal does. -/
def strike (m : Machine) (p : Process) (number : Nat) : Machine :=
  let stop (m : Machine) (told : Bool) : Machine :=
    match p.condition with
    | .running rest | .asleep _ rest =>
      m.modifyProcess p.pid ({ · with condition := .stopped number told rest })
    | _ => m
  if p.hasEnded then m
  else if p.pid = m.shell then
    if number = Signal.SIGINT.number && p.dispositions.interrupt == .handled then
      { m with interrupted := true }
    else m
  else if number = Signal.SIGKILL.number then m.conclude p number
  else if p.traced then stop m false
  else
    match p.dispositions.of number with
    | .ignored => m
    | .handled => m.note p number
    | .default =>
      match Signal.effect number with
      | .ends => m.conclude p number
      | .stops => stop m true
      | .resumes =>
        match p.condition with
        | .stopped _ _ rest => m.modifyProcess p.pid ({ · with condition := .running rest })
        | _ => m
      | .nothing => m

/-- The processes that a signal goes to: the one of a number, those of the group of the sender for
0, all but the sender for -1, and those of another group for its number with a minus sign. -/
def targets (m : Machine) (sender pid : Pid) : List Process :=
  let group := ((m.process? sender).map (·.group)).getD sender
  m.processes.filter fun p =>
    if pid > 0 then p.pid == pid
    else if pid = 0 then p.group == group
    else if pid = -1 then p.pid != sender
    else p.group == -pid

/-- Why a signal cannot be sent, if it cannot. -/
def signalError? (m : Machine) (sender pid : Pid) (number : Nat) : Option Errno :=
  if number > Signal.highest then some .EINVAL
  else if (m.targets sender pid).isEmpty then some .ESRCH
  else none

/-- Sends a signal. The signal 0 only asks whether anybody is there. -/
def send (m : Machine) (sender pid : Pid) (number : Nat) : Machine :=
  if number = 0 then m
  else
    (m.targets sender pid).foldl (fun m p => match m.process? p.pid with
      | some p => m.strike p number
      | none => m) m

/-! ## The calls -/

/-- Answers with an error, or with a success that leaves the machine changed. -/
def settleUnit {r : Syscall} (m : Machine) (h : r.Answer = Except Errno Unit)
    (result : Except Errno Machine) : Outcome r :=
  match result with
  | .ok m => .answer (h ▸ (.ok () : Except Errno Unit)) m
  | .error e => .answer (h ▸ (.error e : Except Errno Unit)) m

/-- A change of the descriptors of a process. -/
def withDescriptors (m : Machine) (p : Process) (result : Except Errno Descriptors) :
    Except Errno Machine :=
  result.map fun descriptors => m.modifyProcess p.pid ({ · with descriptors })

/-- A change of the disk. -/
def withDisk (m : Machine) (result : Except Errno Disk) : Except Errno Machine :=
  result.map m.withView

/-- Answers a system call of a process. The calls that make a copy of it or put it to sleep are not
answered here. -/
def perform (m : Machine) (p : Process) : (r : Syscall) → Outcome r
  | .defaultSignals =>
    .answer (r := .defaultSignals) ()
      (m.modifyProcess p.pid fun p => { p with dispositions := p.dispositions.restore })
  | .ownGroup =>
    .answer (r := .ownGroup) () (m.modifyProcess p.pid fun p => { p with group := p.pid })
  | .enter path =>
    m.settleUnit rfl <|
      ((m.view p.pid).enter p.cwd path).map fun cwd => m.modifyProcess p.pid ({ · with cwd })
  | .openFile path mode closeOnExec =>
    match m.openPath p path mode closeOnExec with
    | .ok (m, fd) => .answer (r := .openFile path mode closeOnExec) (.ok fd) m
    | .error e => .answer (r := .openFile path mode closeOnExec) (.error e) m
  | .close fd => m.settleUnit rfl (m.withDescriptors p (p.descriptors.close fd))
  | .duplicate source target =>
    m.settleUnit rfl (m.withDescriptors p (p.descriptors.duplicate source target))
  | .duplicateAbove source lowest =>
    match p.descriptors.duplicateAbove p.limit source lowest with
    | .ok (fd, descriptors) =>
      .answer (r := .duplicateAbove source lowest) (.ok fd)
        (m.modifyProcess p.pid ({ · with descriptors }))
    | .error e => .answer (r := .duplicateAbove source lowest) (.error e) m
  | .keepOnExec fd => m.settleUnit rfl (m.withDescriptors p (p.descriptors.keepOnExec fd))
  | .setEnvironment environment =>
    .answer (r := .setEnvironment environment) () (m.modifyProcess p.pid ({ · with environment }))
  | .exec program argv =>
    match m.findProgram p program argv with
    | .ok (path, loaded) => .replaced (m.become p path loaded)
    | .error e => .answer (r := .exec program argv) (some e) m
  | .execAt path argv =>
    match m.loadPath p path argv with
    | .ok (path, loaded) => .replaced (m.become p path loaded)
    | .error e => .answer (r := .execAt path argv) (some e) m
  | .read fd max =>
    match m.fileOf? p fd with
    | none => .answer (r := .read fd max) (.error .EBADF) m
    | some (file, f) =>
      match m.readFrom file f max with
      | .moved bytes m => .answer (r := .read fd max) (.ok bytes) m
      | .failed e => .answer (r := .read fd max) (.error e) m
      | .waits | .broken => .blocked
  | .write fd bytes =>
    match m.fileOf? p fd with
    | none => m.settleUnit rfl (.error .EBADF)
    | some (file, f) =>
      match m.writeTo file f bytes with
      | .moved _ m => m.settleUnit rfl (.ok m)
      | .failed e => m.settleUnit rfl (.error e)
      | .waits => .blocked
      | .broken =>
        if p.dispositions.brokenPipe = .default then
          .replaced (m.strike p Signal.SIGPIPE.number)
        else m.settleUnit rfl (.error .EPIPE)
  | .tell fd =>
    .answer (r := .tell fd)
      (match m.fileOf? p fd with
        | none => .error .EBADF
        | some (_, .regular _ offset _) | some (_, .report _ _ offset) => .ok offset
        | some (_, .pipe _ _) => .error .ESPIPE
        | some _ => .ok 0) m
  | .seek fd position =>
    m.settleUnit rfl <|
      match m.fileOf? p fd with
      | none => .error .EBADF
      | some (file, .regular place _ access) =>
        .ok (m.setOpenFile file (.regular place position access))
      | some (file, .report place text _) => .ok (m.setOpenFile file (.report place text position))
      | some (_, .pipe _ _) => .error .ESPIPE
      | some _ => .ok m
  | .makePipe =>
    match m.makePipe p with
    | .ok (m, ends) => .answer (r := .makePipe) (.ok ends) m
    | .error e => .answer (r := .makePipe) (.error e) m
  | .fork => .answer (r := .fork) (.error .EAGAIN) m
  | .wait pid =>
    match m.collect p pid with
    | .word child word m => .answer (r := .wait pid) (.ok (child, word)) m
    | .noChild => .answer (r := .wait pid) (.error .ECHILD) m
    | .nothingYet => .blocked
  | .kill pid number =>
    match m.signalError? p.pid pid number with
    | some e => m.settleUnit rfl (.error e)
    | none => .answerBefore (r := .kill pid number) (.ok ()) (·.send p.pid pid number)
  | .disposition number => .answer (r := .disposition number) (p.dispositions.of number) m
  | .dispose number wanted =>
    m.settleUnit rfl <|
      if number = 0 || number > Signal.highest || number = Signal.SIGKILL.number ||
          number = Signal.SIGSTOP.number then .error .EINVAL
      else
        .ok (m.modifyProcess p.pid fun p =>
          { p with dispositions := p.dispositions.arrange number wanted })
  | .takeCaught =>
    .answer (r := .takeCaught) p.caught (m.modifyProcess p.pid fun p => { p with caught := [] })
  | .sleep duration => .answer (r := .sleep duration) () m
  | .processId => .answer (r := .processId) p.pid m
  | .parentId => .answer (r := .parentId) p.parent m
  | .whereAmI =>
    .answer (r := .whereAmI)
      (if (m.view p.pid).isCurrent p.cwd then .ok p.cwd.path else .error .ENOENT) m
  | .inspect path follow =>
    .answer (r := .inspect path follow) (m.inspect p path follow) m
  | .inspectOpen fd =>
    .answer (r := .inspectOpen fd)
      (match m.fileOf? p fd with
        | some (_, f) => .ok (kindOf (m.view p.pid) f.place.node)
        | none => .error .EBADF) m
  | .access path rights => .answer (r := .access path rights) (m.access p path rights) m
  | .list path =>
    .answer (r := .list path) (m.list p path) m
  | .makeDirectory path mode =>
    m.settleUnit rfl (m.withDisk ((m.view p.pid).makeDirectory p.cwd path (p.permitted mode)))
  | .removeDirectory path =>
    m.settleUnit rfl (m.withDisk ((m.view p.pid).removeDirectory p.cwd path))
  | .remove path => m.settleUnit rfl (m.withDisk ((m.view p.pid).unlink p.cwd path))
  | .rename source target =>
    m.settleUnit rfl <|
      ((m.view p.pid).rename p.cwd source target).map fun (disk, change) =>
        (m.withView disk).relocate change
  | .makeLink path target =>
    m.settleUnit rfl (m.withDisk ((m.view p.pid).makeLink p.cwd path target))
  | .shareFile source target =>
    m.settleUnit rfl (m.withDisk ((m.view p.pid).shareFile p.cwd source target))
  | .readLink path => .answer (r := .readLink path) ((m.view p.pid).readLink p.cwd path) m
  | .setMode path mode => m.settleUnit rfl (m.withDisk ((m.view p.pid).setMode p.cwd path mode))
  | .setMask mask =>
    .answer (r := .setMask mask) p.mask (m.modifyProcess p.pid fun p => { p with mask })
  | .limit => .answer (r := .limit) p.limit m
  | .setLimit limit =>
    m.settleUnit rfl <|
      if limit > Process.maxLimit then .error .EPERM
      else .ok (m.modifyProcess p.pid fun p => { p with limit })
  | .beTraced =>
    .answer (r := .beTraced) () (m.modifyProcess p.pid fun p => { p with traced := true })

end Machine

end CommandShell
