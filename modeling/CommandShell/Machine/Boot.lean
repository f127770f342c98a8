import CommandShell.Machine.Host
import CommandShell.System.Layout

/-!
# Starting a machine

A machine starts with the disk it is given and one process, the shell, which has nothing to read
and whose output and error streams are kept in two files without names.
-/

namespace CommandShell

/-- A machine that has just been started, and the files that hold what its shell and the children
of the shell have written. -/
structure Boot where
  machine : Machine
  /-- What has been written to the standard output. -/
  output : NodeId
  /-- What has been written to the standard error. -/
  errors : NodeId

namespace Boot

/-- The number of the shell's process. Children have the numbers above it. -/
def shellPid : Pid := 4096

/-- What every process on the machine finds in its environment. -/
def environment : Environment :=
  [("PATH", ":".intercalate Disk.searchPath), ("LC_ALL", "C")]

/-- A file that holds nothing, open for reading. -/
def emptyInput (disk : Disk) : OpenFile :=
  let place := match disk.lookup [] "/dev/null" with
    | .ok place => place
    | .error _ => []
  .device place .null { writes := false }

/-- Starts a machine whose shell is in a directory. -/
def start (disk : Disk) (cwd : Location) : Boot :=
  let m : Machine := { disk, shell := shellPid, nextPid := shellPid }
  let (m, null) := m.addOpenFile (emptyInput disk)
  let (m, out, output) := m.addAnonymous .empty true
  let (m, err, errors) := m.addAnonymous .empty true
  let (m, _) := m.addProcess fun pid =>
    { pid
      parent := Machine.init
      group := pid
      command := "orbit"
      arguments := ["orbit"]
      cwd
      descriptors := ⟨[null, out, err].map fun file => some { file }⟩
      environment
      dispositions := { Dispositions.install {} with brokenPipe := .ignored }
      condition := .attended }
  ⟨m, output, errors⟩

end Boot

namespace Machine

/-- Changes the process of the shell. -/
def modifyShell (m : Machine) (f : Process → Process) : Machine :=
  m.modifyProcess m.shell f

/-- Puts a file, a directory or nothing behind the standard input of the shell. -/
def setStdin (m : Machine) (f : Option OpenFile) : Machine :=
  match f with
  | some f =>
    let (m, file) := m.addOpenFile f
    m.modifyShell fun p => { p with descriptors := p.descriptors.put Fd.stdin (some { file }) }
  | none => m.modifyShell fun p => { p with descriptors := p.descriptors.put Fd.stdin none }

/-- Puts a file without a name behind the standard input of the shell. -/
def setStdinBytes (m : Machine) (bytes : ByteArray) : Machine :=
  let (disk, node) := m.disk.add (.file 0o600 bytes)
  { m with disk, inputLeft := bytes }.setStdin (some (.regular (nowhere node) 0 {}))

/-- Puts a pipe behind the standard input of the shell, into which bytes have been written. -/
def setStdinPipe (m : Machine) (bytes : ByteArray) : Machine :=
  let pipe := m.pipes.size
  { m with pipes := m.pipes.push bytes, inputLeft := bytes }.setStdin (some (.pipeReader pipe))

/-- What a file without a name holds. -/
def captured (m : Machine) (node : NodeId) : ByteArray :=
  (m.disk.content? node).getD .empty

/-- Empties a file without a name. -/
def clear (m : Machine) (node : NodeId) : Machine :=
  { m with disk := m.disk.set node (.file 0o600 .empty) }

end Machine

end CommandShell
