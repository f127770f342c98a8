import CommandShell.Deserialize
import CommandShell.Machine.Boot

/-!
# Settings on a machine

How the shell of a machine reads its settings. The file may be any that a path leads to, and may be
the standard input itself, of which less is left then.
-/

namespace CommandShell

namespace Machine

/-- What is stored behind a descriptor of the shell. -/
def storedBehind (m : Machine) (fd : Fd) : ByteArray :=
  match m.fileOf? m.shellProcess fd with
  | some (_, f) => (m.disk.content? f.place.node).getD .empty
  | none => .empty

/-- How often the shell reads on behind a descriptor before it gives up. Every time but the last it
finds something, so this is enough for all that is stored; the rest is for what has no end of its
own. -/
def readings (m : Machine) (fd : Fd) : Nat :=
  1000000 + (m.storedBehind fd).size

/-- Reads what is left of a file of the shell, behind what has been read already. -/
def readToEnd (m : Machine) (fd : Fd) (text : ByteArray) : Nat → Except Errno ByteArray × Machine
  | 0 => (.ok text, m)
  | rounds + 1 =>
    match m.fileOf? m.shellProcess fd with
    | none => (.error .EBADF, m)
    | some (file, f) =>
      match m.readFrom file f pipeCapacity with
      | .moved bytes m =>
        if bytes.isEmpty then (.ok text, m) else m.readToEnd fd (text ++ bytes) rounds
      | .failed e => (.error e, m)
      | .waits | .broken => (.ok text, m)

/-- Reads a file for the shell and closes it. -/
def readFile (m : Machine) (path : String) : Except Errno ByteArray × Machine :=
  match m.openPath m.shellProcess path .read true with
  | .error e => (.error e, m)
  | .ok (m, fd) =>
    let (result, m) := m.readToEnd fd .empty (m.readings fd)
    match m.withDescriptors m.shellProcess (m.shellProcess.descriptors.close fd) with
    | .ok m => (result, m)
    | .error _ => (result, m)

/-- Reads a file of the shell as text. -/
def readText (m : Machine) (path : String) : Except IoError String × Machine :=
  if path.contains '\x00' then (.error .nulInPath, m)
  else
    match m.readFile path with
    | (.error e, m) => (.error (.os e), m)
    | (.ok bytes, m) =>
      match String.fromUTF8? bytes with
      | some text => (.ok text, m)
      | none => (.error .notText, m)

/-- Loads the settings of the shell. `named` is the file that its environment names, and
`deserialize` makes settings of the text of a file. -/
def loadConfig (m : Machine) (named : Option String)
    (deserialize : String → Except Config.Fault Config := Config.fromToml) :
    Except Config.LoadError Config × Machine :=
  match Config.source? named ((m.view m.shell).pathExists m.shellProcess.cwd) with
  | none => (.ok {}, m)
  | some path =>
    let (reading, m) := m.readText path
    (Config.ofReading deserialize path reading, m)

end Machine

end CommandShell
