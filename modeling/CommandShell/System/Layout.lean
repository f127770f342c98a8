import CommandShell.System.Disk
import CommandShell.System.ProgramFile

/-!
# The files a system starts with

`Disk.standard` is the disk of a freshly started system: the usual directories, the devices, and
the programs that the search path leads to. A `Fixture` is a thing to be added before a session
starts, and `Disk.plant` adds it.
-/

namespace CommandShell

namespace Disk

/-- No tree of files here is deeper. -/
def maxDepth : Nat := 4096

/-- Makes a chain of directories under `here`, keeping those that exist. A link on the way is
followed. -/
def makeDirectories (disk : Disk) (here : Location) : List String → Disk × Location
  | [] => (disk, here)
  | name :: rest =>
    match disk.walk true maxLinks here [name] with
    | .ok (.found l) => disk.makeDirectories l rest
    | .ok (.missing dir name) =>
      match disk.create dir.node name (.directory { mode := 0o777 }) with
      | .ok (disk, id) => disk.makeDirectories ((name, id) :: dir) rest
      | .error _ => (disk, here)
    | .error _ => (disk, here)

/-- Adds a node at an absolute path, with the directories above it. -/
def addAt (disk : Disk) (path : String) (n : Node) : Disk :=
  let names := Path.names path
  let (disk, dir) := disk.makeDirectories [] names.dropLast
  match disk.create dir.node (names.getLast?.getD "") n with
  | .ok (disk, _) => disk
  | .error _ => disk

/-- The directories of the standard layout with their permissions, each after the one it is in. -/
def standardDirectories : List (String × Nat) :=
  [("/usr", 0o755), ("/usr/bin", 0o755), ("/usr/sbin", 0o755), ("/usr/lib", 0o755),
   ("/usr/lib64", 0o755), ("/usr/local", 0o755), ("/usr/local/bin", 0o755),
   ("/usr/local/sbin", 0o755), ("/usr/share", 0o755), ("/etc", 0o755), ("/tmp", 0o1777),
   ("/var", 0o755), ("/var/tmp", 0o1777), ("/var/log", 0o755), ("/root", 0o700), ("/home", 0o755),
   ("/opt", 0o755), ("/mnt", 0o755), ("/media", 0o755), ("/srv", 0o755), ("/boot", 0o755),
   ("/run", 0o755), ("/sys", 0o555), ("/dev", 0o755), ("/dev/shm", 0o1777), ("/dev/mqueue", 0o1777),
   ("/dev/pts", 0o755)]

/-- The links of the standard layout. -/
def standardLinks : List (String × String) :=
  [("/bin", "usr/bin"), ("/sbin", "usr/sbin"), ("/lib", "usr/lib"), ("/lib64", "usr/lib64"),
   ("/usr/bin/sh", "dash"), ("/dev/fd", "/proc/self/fd"), ("/dev/stdin", "/proc/self/fd/0"),
   ("/dev/stdout", "/proc/self/fd/1"), ("/dev/stderr", "/proc/self/fd/2"),
   ("/dev/ptmx", "pts/ptmx")]

/-- The devices of the standard layout. -/
def standardDevices : List (String × Device) :=
  [("/dev/null", .null), ("/dev/full", .full), ("/dev/zero", .zero), ("/dev/random", .random),
   ("/dev/urandom", .random), ("/dev/tty", .terminal)]

/-- The directories that are searched for a program without a slash in its name. -/
def searchPath : List String :=
  ["/usr/local/sbin", "/usr/local/bin", "/usr/sbin", "/usr/bin", "/sbin", "/bin"]

/-- The names of the programs in `/usr/bin`. -/
def standardPrograms : List String :=
  ["dash", "perl", "true", "false", "echo", "cat", "wc", "head", "tail", "sort", "uniq", "pwd",
   "ls", "seq", "printf", "expr", "test", "[", "cmp", "yes", "sleep", "touch", "mkdir", "rmdir",
   "rm", "mv", "cp", "ln", "printenv", "env", "tr", "grep", "tee", "rev", "basename", "dirname",
   "cut", "kill", "tac", "nl", "sed", "chmod", "readlink", "tty", "xargs"]

/-- The accounts of a freshly started system, a line for each. -/
def accounts : String :=
  "".intercalate
    ["root:x:0:0:root:/root:/bin/bash\n", "daemon:x:1:1:daemon:/usr/sbin:/usr/sbin/nologin\n",
     "bin:x:2:2:bin:/bin:/usr/sbin/nologin\n", "sys:x:3:3:sys:/dev:/usr/sbin/nologin\n",
     "sync:x:4:65534:sync:/bin:/bin/sync\n", "games:x:5:60:games:/usr/games:/usr/sbin/nologin\n",
     "man:x:6:12:man:/var/cache/man:/usr/sbin/nologin\n",
     "nobody:x:65534:65534:nobody:/nonexistent:/usr/sbin/nologin\n"]

/-- The files of the standard layout with their permissions and what they hold. -/
def standardFiles : List (String × Nat × String) :=
  [("/etc/passwd", 0o644, accounts), ("/etc/shadow", 0o640, ""), ("/etc/hostname", 0o644, "")]

/-- The disk of a freshly started system. -/
def standard : Disk :=
  let disk := standardDirectories.foldl
    (fun d (p, mode) => d.addAt p (.directory { mode, ofSystem := true })) empty
  let disk := standardLinks.foldl (fun d (p, t) => d.addAt p (.link t)) disk
  let disk := standardPrograms.foldl
    (fun d name => d.addAt ("/usr/bin/" ++ name) (.readOnly 0o755 (ProgramFile.content name))) disk
  let disk := standardFiles.foldl
    (fun d (p, mode, text) => d.addAt p (.readOnly mode text.toUTF8)) disk
  let disk := standardDevices.foldl (fun d (p, kind) => d.addAt p (.device kind)) disk
  disk.setEntry .root "proc" .processes

end Disk

/-- A thing that is put on the disk before a session. -/
inductive Fixture
  | file (path : String) (content : ByteArray) (mode : Nat)
  | directory (path : String) (mode : Nat)
  | link (path : String) (target : String)

namespace Disk

/-- Adds a fixture, its path being relative to `root`. A file that exists is overwritten, a
directory that exists is kept, and a link is only made where nothing is. -/
def plant (disk : Disk) (root : Location) (fixture : Fixture) : Disk :=
  match fixture with
  | .file path content mode =>
    let names := Path.names path
    let (disk, dir) := disk.makeDirectories root names.dropLast
    match disk.walk true maxLinks dir (names.drop (names.length - 1)) with
    | .ok (.found l) => disk.set l.node (.file mode content)
    | .ok (.missing dir name) =>
      match disk.create dir.node name (.file mode content) with
      | .ok (disk, _) => disk
      | .error _ => disk
    | .error _ => disk
  | .directory path mode =>
    let (disk, dir) := disk.makeDirectories root (Path.names path)
    match disk.directory? dir.node with
    | some d => disk.set dir.node (.directory { d with mode })
    | none => disk
  | .link path target =>
    let names := Path.names path
    let (disk, dir) := disk.makeDirectories root names.dropLast
    match disk.walk false maxLinks dir (names.drop (names.length - 1)) with
    | .ok (.missing dir name) =>
      match disk.create dir.node name (.link target) with
      | .ok (disk, _) => disk
      | .error _ => disk
    | _ => disk

/-- Removes all that is in a directory, and lets nothing be made in it any more. The count bounds
the depth of the tree. -/
def clear (disk : Disk) (dir : NodeId) : Nat → Disk
  | 0 => disk
  | depth + 1 =>
    match disk.directory? dir with
    | none => disk
    | some d =>
      let disk := d.entries.foldl (fun disk (_, id) => disk.clear id depth) disk
      disk.set dir (.directory { d with entries := [], isSealed := true })

/-- Removes a file, a link, or a directory with all that is in it. Tells whether there was
anything to remove. -/
def removeTree (disk : Disk) (root : Location) (path : String) : Bool × Disk :=
  match disk.lookup root path false with
  | .ok ((name, id) :: up) => (true, (disk.dropEntry (Location.node up) name).clear id maxDepth)
  | _ => (false, disk)

/-- One line of a listing. -/
inductive Entry
  | directory (path : String)
  | link (path : String)
  | file (path : String) (mode : Nat)

/-- Everything below a directory, each thing with its path from there as it is shown. The count
bounds the depth of the tree. -/
def listing (disk : Disk) (dir : NodeId) (above : String) : Nat → List Entry
  | 0 => []
  | depth + 1 =>
    match disk.directory? dir with
    | none => []
    | some d =>
      d.entries.flatMap fun (name, id) =>
        let path := above ++ Text.shown name
        match disk.node id with
        | .directory _ => .directory path :: disk.listing id (path ++ "/") depth
        | .link _ | .shortcut _ _ => [.link path]
        | .file mode _ | .readOnly mode _ => [.file path mode]
        | .device _ => [.file path 0o666]
        | .pipe _ => [.file path 0o600]

end Disk

end CommandShell
