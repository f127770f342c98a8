import CommandShell.System.Node
import CommandShell.Text.Bytes

/-!
# Files and paths

A `Disk` is a store of nodes, one of which is the root directory. A place on the disk is a
`Location`, the entries passed on the way down from the root, so `..` is the tail of a location and
the canonical path of a place is read off it; directories need no pointer to their parent.

`Disk.walk` resolves a path. It follows symbolic links as it meets them, at most `maxLinks` of
them, and tells either the location found or the directory in which the last name is missing,
which is what an operation that creates a file has to know. Everything else here is a few lines
on top of it: `Disk.lookup`, `Disk.canonical`, `Disk.openRead`, `Disk.openWrite`, and the
operations that change entries.

All this is done for one user, to whom everything belongs but what came with the system. What the
user may do with a thing, `Disk.allows` reads off its permissions.
-/

namespace CommandShell

/-- All that is stored, and what somebody who looks finds beside it. Nodes are never reclaimed, so a
number stays valid for a reader that holds it after the last entry has gone. -/
structure Disk where
  nodes : Array Node
  /-- The nodes that are not stored. -/
  shown : NodeId → Option Node := fun _ => none

/-- What a path leads to. -/
inductive Target
  /-- Something that exists. -/
  | found (location : Location)
  /-- Nothing yet: `name` is missing in the directory at `location`. -/
  | missing (location : Location) (name : String)
  deriving DecidableEq, Repr

/-! ## Paths as text -/

namespace Path

/-- The longest name of an entry, in bytes. -/
def maxName : Nat := 255

/-- A path of this many bytes, or more, is refused by every call that takes one. -/
def maxLength : Nat := 4096

/-- The path starts at the root whatever the working directory is. -/
def isAbsolute (path : String) : Bool :=
  path.startsWith "/"

/-- The path ends in a slash, so what it names has to be a directory. -/
def endsInSlash (path : String) : Bool :=
  path.endsWith "/"

/-- The names between the slashes. -/
def names (path : String) : List String :=
  ((path.toList.splitOn '/').map String.ofList).filter (· ≠ "")

/-- The names between the slashes, and an empty one after them if the path ends in a slash. -/
def components (path : String) : List String :=
  if endsInSlash path && !(names path).isEmpty then names path ++ [""] else names path

/-- A name that an entry cannot have, since it leads from a directory to itself or upwards. -/
def isDots (name : String) : Bool :=
  name = "." || name = ".."

/-- The names of a path as one meets them who climbs up from it. A dot counts in front only. -/
def steps (path : String) : List String :=
  match names path with
  | [] => []
  | first :: rest =>
    let rest := rest.filter (· ≠ ".")
    if first = "." && isAbsolute path then rest else first :: rest

/-- The path with these names. -/
def ofSteps (absolute : Bool) (names : List String) : String :=
  (if absolute then "/" else "") ++ "/".intercalate names

/-- What `path` means to someone who is in `dir`. The empty path leads nowhere else. -/
def join (dir path : String) : String :=
  if isAbsolute path || dir.isEmpty then path
  else if endsInSlash dir then dir ++ path
  else dir ++ "/" ++ path

end Path

namespace Disk

/-- A disk with nothing but an empty root. -/
def empty : Disk := { nodes := #[.directory { ofSystem := true }] }

instance : Inhabited Disk := ⟨empty⟩

/-- How many symbolic links one path may lead through. -/
def maxLinks : Nat := 40

/-- The disk without what only one who looks can see. -/
def unseen (disk : Disk) : Disk :=
  { nodes := disk.nodes }

/-- The node of this number, or what is left of one that has gone. -/
def node (disk : Disk) (id : NodeId) : Node :=
  let found := match id with
    | .stored number => disk.nodes[number]?
    | _ => disk.shown id
  found.getD (.directory { isSealed := true })

/-- The directory of this number, if the node is one. -/
def directory? (disk : Disk) (id : NodeId) : Option Directory :=
  match disk.node id with
  | .directory d => some d
  | _ => none

/-- Stores a new node. -/
def add (disk : Disk) (n : Node) : Disk × NodeId :=
  ({ disk with nodes := disk.nodes.push n }, .stored disk.nodes.size)

/-- Replaces a stored node. -/
def set (disk : Disk) (id : NodeId) (n : Node) : Disk :=
  match id with
  | .stored number => { disk with nodes := disk.nodes.setIfInBounds number n }
  | _ => disk

/-! ## Permissions -/

/-- What can be done with a thing. In a directory, to execute is to look for a name. -/
inductive Right
  | read
  | write
  | execute
  deriving DecidableEq, Repr

/-- Which of the three low bits of a permission stands for a right. -/
def Right.bit : Right → Nat
  | .read => 2
  | .write => 1
  | .execute => 0

/-- The user may do this with a node. What belongs to the user has its permissions for the owner
three bits up from those for everybody else, which count for what came with the system. -/
def allows (disk : Disk) (id : NodeId) (right : Right) : Bool :=
  match disk.node id with
  | .file mode _ => mode.testBit (right.bit + 6)
  | .directory d => d.mode.testBit (if d.ofSystem then right.bit else right.bit + 6)
  | .link _ | .shortcut _ _ => true
  | .readOnly mode _ => right ≠ .write && mode.testBit right.bit
  | .device _ | .pipe _ => right ≠ .execute

/-- Fails unless the user may do all this with a node. -/
def demand (disk : Disk) (id : NodeId) (rights : List Right) : Except Errno Unit :=
  if rights.all (disk.allows id) then .ok () else .error .EACCES

/-- Fails unless the user may change which entries a directory has. The system alone does so in one
that shows a process, whatever its permissions are. -/
def demandChange (disk : Disk) (dir : NodeId) : Except Errno Unit :=
  match dir with
  | .process _ _ => .error .EPERM
  | dir => disk.demand dir [.write, .execute]

/-! ## Resolving paths -/

/-- Goes on from the location `here` by the given names. A link in the last place is followed
only if `follow` says so. `links` is how many more links may be followed. An empty name says that
a directory has to be here, and does not look into it. -/
def walk (disk : Disk) (follow : Bool) (links : Nat) (here : Location) (names : List String) :
    Except Errno Target :=
  match names with
  | [] => .ok (.found here)
  | name :: rest =>
    match disk.directory? here.node with
    | none => .error .ENOTDIR
    | some d =>
      if name = "" then disk.walk follow links here rest
      else if !disk.allows here.node .execute then .error .EACCES
      else if name = "." then disk.walk follow links here rest
      else if name = ".." then disk.walk follow links here.tail rest
      else if Text.size name > Path.maxName then .error .ENAMETOOLONG
      else
        match d.entries.lookup name with
        | none =>
          if rest.all (· = "") then .ok (.missing here name) else .error .ENOENT
        | some id =>
          match disk.node id with
          | .link target =>
            if rest.isEmpty && !follow then .ok (.found ((name, id) :: here))
            else
              match links with
              | 0 => .error .ELOOP
              | links + 1 =>
                if target.isEmpty then .error .ENOENT
                else
                  disk.walk follow links (if Path.isAbsolute target then [] else here)
                    (Path.components target ++ rest)
          | .shortcut _ target =>
            if rest.isEmpty && !follow then .ok (.found ((name, id) :: here))
            else
              match links with
              | 0 => .error .ELOOP
              | links + 1 => disk.walk follow links target rest
          | _ => disk.walk follow links ((name, id) :: here) rest
termination_by (links, names.length)

/-- Where a path leads, seen from a working directory. -/
def resolve (disk : Disk) (cwd : Location) (path : String) (follow : Bool := true) :
    Except Errno Target :=
  if path.isEmpty then .error .ENOENT
  else
    disk.walk follow maxLinks (if Path.isAbsolute path then [] else cwd) (Path.components path)

/-- As `resolve`, for the calls that refuse a long path unseen. -/
def resolveShort (disk : Disk) (cwd : Location) (path : String) (follow : Bool := true) :
    Except Errno Target :=
  if Text.size path ≥ Path.maxLength then .error .ENAMETOOLONG
  else disk.resolve cwd path follow

/-- Turns a missing name into the error it is to a call that needs the thing to exist. -/
def Target.existing : Target → Except Errno Location
  | .found l => .ok l
  | .missing _ _ => .error .ENOENT

/-- The existing thing that a path leads to. -/
def lookup (disk : Disk) (cwd : Location) (path : String) (follow : Bool := true) :
    Except Errno Location := do
  Target.existing (← disk.resolveShort cwd path follow)

/-- The location of an existing thing with every link on the way resolved. The length of the text
does not matter here, only that of each name. -/
def canonical (disk : Disk) (cwd : Location) (path : String) : Except Errno Location := do
  Target.existing (← disk.resolve cwd path)

/-- The thing at a location is a directory. -/
def isDirectory (disk : Disk) (l : Location) : Bool :=
  (disk.directory? l.node).isSome

/-- The directory that a path leads to, for a change of the working directory. -/
def enter (disk : Disk) (cwd : Location) (path : String) : Except Errno Location := do
  let l ← disk.lookup cwd path
  if !disk.isDirectory l then .error .ENOTDIR
  disk.demand l.node [.execute]
  return l

/-- Each entry on the way is still where it was when the location was found. -/
def isCurrent (disk : Disk) : Location → Bool
  | [] => true
  | (name, id) :: up =>
    (match disk.directory? (Location.node up) with
      | some d => d.entries.lookup name == some id
      | none => false) && disk.isCurrent up

/-! ## Entries -/

/-- Makes or replaces the entry `name` of the directory `dir`. -/
def setEntry (disk : Disk) (dir : NodeId) (name : String) (id : NodeId) : Disk :=
  match disk.directory? dir with
  | some d =>
    let others := d.entries.filter (·.1 ≠ name)
    disk.set dir (.directory { d with entries := others ++ [(name, id)] })
  | none => disk

/-- Removes the entry `name` of the directory `dir`. -/
def dropEntry (disk : Disk) (dir : NodeId) (name : String) : Disk :=
  match disk.directory? dir with
  | some d => disk.set dir (.directory { d with entries := d.entries.filter (·.1 ≠ name) })
  | none => disk

/-- Stores a node under a name. -/
def create (disk : Disk) (dir : NodeId) (name : String) (n : Node) :
    Except Errno (Disk × NodeId) :=
  match disk.directory? dir with
  | some d =>
    if d.isSealed then .error .ENOENT
    else
      let (disk, id) := disk.add n
      .ok (disk.setEntry dir name id, id)
  | none => .error .ENOTDIR

/-- The directory that holds the last name of a path, or will hold it, the name, and the node that
has the name. Links in the last place and slashes at the end are not followed. A path may end in
dots; then there is no last name. -/
def resolveEntry (disk : Disk) (cwd : Location) (path : String) :
    Except Errno (Location × Option (String × Option NodeId)) := do
  if path.isEmpty then .error .ENOENT
  else if Text.size path ≥ Path.maxLength then .error .ENAMETOOLONG
  else
    let start := if Path.isAbsolute path then [] else cwd
    let names := Path.names path
    match names.getLast? with
    | none => return (start, none)
    | some name =>
      let up ← Target.existing (← disk.walk true maxLinks start (names.dropLast ++ [""]))
      if Path.isDots name then
        disk.demand up.node [.execute]
        return (up, none)
      else
        match ← disk.walk false maxLinks up [name] with
        | .found l => return (up, some (name, some l.node))
        | .missing _ _ => return (up, some (name, none))

/-- Makes an entry for a new node, for the user. -/
def createEntry (disk : Disk) (dir : NodeId) (name : String) (n : Node) :
    Except Errno (Disk × NodeId) := do
  match disk.directory? dir with
  | some d => if d.isSealed then .error .ENOENT
  | none => .error .ENOTDIR
  disk.demandChange dir
  disk.create dir name n

/-- Makes a directory. -/
def makeDirectory (disk : Disk) (cwd : Location) (path : String) (mode : Nat) :
    Except Errno Disk := do
  match ← disk.resolveEntry cwd path with
  | (up, some (name, none)) => return (← disk.createEntry up.node name (.directory { mode })).1
  | _ => .error .EEXIST

/-- Makes a symbolic link. -/
def makeLink (disk : Disk) (cwd : Location) (path target : String) : Except Errno Disk := do
  match ← disk.resolveEntry cwd path with
  | (up, some (name, none)) =>
    if Path.endsInSlash path then .error .ENOENT
    else return (← disk.createEntry up.node name (.link target)).1
  | _ => .error .EEXIST

/-- Gives something that is not a directory another name besides those it has. -/
def shareFile (disk : Disk) (cwd : Location) (source target : String) : Except Errno Disk := do
  let l ← disk.lookup cwd source false
  match ← disk.resolveEntry cwd target with
  | (up, some (name, none)) =>
    if disk.isDirectory l then .error .EPERM
    else if Path.endsInSlash target then .error .ENOENT
    else
      disk.demandChange up.node
      return disk.setEntry up.node name l.node
  | _ => .error .EEXIST

/-- Removes the entry of something that is not a directory. -/
def unlink (disk : Disk) (cwd : Location) (path : String) : Except Errno Disk := do
  match ← disk.resolveEntry cwd path with
  | (_, none) => .error .EISDIR
  | (_, some (_, none)) => .error .ENOENT
  | (up, some (name, some id)) =>
    let isDirectory := (disk.directory? id).isSome
    if Path.endsInSlash path then .error (if isDirectory then .EISDIR else .ENOTDIR)
    disk.demandChange up.node
    if isDirectory then .error .EISDIR
    return disk.dropEntry up.node name

/-- Removes an empty directory. -/
def removeDirectory (disk : Disk) (cwd : Location) (path : String) : Except Errno Disk := do
  match ← disk.resolveEntry cwd path with
  | (_, none) =>
    .error (match (Path.names path).getLast? with
      | none => .EBUSY
      | some "." => .EINVAL
      | some _ => .ENOTEMPTY)
  | (_, some (_, none)) => .error .ENOENT
  | (up, some (name, some id)) =>
    disk.demandChange up.node
    match disk.directory? id with
    | none => .error .ENOTDIR
    | some d =>
      if d.entries.isEmpty then
        return (disk.dropEntry up.node name).set id (.directory { d with isSealed := true })
      else .error .ENOTEMPTY

/-- Gives a file or a directory other permissions. -/
def setMode (disk : Disk) (cwd : Location) (path : String) (mode : Nat) : Except Errno Disk := do
  let l ← disk.lookup cwd path
  match disk.node l.node with
  | .file _ content => return disk.set l.node (.file mode content)
  | .directory d =>
    if d.ofSystem then .error .EPERM else return disk.set l.node (.directory { d with mode })
  | _ => .error .EPERM

/-- Where a symbolic link leads, as it is written in the link. -/
def readLink (disk : Disk) (cwd : Location) (path : String) : Except Errno String := do
  match disk.node (← disk.lookup cwd path false).node with
  | .link text | .shortcut text _ => .ok text
  | _ => .error .EINVAL

/-- Gives a thing another name, in place of whatever had that name. A directory can only take the
place of an empty one, and cannot go into itself. Tells also where any place is afterwards. -/
def rename (disk : Disk) (cwd : Location) (source target : String) :
    Except Errno (Disk × (Location → Location)) := do
  let (up, from?) ← disk.resolveEntry cwd source
  let (above, to?) ← disk.resolveEntry cwd target
  match from?, to? with
  | none, _ | _, none => .error .EBUSY
  | some (_, none), _ => .error .ENOENT
  | some (name, some id), some (newName, old) =>
    let isDirectory := (disk.directory? id).isSome
    if !isDirectory && (Path.endsInSlash source || Path.endsInSlash target) then .error .ENOTDIR
    if isDirectory && above.any (·.2 == id) then .error .EINVAL
    if old = some id then return (disk, fun l => l)
    disk.demandChange up.node
    disk.demandChange above.node
    if let some old := old then
      match disk.directory? old with
      | none => if isDirectory then .error .ENOTDIR
      | some d =>
        if !isDirectory then .error .EISDIR
        else if !d.entries.isEmpty then .error .ENOTEMPTY
    return ((disk.dropEntry up.node name).setEntry above.node newName id,
      Location.moved ((name, id) :: up) ((newName, id) :: above))

/-! ## Opening files -/

/-- Where a path opened for reading leads. A directory can be opened; only reading it fails. -/
def openRead (disk : Disk) (cwd : Location) (path : String) : Except Errno Location := do
  let l ← disk.lookup cwd path
  disk.demand l.node [.read]
  match disk.node l.node with
  | .device .terminal => .error .deviceMissing
  | _ => return l

/-- Refuses a path that ends in a slash, since it can only mean a directory. The links in its last
place are read on the way, at most `links` of them, as what one of them says can end so too. -/
def demandFile (disk : Disk) (links : Nat) (cwd : Location) (path : String) :
    Except Errno Unit := do
  if Path.endsInSlash path then
    let _ ← disk.resolveEntry cwd path
    .error .EISDIR
  match links, disk.resolve cwd path false with
  | links + 1, .ok (.found l) =>
    match disk.node l.node with
    | .link target => disk.demandFile links l.tail target
    | _ => return
  | _, _ => return

/-- Where a path opened for writing leads, to a file made with the permissions `mode` if there is
none. Old contents go if `truncate` says so. -/
def openWrite (disk : Disk) (cwd : Location) (path : String) (truncate : Bool) (mode : Nat) :
    Except Errno (Disk × Location) := do
  disk.demandFile maxLinks cwd path
  match ← disk.resolveShort cwd path with
  | .missing dir name => do
    let (disk, id) ← disk.createEntry dir.node name (.file mode .empty)
    return (disk, (name, id) :: dir)
  | .found l =>
    if disk.isDirectory l then .error .EISDIR
    disk.demand l.node [.write]
    match disk.node l.node with
    | .device .terminal => .error .deviceMissing
    | .file mode _ =>
      return (if truncate then disk.set l.node (.file mode .empty) else disk, l)
    | _ => return (disk, l)

/-- The bytes of a regular file. -/
def content? (disk : Disk) (id : NodeId) : Option ByteArray :=
  match disk.node id with
  | .file _ bytes | .readOnly _ bytes => some bytes
  | _ => none

/-- The whole contents of what a path leads to. -/
def readAll (disk : Disk) (cwd : Location) (path : String) : Except Errno ByteArray := do
  let l ← disk.openRead cwd path
  match disk.node l.node with
  | .file _ bytes | .readOnly _ bytes => .ok bytes
  | .directory _ => .error .EISDIR
  | _ => .ok .empty

/-- Something exists at the end of the path. -/
def pathExists (disk : Disk) (cwd : Location) (path : String) : Bool :=
  match disk.lookup cwd path with
  | .ok _ => true
  | .error _ => false

end Disk

end CommandShell
