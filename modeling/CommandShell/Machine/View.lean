import CommandShell.Machine.Basic

/-!
# What a machine shows of its processes

Beside the disk, whoever looks for a path finds what the system tells about its processes: a
directory for each of them, with texts about it, links to where it is, and a directory of its
descriptors, each a link to what stands behind it. `Machine.view` is the disk as one process sees
it. Nothing of this is stored, so nothing can be changed or added there.
-/

namespace CommandShell

namespace Process

/-! ## Texts about a process -/

/-- The letter that stands for the condition of a process. -/
def letter (p : Process) : String :=
  match p.condition with
  | .running _ => "R"
  | .asleep _ _ => "S"
  | .stopped _ _ _ => if p.traced then "t" else "T"
  | .ended _ => "Z"
  | .attended => "S"

/-- The word for the condition of a process. -/
def conditionWord (p : Process) : String :=
  match p.condition with
  | .running _ => "running"
  | .asleep _ _ => "sleeping"
  | .stopped _ _ _ => if p.traced then "tracing stop" else "stopped"
  | .ended _ => "zombie"
  | .attended => "sleeping"

/-- The condition of a process in one line. -/
def statusLine (p : Process) : String :=
  " ".intercalate
    [toString p.pid, "(" ++ p.command ++ ")", p.letter, toString p.parent, toString p.group,
     toString p.group, "0", "-1", "0", "0", "0", "0", "0", "0", "0", "0", "0", "20", "0", "1"] ++
    "\n"

/-- The signals that a process treats in one way, as a number in which each has a bit. -/
def signalSet (p : Process) (wanted : Disposition) : String :=
  let bits := (List.range Signal.highest).foldl (fun bits n =>
    if p.dispositions.of (n + 1) = wanted then bits + Nat.pow 2 n else bits) 0
  let digits := Nat.toDigits 16 bits
  String.ofList (List.replicate (16 - digits.length) '0' ++ digits)

/-- The condition of a process in words, a line for each matter. -/
def statusText (p : Process) : String :=
  let mask := String.ofList (Nat.toDigits 8 p.mask)
  let padded := String.ofList (List.replicate (4 - mask.length) '0') ++ mask
  let none := String.ofList (List.replicate 16 '0')
  String.join <|
    [("Name", p.command), ("Umask", padded), ("State", p.letter ++ " (" ++ p.conditionWord ++ ")"),
     ("Tgid", toString p.pid), ("Ngid", "0"), ("Pid", toString p.pid), ("PPid", toString p.parent),
     ("TracerPid", if p.traced then toString p.parent else "0"), ("Threads", "1"),
     ("SigPnd", none), ("ShdPnd", none), ("SigBlk", none), ("SigIgn", p.signalSet .ignored),
     ("SigCgt", p.signalSet .handled)].map fun (name, value) => name ++ ":\t" ++ value ++ "\n"

/-- Words with a zero after each of them. -/
def zeroEnded (words : List String) : String :=
  String.join (words.map (· ++ "\x00"))

end Process

namespace Machine

/-! ## Links to places -/

/-- What a link to a place says. -/
def placeText (m : Machine) (place : Location) : String :=
  match place.node with
  | .pipe _ => (place.head?.map (·.1)).getD ""
  | .stored _ => if m.disk.isCurrent place then place.path else place.path ++ " (deleted)"
  | _ => place.path

/-- A link to a place. -/
def shortcut (m : Machine) (place : Location) : Node :=
  .shortcut (m.placeText place) place

/-! ## The directories -/

/-- A directory whose entries nobody has made. -/
def shownDirectory (entries : List (String × NodeId)) : Node :=
  .directory { mode := 0o555, entries, ofSystem := true, isSealed := true }

/-- The names of what the system tells about a process. -/
def partNames : List (String × ProcessPart) :=
  [("cmdline", .arguments), ("comm", .command), ("cwd", .workingDir), ("environ", .environment),
   ("exe", .executable), ("fd", .descriptors), ("root", .root), ("stat", .condition),
   ("status", .status)]

/-- What the system tells about a process. -/
def partOf (m : Machine) (p : Process) : ProcessPart → Option Node
  | .overview =>
    some (shownDirectory (partNames.map fun (name, part) => (name, .process p.pid part)))
  | .arguments => some (.readOnly 0o444 (Text.bytes (Process.zeroEnded p.arguments)))
  | .command => some (.readOnly 0o444 (Text.bytes (p.command ++ "\n")))
  | .environment =>
    let words := p.environment.map fun (name, value) => name ++ "=" ++ value
    some (.readOnly 0o444 (Text.bytes (Process.zeroEnded words)))
  | .condition => some (.readOnly 0o444 (Text.bytes p.statusLine))
  | .status => some (.readOnly 0o444 (Text.bytes p.statusText))
  | .workingDir => some (m.shortcut p.cwd)
  | .executable => some (m.shortcut p.executable)
  | .root => some (m.shortcut [])
  | .descriptors =>
    let numbers := (List.range p.descriptors.slots.length).filter fun fd =>
      (p.descriptors.get? fd).isSome
    some (shownDirectory (numbers.map fun fd => (toString fd, .process p.pid (.descriptor fd))))
  | .descriptor fd => (m.fileOf? p fd).map fun (_, f) => m.shortcut f.place

/-- A node that is not stored, as the process `self` finds it. -/
def shownNode (m : Machine) (self : Pid) : NodeId → Option Node
  | .stored _ => none
  | .pipe number => some (.pipe number)
  | .self => some (.link (toString self))
  | .processes =>
    let numbers := m.processes.map fun p => (toString p.pid, NodeId.process p.pid .overview)
    some (shownDirectory (("self", .self) :: numbers))
  | .process pid part => (m.process? pid).bind fun p => m.partOf p part

/-- The disk as a process sees it. -/
def view (m : Machine) (self : Pid) : Disk :=
  { m.disk with shown := m.shownNode self }

/-- The disk as a process reads it that follows all links by their texts. -/
def viewByText (m : Machine) (self : Pid) : Disk :=
  { m.disk with
    shown := fun id =>
      (m.shownNode self id).map fun
        | .shortcut text _ => .link text
        | n => n }

/-- The machine with what a process has made of the disk. -/
def withView (m : Machine) (disk : Disk) : Machine :=
  { m with disk := disk.unseen }

end Machine

end CommandShell
