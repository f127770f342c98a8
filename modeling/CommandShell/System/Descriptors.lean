import CommandShell.System.Errno

/-!
# Descriptor tables

The descriptors of one process: which open file stands behind each number, and whether the number
is closed when the process turns into another program. New descriptors take the lowest free
number, as long as it lies under the limit of the process.
-/

namespace CommandShell

/-- The number of a process. A call that concerns several processes takes a number that is not
positive in its place. -/
abbrev Pid := Int

/-- The number of a descriptor. -/
abbrev Fd := Nat

namespace Fd

def stdin : Fd := 0
def stdout : Fd := 1
def stderr : Fd := 2

end Fd

/-- What stands behind a descriptor: an open file, by its number in the machine's table. -/
structure Slot where
  file : Nat
  closeOnExec : Bool := false
  deriving DecidableEq, Repr

/-- The descriptors of a process. The slot at position `n` is that of descriptor `n`. -/
structure Descriptors where
  slots : List (Option Slot) := []
  deriving DecidableEq, Repr

namespace Descriptors

/-- What stands behind a descriptor, if it is open. -/
def get? (d : Descriptors) (fd : Fd) : Option Slot :=
  d.slots[fd]?.join

/-- Makes `slot` stand behind a descriptor, whatever stood there. -/
def put (d : Descriptors) (fd : Fd) (slot : Option Slot) : Descriptors :=
  ⟨(d.slots ++ List.replicate (fd + 1 - d.slots.length) none).set fd slot⟩

/-- The lowest number that is not in use. -/
def lowestFree (d : Descriptors) : Fd :=
  d.slots.findIdx Option.isNone

/-- Opens the lowest free descriptor under the limit. -/
def allocate (d : Descriptors) (limit : Nat) (slot : Slot) : Except Errno (Fd × Descriptors) :=
  if d.lowestFree < limit then .ok (d.lowestFree, d.put d.lowestFree (some slot))
  else .error .EMFILE

/-- Closes a descriptor. -/
def close (d : Descriptors) (fd : Fd) : Except Errno Descriptors :=
  match d.get? fd with
  | some _ => .ok (d.put fd none)
  | none => .error .EBADF

/-- Makes `target` stand for the open file behind `source`, and lets it live on in another
program. Whatever stood behind `target` is closed. -/
def duplicate (d : Descriptors) (source target : Fd) : Except Errno Descriptors :=
  match d.get? source with
  | none => .error .EBADF
  | some slot => .ok (if source = target then d else d.put target (some { file := slot.file }))

/-- Opens the lowest free descriptor from `lowest` on for the open file behind `source`. It does not
live on in another program. -/
def duplicateAbove (d : Descriptors) (limit : Nat) (source lowest : Fd) :
    Except Errno (Fd × Descriptors) :=
  match d.get? source with
  | none => .error .EBADF
  | some slot =>
    let fd := lowest + (d.slots.drop lowest).findIdx Option.isNone
    if lowest ≥ limit then .error .EINVAL
    else if fd ≥ limit then .error .EMFILE
    else .ok (fd, d.put fd (some { file := slot.file, closeOnExec := true }))

/-- Lets a descriptor live on in another program. -/
def keepOnExec (d : Descriptors) (fd : Fd) : Except Errno Descriptors :=
  match d.get? fd with
  | none => .error .EBADF
  | some slot => .ok (d.put fd (some { slot with closeOnExec := false }))

/-- The descriptors that live on when the process turns into another program. -/
def afterExec (d : Descriptors) : Descriptors :=
  ⟨d.slots.map fun slot => slot.filter fun s => !s.closeOnExec⟩

/-- Some descriptor refers to the open file. -/
def holds (d : Descriptors) (file : Nat) : Bool :=
  d.slots.any fun slot => slot.any fun s => s.file == file

end Descriptors

end CommandShell
