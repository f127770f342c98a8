import CommandShell.Shell.Job

/-!
# Starting a plan

`launch` makes the processes of a plan: one child, or two joined by a pipe. The right side of a
pipeline is started first, both sides are children of the shell itself, and the shell closes its
own ends of the pipe before it does anything else. If the left side cannot be started, the right
side reads the end of its input as soon as those ends are closed, and is waited for.

Before anything is done the strings of the plan are checked: a NUL character ends a string for the
system, so it can stand in none of them.
-/

namespace CommandShell

/-- A call that makes processes or joins them. -/
inductive LaunchCall
  | pipe
  | fork
  deriving DecidableEq, Repr

/-- The call as messages name it. -/
def LaunchCall.text : LaunchCall → String
  | .pipe => "pipe"
  | .fork => "fork"

/-- Why a plan could not be started. -/
inductive LaunchError
  /-- A string holds a NUL character; `position` counts the bytes before it. -/
  | nul (position : Nat)
  /-- A call failed. -/
  | failed (call : LaunchCall) (errno : Errno)
  deriving DecidableEq, Repr

/-- The wording of a failed start. -/
def LaunchError.message : LaunchError → String
  | .nul position =>
    "argument contains a NUL byte: nul byte found in provided data at position: " ++
      toString position
  | .failed call errno => call.text ++ " failed: " ++ errno.display

/-! ## Strings that the system cannot take -/

/-- How many bytes stand before the first NUL character of a text, if it has one. -/
def nulPosition? : List Char → Option Nat
  | [] => none
  | c :: rest => if c = '\x00' then some 0 else (nulPosition? rest).map (c.utf8Size + ·)

/-- The strings of a segment, in the order in which they are checked. -/
def Segment.strings (s : Segment) : List String :=
  s.argv ++ s.input.toList ++ (s.output.map (·.path)).toList

/-- The strings that starting a plan in a directory hands to the system. -/
def Plan.strings (p : Plan) (workingDir : String) : List String :=
  workingDir :: p.left.strings ++ (p.right.map Segment.strings).getD []

/-- Where the first NUL character stands in the first string that has one. -/
def Plan.nul? (p : Plan) (workingDir : String) : Option Nat :=
  (p.strings workingDir).findSome? fun s => nulPosition? s.toList

/-! ## Making the processes -/

/-- Makes one child. It moves to a group of its own by itself too; whoever comes first does it. -/
def spawn (child : Child) : Shell (Except LaunchError Pid) := do
  match ← Shell.call (.fork child) with
  | .error errno => return .error (.failed .fork errno)
  | .ok pid =>
    if child.wiring.ownGroup then
      Shell.call (.ownGroup pid)
    return .ok pid

/-- Closes both ends of a pipe. A failure changes nothing: the descriptor is gone all the same. -/
def closePipe (read write : Fd) : Shell Unit := do
  let _ ← Shell.call (.close read)
  let _ ← Shell.call (.close write)

/-- Makes the two children of a pipeline whose pipe is open. -/
def launchSides (left right : Segment) (workingDir : String) (background : Bool)
    (read write : Fd) : Shell (Except LaunchError Job) := do
  match ← spawn ⟨right, workingDir, ⟨some read, none, some write, background⟩⟩ with
  | .error e =>
    closePipe read write
    return .error e
  | .ok rightPid =>
    let left ← spawn ⟨left, workingDir, ⟨none, some write, some read, background⟩⟩
    closePipe read write
    match left with
    | .ok leftPid => return .ok ⟨[leftPid, rightPid], background⟩
    | .error e =>
      let _ ← Job.wait ⟨[rightPid], false⟩
      return .error e

/-- Starts the processes of a plan in a directory. -/
def launch (plan : Plan) (workingDir : String) : Shell (Except LaunchError Job) := do
  match plan.nul? workingDir with
  | some position => return .error (.nul position)
  | none =>
    match plan.right with
    | none =>
      match ← spawn ⟨plan.left, workingDir, { ownGroup := plan.background }⟩ with
      | .error e => return .error e
      | .ok pid => return .ok ⟨[pid], plan.background⟩
    | some right =>
      match ← Shell.call .makePipe with
      | .error errno => return .error (.failed .pipe errno)
      | .ok (read, write) =>
        launchSides plan.left right workingDir plan.background read write

end CommandShell
