import CommandShell.System.Errno
import CommandShell.System.Signal

/-!
# Wait statuses

What `waitpid` has to say about a child. The system packs a report into one word: the low seven
bits tell an exit (0) and a stop (127) from a death by signal, the next byte holds the exit code
or the stopping signal, and the bits above the sixteenth say why a traced child stopped.
`WaitReport.ofWord` unpacks it. A word that names a signal outside the standard ones cannot be
unpacked, and the call that returned it fails with `EINVAL` although it has collected the child.

`JobStatus` is the part of a report that ends a child, and the only part the shell keeps.
-/

namespace CommandShell

/-- What one call of `waitpid` tells about a child. -/
inductive WaitReport
  /-- The child has not changed since it was last asked about. -/
  | stillAlive
  /-- The child ended by itself. -/
  | exited (code : Nat)
  /-- A signal ended the child. -/
  | signaled (signal : Signal) (dumped : Bool)
  /-- A signal stopped the child. -/
  | stopped (signal : Signal)
  /-- A traced child stopped for an event of the trace. -/
  | traceEvent (signal : Signal) (event : Nat)
  /-- A traced child stopped at a system call. -/
  | traceCall
  /-- A stopped child goes on. -/
  | continued
  deriving DecidableEq, Repr

/-- How a child ended. -/
inductive JobStatus
  | exited (code : Nat)
  | signaled (signal : Signal)
  deriving DecidableEq, Repr

namespace WaitReport

/-- The end that a report tells of, if it tells of one. -/
def ending? : WaitReport → Option JobStatus
  | .exited code => some (.exited code)
  | .signaled signal _ => some (.signaled signal)
  | _ => none

/-- Reads the signal number of a report, which must be a standard one. -/
def readSignal (n : Nat) : Except Errno Signal :=
  match Signal.ofNumber? n with
  | some s => .ok s
  | none => .error .EINVAL

/-- Unpacks a status word. -/
def ofWord (word : Nat) : Except Errno WaitReport :=
  let low := word % 128
  let second := word / 256 % 256
  if low = 0 then
    .ok (.exited second)
  else if low < 127 then do
    .ok (.signaled (← readSignal low) (word / 128 % 2 = 1))
  else if word % 256 = 127 then
    -- a system-call stop is a trap with the high bit of the signal byte set
    if second = 5 + 128 then
      .ok .traceCall
    else do
      let signal ← readSignal second
      if word / 65536 = 0 then .ok (.stopped signal) else .ok (.traceEvent signal (word / 65536))
  else
    .ok .continued

end WaitReport

namespace JobStatus

/-- The wording of a status. -/
def text : JobStatus → String
  | .exited code => "exit " ++ toString code
  | .signaled signal => "killed by " ++ signal.name

/-- The exit code, for a child that ended by itself. -/
def code? : JobStatus → Option Nat
  | .exited code => some code
  | .signaled _ => none

/-- Only an exit with code zero is a success. -/
def success (s : JobStatus) : Bool :=
  s.code? == some 0

end JobStatus

end CommandShell
