import CommandShell.Shell.Call

/-!
# Jobs

The processes made for one command line, and the table of those that run in the background.
`Job.wait` blocks until every process of a job has ended; `Job.sweep` asks once about each process
of the table, without blocking, and takes out those that have ended. A report of a stop or a
continuation is no end, and an interrupted call tells nothing, so both leave a process where it
is.
-/

namespace CommandShell

/-- The processes of one command line, in the order of the line. -/
structure Job where
  pids : List Pid
  background : Bool := false
  deriving DecidableEq, Repr

/-- A process could not be waited for. -/
structure WaitError where
  pid : Pid
  errno : Errno
  deriving DecidableEq, Repr

/-- The wording of a failed wait. -/
def WaitError.message (e : WaitError) : String :=
  "failed to wait for process " ++ toString e.pid ++ ": " ++ e.errno.display

namespace Job

/-- An answer about a process that does not settle what became of it. -/
def isUnsettled : Except Errno WaitReport → Bool
  | .ok report => report.ending?.isNone
  | .error e => e == .EINTR

/-- Blocks until a process has ended. -/
def waitFor (pid : Pid) : Shell (Except WaitError JobStatus) :=
  .ask (I := ShellCalls) (.wait pid true) isUnsettled fun answer settled =>
    match answer, settled with
    | .error errno, _ => .done (.error ⟨pid, errno⟩)
    | .ok report, settled =>
      match h : report.ending? with
      | some status => .done (.ok status)
      | none => absurd settled (by simp [isUnsettled, h])

/-- The result of a job so far and that of its next process: the first failure is kept, and
otherwise the last status. -/
def combine (first second : Except WaitError JobStatus) : Except WaitError JobStatus :=
  match first with
  | .error e => .error e
  | .ok _ => second

/-- Waits for processes one after the other, also past one that could not be waited for. -/
def waitAll (result : Except WaitError JobStatus) :
    List Pid → Shell (Except WaitError JobStatus)
  | [] => .done result
  | pid :: rest => do waitAll (combine result (← waitFor pid)) rest

/-- Waits for all processes of a job. A job without processes has succeeded. -/
def wait (job : Job) : Shell (Except WaitError JobStatus) :=
  waitAll (.ok (.exited 0)) job.pids

/-- What a sweep finds: the processes that stay in the table, and those that have ended. -/
structure Sweep where
  kept : List Pid := []
  finished : List (Pid × JobStatus) := []
  deriving DecidableEq, Repr

/-- Sorts one process in front of what was found about those after it. -/
def Sweep.add (s : Sweep) (pid : Pid) (answer : Except Errno WaitReport) : Sweep :=
  match answer with
  | .ok report =>
    match report.ending? with
    | some status => { s with finished := (pid, status) :: s.finished }
    | none => { s with kept := pid :: s.kept }
  | .error e => if e = .EINTR then { s with kept := pid :: s.kept } else s

/-- Asks once about each process of the table. -/
def sweep : List Pid → Shell Sweep
  | [] => .done {}
  | pid :: rest => do
    let answer ← Shell.call (.wait pid false)
    return (← sweep rest).add pid answer

end Job

end CommandShell
