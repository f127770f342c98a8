import CommandShell.Config
import CommandShell.Shell.Job
import CommandShell.System.Disk

/-!
# The state of a shell

What outlives a single command line, the prompt that shows it, and the reports of background jobs
that have ended.
-/

namespace CommandShell

/-- What outlives a command line. -/
structure State where
  /-- Where every child starts. Only `cd` changes it. -/
  workingDir : String
  config : Config
  /-- The background processes that have not been collected. -/
  jobs : List Pid := []
  /-- How the last foreground job ended. -/
  lastStatus : Option JobStatus := none
  /-- Whether prompts are coloured. -/
  styled : Bool := false
  deriving DecidableEq, Repr

namespace State

/-- The state of a shell that starts in a directory. Whether prompts are coloured is decided here
once, from the settings and from what the shell writes to. -/
def start (config : Config) (workingDir : String) (onTerminal : Bool) : State :=
  { workingDir, config, styled := config.color && onTerminal }

/-- Adds the processes of a job to the table. -/
def track (s : State) (job : Job) : State :=
  { s with jobs := s.jobs ++ job.pids }

/-! ## The prompt -/

/-- The prompt of a shell whose working directory exists. Colours are bold and cyan. -/
def fullPrompt (s : State) : String :=
  if s.styled then
    s.config.promptSymbol ++ " \x1b[1m\x1b[38;5;6m" ++ Text.shown s.workingDir ++ "\x1b[m > "
  else
    s.config.promptSymbol ++ " " ++ Text.shown s.workingDir ++ " > "

/-- The prompt for the next line. If the working directory has gone away, that is reported and the
prompt leaves it out. -/
def prompt (s : State) : Shell String := do
  let report (reason : String) : Shell String := do
    Shell.call (.warn ("orbit: " ++ Text.shown s.workingDir ++ ": " ++ reason ++ "\n"))
    return s.config.promptSymbol ++ " > "
  match ← Shell.call (.isDirectory s.workingDir) with
  | .ok true => return s.fullPrompt
  | .ok false => report Errno.ENOTDIR.text
  | .error e => report e.message

/-- Writes the prompt. -/
def render (s : State) : Shell (Except IoError Unit) := do
  match ← Shell.call (.write .output (← s.prompt)) with
  | .error e => return .error e
  | .ok _ => Shell.call (.flush .output)

/-! ## Reports of background jobs -/

/-- The line that tells the end of a background process. -/
def announcement (pid : Pid) (status : JobStatus) : String :=
  "[" ++ toString pid ++ "] Done (" ++ status.text ++ ")\n"

/-- Writes the lines for processes that have ended, up to the first that cannot be written. -/
def announce : List (Pid × JobStatus) → Shell (Except IoError Unit)
  | [] => .done (.ok ())
  | (pid, status) :: rest => do
    match ← Shell.call (.write .output (announcement pid status)) with
    | .error e => return .error e
    | .ok _ => announce rest

/-- Takes the processes that have ended out of the table, and tells of them if the settings say
so. -/
def reportFinished (s : State) : Shell (State × Except IoError Unit) := do
  let sweep ← Job.sweep s.jobs
  let s := { s with jobs := sweep.kept }
  if s.config.reportBackgroundCompletion then
    return (s, ← announce sweep.finished)
  else
    return (s, .ok ())

end State

end CommandShell
