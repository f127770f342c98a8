import CommandShell.Builtin
import CommandShell.Shell.Launch
import CommandShell.Shell.State

/-!
# Executing a command line

`State.execute` carries out one line. The line is cut into tokens, a plan is made of them, and the
plan is run: a built-in command by the shell itself, anything else as a job of one or two children
which is waited for, unless it goes to the background. Whatever goes wrong is reported in one line
on the standard error, and only `exit` ends the shell.

`State.run` is the same without the report. It gives the error and the state that the line leaves
behind side by side, because a line that fails may have done something before it failed.
-/

namespace CommandShell

/-- Whether the shell goes on after a line. -/
inductive Flow
  | continue
  | terminate
  deriving DecidableEq, Repr

/-- What goes wrong in a built-in command. -/
inductive BuiltinError
  | missingArgument (builtin : Builtin)
  | changeDirectory (target : String) (error : IoError)
  /-- A built-in command was typed where only a program can stand. -/
  | unsupported (builtin : Builtin)
  | output (error : IoError)
  deriving DecidableEq, Repr

/-- The wording of a failed built-in command. -/
def BuiltinError.message : BuiltinError → String
  | .missingArgument builtin => "expected argument to \"" ++ builtin.name ++ "\""
  | .changeDirectory target error => target ++ ": " ++ error.message
  | .unsupported builtin =>
    "`" ++ builtin.name ++ "` cannot run in a pipeline or in the background"
  | .output error => "failed to write output: " ++ error.message

/-- What stops a command line. -/
inductive CommandError
  | parse (error : ParseError)
  | plan (error : PlanError)
  | builtin (error : BuiltinError)
  | launch (error : LaunchError)
  | wait (error : WaitError)
  /-- The output file of a built-in command cannot be opened. -/
  | redirect (path : String) (error : IoError)
  | output (error : IoError)
  deriving DecidableEq, Repr

/-- A line that has no list of tokens. Since every line can be cut, it has too many of them. -/
@[match_pattern]
abbrev CommandError.tooManyArguments (error : ParseError) : CommandError := .parse error

/-- The wording of a stopped command line. -/
def CommandError.message : CommandError → String
  | .parse error => error.message
  | .plan error => error.message
  | .builtin error => error.message
  | .launch error => error.message
  | .wait error => error.message
  | .redirect path error => path ++ ": " ++ error.message
  | .output error => "failed to write output: " ++ error.message

/-! ## Built-in commands -/

/-- Changes the working directory to the canonical path of the target. -/
def State.changeDirectory (s : State) (target : String) :
    Shell (State × Except BuiltinError Flow) := do
  let failed (e : IoError) : State × Except BuiltinError Flow :=
    (s, .error (.changeDirectory target e))
  match ← Shell.call (.canonical (Path.join s.workingDir target)) with
  | .error e => return failed e
  | .ok path =>
    match ← Shell.call (.isDirectory path) with
    | .ok true => return ({ s with workingDir := path }, .ok .continue)
    | _ => return failed (.os .ENOTDIR)

/-- Writes the listing of built-in commands. -/
def writeListing (sink : Sink) : Shell (Except IoError Unit) := do
  match ← Shell.call (.write sink Builtin.listing) with
  | .error e => return .error e
  | .ok _ => Shell.call (.flush sink)

/-- Carries out a built-in command with the words after its name, its output going to `sink`. -/
def Builtin.execute (builtin : Builtin) (arguments : List String) (s : State) (sink : Sink) :
    Shell (State × Except BuiltinError Flow) :=
  match builtin with
  | .exit => .done (s, .ok .terminate)
  | .cd =>
    match arguments with
    | [] => .done (s, .error (.missingArgument .cd))
    | target :: _ => s.changeDirectory target
  | .help => do
    match ← writeListing sink with
    | .ok _ => return (s, .ok .continue)
    | .error e => return (s, .error (.output e))

/-- How the file for the output of a built-in command is opened. -/
def outputOptions (mode : OutputMode) : OpenOptions :=
  let options : OpenOptions := { creates := true, permissions := 0o644 }
  match mode with
  | .truncate => { options with writes := true, truncates := true }
  | .append => { options with appends := true }

/-- Runs a plan whose left program is a built-in command. `exit` ends the shell whatever else the
line asks for; the others can neither be piped nor put into the background. A redirection of the
input is passed over, since no built-in command reads any. -/
def State.runBuiltin (s : State) (builtin : Builtin) (plan : Plan) :
    Shell (State × Except CommandError Flow) := do
  let lift (r : State × Except BuiltinError Flow) : State × Except CommandError Flow :=
    (r.1, r.2.mapError .builtin)
  if builtin = .exit then
    return lift (← builtin.execute plan.left.arguments s .output)
  else if plan.isPipeline || plan.background then
    return (s, .error (.builtin (.unsupported builtin)))
  else
    match plan.left.output with
    | none => return lift (← builtin.execute plan.left.arguments s .output)
    | some target =>
      let path := Path.join s.workingDir target.path
      match ← Shell.call (.openOutput path (outputOptions target.mode)) with
      | .error e => return (s, .error (.redirect target.path e))
      | .ok fd =>
        let result ← builtin.execute plan.left.arguments s (.file fd)
        let _ ← Shell.call (.close fd)
        return lift result

/-! ## Jobs -/

/-- Waits for a foreground job and notes how it ended. An interrupt that came meanwhile was meant
for the job and is forgotten; the line it broke off is ended on the screen. -/
def State.runForeground (s : State) (job : Job) : Shell (State × Except CommandError Flow) := do
  match ← job.wait with
  | .error e => return (s, .error (.wait e))
  | .ok status =>
    let _ ← Shell.call .takeInterrupt
    let noted := { s with lastStatus := some status }
    match status with
    | .exited _ => return (noted, .ok .continue)
    | .signaled signal =>
      if signal = .SIGINT then
        match ← Shell.call (.write .output "\n") with
        | .error e => return (s, .error (.output e))
        | .ok _ => return (noted, .ok .continue)
      else
        Shell.call (.warn ("orbit: " ++ status.text ++ "\n"))
        return (noted, .ok .continue)

/-- Takes a background job into the table and tells its first process. -/
def State.runBackground (s : State) (job : Job) : Shell (State × Except CommandError Flow) := do
  let s := s.track job
  let leader := job.pids.headD 0
  match ← Shell.call
      (.write .output ("Started background job with PID: " ++ toString leader ++ "\n")) with
  | .error e => return (s, .error (.output e))
  | .ok _ => return (s, .ok .continue)

/-- Runs a plan of programs. What the shell has written has to be out before the children write.
-/
def State.runJob (s : State) (plan : Plan) : Shell (State × Except CommandError Flow) := do
  match ← Shell.call (.flush .output) with
  | .error e => return (s, .error (.output e))
  | .ok _ =>
    match ← launch plan s.workingDir with
    | .error e => return (s, .error (.launch e))
    | .ok job => if job.background then s.runBackground job else s.runForeground job

/-- Runs a plan. -/
def State.runPlan (s : State) (plan : Plan) : Shell (State × Except CommandError Flow) :=
  match Builtin.ofName? plan.left.program with
  | some builtin => s.runBuiltin builtin plan
  | none =>
    match plan.right.bind fun right => Builtin.ofName? right.program with
    | some builtin => .done (s, .error (.builtin (.unsupported builtin)))
    | none => s.runJob plan

/-! ## Lines -/

/-- The plan of a line, `none` for a blank one. -/
def planLine (line : String) (maxArgs : Nat) : Except CommandError (Option Plan) := do
  let tokens ← (tokenize line maxArgs).mapError .parse
  (Plan.scan? tokens).mapError .plan

/-- Runs a line and tells what went wrong. -/
def State.run (s : State) (line : String) : Shell (State × Except CommandError Flow) :=
  match planLine line s.config.maxArgs with
  | .error e => .done (s, .error e)
  | .ok none => .done (s, .ok .continue)
  | .ok (some plan) => s.runPlan plan

/-- Runs a line and reports what went wrong. -/
def State.execute (s : State) (line : String) : Shell (State × Flow) := do
  match ← s.run line with
  | (s, .ok flow) => return (s, flow)
  | (s, .error e) =>
    Shell.call (.warn ("orbit: " ++ e.message ++ "\n"))
    return (s, .continue)

end CommandShell
