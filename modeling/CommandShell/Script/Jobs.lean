import CommandShell.Script.Signals

/-!
# Children of scripts

A script keeps a list of the jobs that it has started. It hears of the end of any child whenever it
waits for one, and notes that with the job of the child; a job that the script has waited for is
forgotten when another one is started. This file has the list, waiting, and the built-in commands
about jobs and processes.
-/

namespace CommandShell

namespace Script

/-! ## The list -/

/-- Adds a job under the lowest number that is free. One that has been waited for gives up its
number. -/
def addJob : Run Nat := do
  let e ← get
  let isFree (n : Nat) : Bool := e.jobs.all fun j => j.number ≠ n || (j.isDone && j.waited)
  let number := ((List.range (e.jobs.length + 1)).map (· + 1)).find? isFree |>.getD 1
  modify fun e =>
    { e with jobs := { number, children := [] } :: e.jobs.filter (·.number ≠ number) }
  return number

/-- Changes a job. -/
def modifyJob (number : Nat) (f : Job → Job) : Run Unit :=
  modify fun e => { e with jobs := e.jobs.map fun j => if j.number = number then f j else j }

/-- Adds a child to a job. -/
def addChild (number : Nat) (pid : Pid) : Run Unit :=
  modifyJob number fun j => { j with children := j.children ++ [(pid, none)] }

/-- Forgets a job. -/
def dropJob (number : Nat) : Run Unit :=
  modify fun e => { e with jobs := e.jobs.filter (·.number ≠ number) }

/-- The job of a number. -/
def job? (number : Nat) : Run (Option Job) := do
  return (← get).jobs.find? (·.number = number)

/-! ## Waiting -/

/-- The exit code that a status word counts as: a death by signal counts from 128. -/
def codeOfWord (word : Nat) : Nat :=
  if word % 128 = 0 then word / 256 % 256 else 128 + word % 128

/-- The exit code of a job, which is that of its last child. -/
def Job.code (j : Job) : Nat :=
  match j.children.getLast? with
  | some (_, some word) => codeOfWord word
  | _ => 0

/-- Tells of a death by signal, unless the signal is one that ends processes in the course of
things. -/
def announce (word : Nat) : Run Unit := do
  let number := word % 128
  if number ≠ 0 && number ≠ Signal.SIGINT.number && number ≠ Signal.SIGPIPE.number then
    complain (deathWording number ++ "\n")

/-- Hears of the end of one child, and tells of it if it belongs to the job `about`. The answer is
`none` if there are no children. -/
def hearOfOne (about : Option Nat) : Run (Except Errno Unit) := do
  match ← ask (.wait (-1)) with
  | .error e => return .error e
  | .ok (pid, word) =>
    let e ← get
    if let some j := e.jobs.find? fun j => j.children.any fun c => c.1 = pid && c.2.isNone then
      modifyJob j.number fun j =>
        { j with children := j.children.map fun c => if c.1 = pid then (pid, some word) else c }
      if about = some j.number then announce word
    return .ok ()

/-- Waits until a job is done. -/
def awaitJob (number : Nat) : Nat → Run Unit
  | 0 => return
  | rounds + 1 => do
    match ← job? number with
    | none => return
    | some j =>
      if j.isDone then return
      else
        match ← hearOfOne (some number) with
        | .ok _ => awaitJob number rounds
        | .error e => if e = .EINTR then awaitJob number rounds else return

/-- Waits for a job in the foreground, forgets it, and tells its exit code. -/
def finishJob (number : Nat) : Run Nat := do
  awaitJob number Program.patience
  let code := ((← job? number).map Job.code).getD 0
  dropJob number
  return code

/-- Notes the signals that have come and that something is to be done about. -/
def noteSignals : Run Unit := do
  if (← get).hasTraps then
    let caught : List Nat ← ask .takeCaught
    modify fun e => { e with
      pending := (e.pending ++ caught.filter fun n => !e.pending.contains n).mergeSort }

/-- Waits until `isOver`, or until a signal comes that something is to be done about, which is told.
-/
def awaitUntil (about : Option Nat) (isOver : Env → Bool) : Nat → Run (Option Nat)
  | 0 => return none
  | rounds + 1 => do
    if isOver (← get) then return none
    else
      match ← hearOfOne about with
      | .ok _ => awaitUntil about isOver rounds
      | .error e =>
        if e = .EINTR then
          noteSignals
          match (← get).pending with
          | n :: _ => return some n
          | [] => awaitUntil about isOver rounds
        else return none

/-- Waits for all jobs. -/
def awaitAll : Run Nat := do
  match ← awaitUntil none (fun e => e.jobs.all Job.isDone) Program.patience with
  | some n => return 128 + n
  | none =>
    modify fun e => { e with jobs := e.jobs.map ({ · with waited := true }) }
    return 0

/-- The job that a word with a percent sign stands for. -/
def namedJob (word : String) : Run Job := do
  let e ← get
  let name := word.drop 1
  let found : Option Job :=
    if name == "" || name == "%" || name == "+" then e.jobs[0]?
    else if name == "-" then e.jobs[1]?
    else name.toNat?.bind fun n => e.jobs.find? (·.number = n)
  match found with
  | some j => return j
  | none =>
    if name == "" || name == "%" || name == "+" then fault "No current job"
    else if name == "-" then fault "No previous job"
    else fault ("No such job: " ++ word)

/-- Waits for the jobs that words stand for. A process that is not known has not ended well. -/
def awaitNamed (code : Nat) : List String → Run Nat
  | [] => return code
  | word :: rest => do
    let found : Option Job ← if word.startsWith "%" then do
        pure (some (← namedJob word))
      else do
        let pid : Nat ← needNumber word
        pure ((← get).jobs.find? fun j => j.children.getLast?.any (·.1 = (pid : Pid)))
    match found with
    | none => awaitNamed 127 rest
    | some j =>
      let isOver (e : Env) : Bool := e.jobs.all fun k => k.number ≠ j.number || k.isDone
      match ← awaitUntil (some j.number) isOver Program.patience with
      | some n => return 128 + n
      | none =>
        modifyJob j.number ({ · with waited := true })
        let code := ((← job? j.number).map Job.code).getD 0
        awaitNamed code rest

/-- Waits for children. -/
def wait (words : List String) : Run Nat := do
  match ← operandsOf words with
  | [] => awaitAll
  | words => awaitNamed 127 words

/-! ## Telling of jobs -/

/-- How a job fares. -/
def Job.condition (j : Job) : String :=
  match j.isDone, j.children.getLast? with
  | true, some (_, some word) =>
    if word % 128 ≠ 0 then deathWording (word % 128)
    else if word / 256 % 256 = 0 then "Done"
    else "Done(" ++ toString (word / 256 % 256) ++ ")"
  | _, _ => "Running"

/-- A job in a list, `mark` being the sign of the newest ones. -/
def Job.shown (j : Job) (mark : String) (withPids : Bool) : String :=
  let head := "[" ++ toString j.number ++ "] " ++ mark ++ " "
  let padded (text : String) : String :=
    text ++ String.ofList (List.replicate (max 1 (33 - text.length)) ' ')
  let pidOf (c : Pid × Option Nat) : String := toString c.1 ++ " "
  if withPids then
    let first := head ++ (j.children.head?.map pidOf).getD "" ++ j.condition
    let indent := String.ofList (List.replicate head.length ' ')
    " |\n".intercalate (padded first :: (j.children.drop 1).map fun c =>
      padded (indent ++ pidOf c)) ++ "\n"
  else
    padded (head ++ j.condition) ++ String.join ((j.children.drop 1).map fun _ => " | ") ++ "\n"

/-- Lists the jobs that are known. -/
def jobs (words : List String) : Run Nat := do
  let (given, words) ← flagsOf "lp" words
  let all := (← get).jobs
  let chosen ← if words.isEmpty then pure all else words.mapM namedJob
  let mark (j : Job) : String :=
    if all.head?.any (·.number = j.number) then "+"
    else if (all.drop 1).head?.any (·.number = j.number) then "-"
    else " "
  let onlyPids := given.getLast?.any (·.1 = 'p')
  let text := String.join (chosen.map fun j =>
    if onlyPids then (j.children.head?.map fun c => toString c.1 ++ "\n").getD ""
    else j.shown (mark j) !given.isEmpty)
  if !onlyPids then
    for j in chosen do
      if j.isDone then dropJob j.number
  emit text 0

/-- Brings a job to the foreground, which needs more than a script has. -/
def foreground (words : List String) : Run Nat := do
  let j ← namedJob (words.headD "%%")
  fault ("job " ++ toString j.number ++ " not created under job control")

/-! ## Sending signals -/

/-- Sends a signal to the processes and jobs that words stand for. -/
def killAll (number : Nat) (code : Nat) : List String → Run Nat
  | [] => return code
  | word :: rest => do
    let pid : Pid ← if word.startsWith "%" then do
        pure (-((((← namedJob word).children.head?).map (·.1)).getD 0))
      else if word.startsWith "-" then do
        pure (-((← needNumber (word.drop 1).toString) : Pid))
      else do
        pure ((← needNumber word) : Pid)
    match ← ask (.kill pid number) with
    | .ok _ => killAll number code rest
    | .error e =>
      report (e.text ++ "\n")
      killAll number 1 rest

/-- Sends signals, or lists their names. -/
def kill (words : List String) : Run Nat := do
  let usage {α : Type} : Run α :=
    fault ("Usage: kill [-s sigspec | -signum | -sigspec] [pid | job]... or\n" ++
      "kill -l [exitstatus]")
  let ((given, targets), number?) : Given × Option Nat ← match words with
    | [] => pure (([], []), none)
    | first :: rest =>
      match if first.startsWith "-" then signalNumber? 1 (first.drop 1).toString else none with
      | some n => pure (([], rest), some n)
      | none => do
        let (given, rest) ← if first.startsWith "-" then flagsOf "ls:" words else pure ([], words)
        let named ← given.filterMapM fun (c, value) => do
          if c = 's' then
            match signalNumber? 1 value with
            | some n => pure (some n)
            | none => fault ("invalid signal number or name: " ++ value)
          else pure none
        pure ((given, rest), named.getLast?)
  let listing := given.any (·.1 = 'l')
  if listing then
    match targets with
    | [] =>
      let names := ((List.range (Signal.highest + 1)).drop 1).map signalName
      emit ("0\n" ++ String.join (names.map (· ++ "\n"))) 0
    | word :: _ =>
      let n ← needNumber word
      let n := if n > 128 then n - 128 else n
      if 0 < n && n ≤ Signal.highest then emit (signalName n ++ "\n") 0
      else fault ("invalid signal number or exit status: " ++ word)
  else if targets.isEmpty then usage
  else killAll (number?.getD Signal.SIGTERM.number) 0 targets

end Script

end CommandShell
