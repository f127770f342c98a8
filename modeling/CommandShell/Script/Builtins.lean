import CommandShell.Script.Jobs
import CommandShell.Script.Lookup
import CommandShell.Script.Settings
import CommandShell.Script.Test

/-!
# Built-in commands of scripts

The built-in commands that a script carries out in its own process, by their names. A few more,
which carry out commands in their turn, belong to the interpreter.
-/

namespace CommandShell

namespace Script

/-! ## Leaving loops, functions and scripts -/

/-- The number of loops that are to be left. -/
def levelsOf (words : List String) : Run Nat := do
  match words with
  | [] => return 1
  | word :: _ =>
    let n ← needNumber word
    if n = 0 then fault ("Illegal number: " ++ word) else return n

/-- Leaves loops, or goes on with the next round of one. Without loops there is nothing to do. -/
def leaveLoops (again : Bool) (words : List String) : Run Nat := do
  let levels := min (← levelsOf words) (← get).loops
  if levels = 0 then return 0
  else
    setStatus 0
    throw (if again then .again levels else .leave levels)

/-- Leaves a function or a script file. -/
def leaveFunction (words : List String) : Run Nat := do
  match words with
  | [] => throw (.returned false)
  | word :: _ =>
    setStatus (← needNumber word)
    throw (.returned true)

/-- Ends the script. -/
def leaveScript (words : List String) : Run Nat := do
  if let word :: _ := words then
    let code ← needNumber word
    modify ({ · with savedStatus := some code })
  throw (.ended true)

/-! ## The table -/

/-- The `command` built-in, unless it runs a command. -/
def command (words : List String) : Run Nat := do
  let (given, names) ← flagsOf "pvV" words
  match given.reverse.find? fun f => f.1 = 'v' || f.1 = 'V' with
  | some (letter, _) =>
    match names with
    | name :: _ => describeAll (letter = 'V') [name]
    | [] => return 0
  | none => return 0

/-- How long the process and its children have run, which is not measured. -/
def times : String :=
  let line := "0m0.000000s 0m0.000000s\n"
  line ++ line

/-- The built-in command of a name. -/
def builtin? (name : String) : Option (List String → Run Nat) :=
  match name with
  | ":" | "true" => some fun _ => return 0
  | "false" => some fun _ => return 1
  | "[" => some (test true)
  | "alias" => some nameAlias
  | "bg" | "fg" => some foreground
  | "break" => some (leaveLoops false)
  | "cd" | "chdir" => some cd
  | "command" => some command
  | "continue" => some (leaveLoops true)
  | "echo" => some echo
  | "exit" => some leaveScript
  | "export" => some (declare true false)
  | "getopts" => some getopts
  | "hash" => some hash
  | "jobs" => some jobs
  | "kill" => some kill
  | "local" => some makeLocal
  | "printf" => some fun words => do printf (← operandsOf words)
  | "pwd" => some pwd
  | "read" => some read
  | "readonly" => some (declare false true)
  | "return" => some leaveFunction
  | "set" => some adjust
  | "shift" => some shift
  | "test" => some (test false)
  | "times" => some fun _ => emit times 0
  | "trap" => some trap
  | "type" => some (describeAll true)
  | "ulimit" => some ulimit
  | "umask" => some umask
  | "unalias" => some dropAlias
  | "unset" => some unset
  | "wait" => some wait
  | _ => none

end Script

end CommandShell
