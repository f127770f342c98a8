import CommandShell.Program.Basic
import CommandShell.Text.Bytewise
import CommandShell.Text.Numeral
import CommandShell.Script.Syntax

/-!
# What a running script knows

The state of a script, and the monad in which its commands are carried out. Variables, functions,
traps and jobs are kept in lists; a `Run` makes system calls, changes the state, and may be left
early by an `Exit`, of which there is one for each way in which a script gives up on what it does.
-/

namespace CommandShell

namespace Script

open Numeral

/-! ## Parts of the state -/

/-- A variable. It may have no value and still be marked. -/
structure Variable where
  value : Option String := none
  /-- Other programs find it. -/
  exported : Bool := false
  /-- Its value cannot be changed. -/
  readOnly : Bool := false
  deriving DecidableEq, Repr

/-- Children that have been started together. -/
structure Job where
  number : Nat
  /-- The children in the order of the pipeline, and how each has ended. -/
  children : List (Pid × Option Nat)
  /-- The script has heard that all of them have ended. -/
  waited : Bool := false

/-- All children of a job have ended. -/
def Job.isDone (j : Job) : Bool :=
  j.children.all (·.2.isSome)

/-- What a script does about a signal, as far as it has had to do with it. -/
inductive Arrangement
  /-- The signal was ignored when the script started, and stays so. -/
  | fixed
  | changeable (now : Disposition)
  deriving DecidableEq

/-- What the present command or function gives back when it is left. -/
structure Frame where
  /-- The variables that it has given values of their own, and what they were before. -/
  bindings : List (String × Option Variable) := []
  /-- The options that were on, if it is to bring them back. -/
  options : Option (List String) := none

/-- What a running script knows. -/
structure Env where
  /-- How the script is called. -/
  name : String
  arguments : List String := []
  /-- The variables in the order in which they came to be. -/
  bindings : List (String × Variable) := []
  functions : List (String × Command) := []
  aliases : List (String × String) := []
  /-- The texts that redirections of the script read. -/
  texts : List (Nat × Word) := []
  textCount : Nat := 0
  pid : Pid
  parent : Pid
  /-- The exit code of the last command. -/
  status : Nat := 0
  /-- The exit code of the last command whose output was put into a word of the present one. -/
  outputStatus : Nat := 0
  /-- The exit code to end with, if the script is ending or answers a signal. -/
  savedStatus : Option Nat := none
  /-- The process that was last put into the background. -/
  started : Option Pid := none
  /-- The jobs that are known, the newest first. -/
  jobs : List Job := []
  line : Nat := 1
  /-- How far the text has been read. -/
  readLine : Nat := 1
  /-- The built-in command that is being carried out. -/
  builtin : Option String := none
  /-- The options that are on. -/
  options : List String := []
  /-- How many loops are being carried out in the present function. -/
  loops : Nat := 0
  /-- How many functions are being carried out. -/
  depth : Nat := 0
  /-- What the commands and functions that are being carried out give back, the innermost first. -/
  frames : List Frame := []
  /-- What is to be done when a signal comes, and at the end under the number 0. -/
  traps : List (Nat × String) := []
  arrangements : List (Nat × Arrangement) := []
  /-- The signals that have come and for which nothing has been done yet. -/
  pending : List Nat := []
  /-- The descriptor that the script is read from. -/
  source : Option Fd := none
  /-- The working directory by the names through which it was reached. -/
  directory : Option String := none
  /-- How many arguments have been searched for options, and how far in the present one. -/
  optionPlace : Nat × Option Nat := (1, none)
  /-- The programs that have been found before. -/
  found : List String := []
  /-- What other programs find as things are. -/
  environment : List (String × String) := []

/-! ## Options -/

/-- The options that can be on, and the letters they go by. -/
def optionTable : List (String × Option Char) :=
  [("errexit", some 'e'), ("noglob", some 'f'), ("ignoreeof", some 'I'), ("interactive", some 'i'),
   ("monitor", some 'm'), ("noexec", some 'n'), ("stdin", some 's'), ("xtrace", some 'x'),
   ("verbose", some 'v'), ("vi", some 'V'), ("emacs", some 'E'), ("noclobber", some 'C'),
   ("allexport", some 'a'), ("notify", some 'b'), ("nounset", some 'u'), ("privileged", some 'p'),
   ("nolog", none), ("debug", none)]

namespace Env

/-- An option is on. -/
def has (e : Env) (option : String) : Bool :=
  e.options.contains option

/-- Turns an option on or off. -/
def setOption (e : Env) (option : String) (on : Bool) : Env :=
  let others := e.options.filter (· ≠ option)
  { e with options := if on then option :: others else others }

/-- The letters of the options that are on. -/
def optionLetters (e : Env) : String :=
  String.ofList (optionTable.reverse.filterMap fun (name, letter) =>
    if e.has name then letter else none)

/-! ## Variables -/

/-- The variable of a name. -/
def variableOf? (e : Env) (name : String) : Option Variable :=
  e.bindings.lookup name

/-- The value of a variable. -/
def value? (e : Env) (name : String) : Option String :=
  (e.variableOf? name).bind (·.value)

/-- Puts a variable in the place of the one of its name, or behind all others. -/
def put (e : Env) (name : String) (v : Variable) : Env :=
  if (e.variableOf? name).isSome then
    { e with bindings := e.bindings.map fun w => if w.1 = name then (name, v) else w }
  else { e with bindings := e.bindings ++ [(name, v)] }

/-- Removes a variable. -/
def remove (e : Env) (name : String) : Env :=
  { e with bindings := e.bindings.filter (·.1 ≠ name) }

/-- The row that a name is kept in, out of so many. It comes from the characters of the name. -/
def row (rows : Nat) (name : String) : Nat :=
  let cs := name.toList
  cs.foldl (fun n c => n + c.toNat) ((cs.headD '\x00').toNat * 16) % rows

/-- The order in which named things are listed: row by row. -/
def inRows {α : Type} (rows : Nat) (things : List (String × α)) : List (String × α) :=
  things.mergeSort fun a b => row rows a.1 ≤ row rows b.1

/-- How many rows there are for variables, and for aliases as well. -/
def rows : Nat := 39

/-- The variables that other programs find. -/
def exports (e : Env) : List (String × String) :=
  inRows rows (e.bindings.filterMap fun (name, v) =>
    if v.exported then v.value.map fun value => (name, value) else none)

/-- The characters at which values are split. -/
def separators (e : Env) : String :=
  (e.value? "IFS").getD " \t\n"

/-- Lets a name stand for a text. -/
def setAlias (e : Env) (name text : String) : Env :=
  if (e.aliases.lookup name).isSome then
    { e with aliases := e.aliases.map fun a => if a.1 = name then (name, text) else a }
  else { e with aliases := e.aliases ++ [(name, text)] }

/-- What is done about a signal, if it is not left to itself. -/
def trap? (e : Env) (number : Nat) : Option String :=
  e.traps.lookup number

/-- Something is done about some signal. -/
def hasTraps (e : Env) : Bool :=
  e.traps.any fun t => !t.2.isEmpty

/-- The names of the things that a message is about. -/
def messageStart (e : Env) : String :=
  e.name ++ ": " ++ toString e.line ++ ": " ++ match e.builtin with
    | some name => name ++ ": "
    | none => ""

end Env

/-! ## Running -/

/-- How the commands of a script are left early. -/
inductive Exit
  /-- So many loops are ended. -/
  | leave (levels : Nat)
  /-- So many loops but one are ended, and that goes on with its next round. -/
  | again (levels : Nat)
  /-- The function or the script file is left, with an exit code of its own if `chosen`. -/
  | returned (chosen : Bool)
  /-- Something cannot be done that the script cannot do without. -/
  | failed
  /-- The script ends, `chosen` if it asked for that. -/
  | ended (chosen : Bool)
  /-- The process has nothing more to do. -/
  | halted (code : Nat)

/-- A part of the run of a script. -/
abbrev Run := ExceptT Exit (StateT Env (Dialogue Syscalls))

/-- Makes a system call. -/
def ask (r : Syscall) : Run r.Answer :=
  liftM (Program.call r : Dialogue Syscalls _)

/-- Writes to a descriptor, unless there is nothing to write. -/
def writeTo (fd : Fd) (text : String) : Run (Except Errno Unit) :=
  liftM (Program.writeBytes fd (Bytewise.toBytes text) : Dialogue Syscalls _)

/-- Writes to the standard error. A failure of that goes unnoticed. -/
def complain (text : String) : Run Unit := do
  let _ ← ask (.write Fd.stderr (Bytewise.toBytes text))

/-- Reports something, with the place in the script. -/
def report (text : String) : Run Unit := do
  complain ((← get).messageStart ++ text ++ "\n")

/-- Notes the exit code of a command. -/
def setStatus (code : Nat) : Run Unit :=
  modify ({ · with status := code })

/-- Reports something that the script cannot do without. -/
def fault {α : Type} (text : String) : Run α := do
  report text
  setStatus 2
  throw .failed

/-- Does something and tells how it was left, if it was left early. -/
def attempt {α : Type} (body : Run α) : Run (Except Exit α) :=
  ExceptT.mk do
    let result ← body.run
    return .ok result

/-- Goes on in the way in which something was left. -/
def settle {α : Type} (result : Except Exit α) : Run α :=
  match result with
  | .ok a => return a
  | .error e => throw e

/-- A path as the system takes it. -/
def pathOf (text : String) : String :=
  Bytewise.decode text

/-! ## Giving values -/

/-- A number that a built-in command needs. -/
def needNumber (text : String) : Run Nat :=
  match count? text with
  | some n => return n
  | none => fault ("Illegal number: " ++ text)

/-- Gives a variable a value, or takes it away, and adds marks. A variable that is read-only cannot
be changed. -/
def setVariable (name : String) (value : Option String) (exported : Bool := false)
    (readOnly : Bool := false) : Run Unit := do
  if !isName name then fault (name ++ ": bad variable name")
  let e ← get
  let before := (e.variableOf? name).getD {}
  if before.readOnly then fault (name ++ ": is read only")
  if name = "OPTIND" then
    if let some text := value then
      let place ← if text.isEmpty then pure 1 else needNumber text
      modify ({ · with optionPlace := (if place = 0 then 1 else place, none) })
  if name = "PATH" then modify ({ · with found := [] })
  modify (·.put name {
    value
    exported := before.exported || exported || (value.isSome && e.has "allexport")
    readOnly })

/-- Takes a variable away. -/
def unsetVariable (name : String) : Run Unit := do
  match (← get).variableOf? name with
  | none => return
  | some v =>
    if v.readOnly then fault (name ++ ": is read only")
    modify (·.remove name)

/-- Marks a variable that is there, or makes one without a value. -/
def markVariable (name : String) (exported readOnly : Bool) : Run Unit := do
  match (← get).variableOf? name with
  | some v =>
    modify (·.put name
      { v with exported := v.exported || exported, readOnly := v.readOnly || readOnly })
  | none => setVariable name none exported readOnly

/-- Enters a command or a function that may give variables values of their own. -/
def enterFrame : Run Unit :=
  modify fun e => { e with frames := {} :: e.frames }

/-- Gives a variable a value of its own in the present command or function. Without a value it keeps
the one it has. -/
def setLocal (name : String) (value : Option String) (exported : Bool) : Run Unit := do
  if !isName name then fault (name ++ ": bad variable name")
  let before := (← get).variableOf? name
  modify fun e =>
    match e.frames with
    | frame :: rest =>
      { e with frames := { frame with bindings := (name, before) :: frame.bindings } :: rest }
    | [] => e
  if value.isSome || before.isNone then setVariable name value exported

/-- Lets the options be brought back when the present function is left. -/
def setOptionsLocal : Run Unit :=
  modify fun e =>
    match e.frames with
    | frame :: rest =>
      let frame := { frame with options := frame.options.orElse fun _ => some e.options }
      { e with frames := frame :: rest }
    | [] => e

/-- Leaves a command or a function. -/
def leaveFrame : Run Unit :=
  modify fun e =>
    match e.frames with
    | [] => e
    | frame :: rest =>
      let e := { e with frames := rest, options := frame.options.getD e.options }
      frame.bindings.foldl (fun e (name, before) =>
        match before with
        | some v => e.put name v
        | none => e.remove name) e

/-- Does something in a frame of its own. -/
def inFrame {α : Type} (body : Run α) : Run α := do
  enterFrame
  let result ← attempt body
  leaveFrame
  settle result

end Script

end CommandShell
