import CommandShell.Script.Input
import CommandShell.Script.Output

/-!
# Signals in scripts

The names by which scripts call signals, which lack the letters that they all begin with, and the
built-in command `trap`, by which a script says what is to be done when a signal comes. The number 0
stands for the end of the script. A signal that was ignored when the script started stays ignored.
-/

namespace CommandShell

namespace Script

/-! ## Names -/

/-- The number of the first signal that is free to be used for anything. -/
def firstFree : Nat := 34

/-- The name of the signal of this number. -/
def signalName (number : Nat) : String :=
  if number = 0 then "EXIT"
  else if number = 16 || number = 32 || number = 33 then toString number
  else
    match Signal.ofNumber? number with
    | some s => (s.name.drop 3).toString
    | none =>
      if number = firstFree then "RTMIN"
      else if number = Signal.highest then "RTMAX"
      else if number < 50 then "RTMIN+" ++ toString (number - firstFree)
      else "RTMAX-" ++ toString (Signal.highest - number)

/-- The number that a signal is called by. -/
def signalDigits? (text : String) : Option Nat :=
  if !text.isEmpty && text.toList.all Char.isDigit then
    text.toNat?.bind fun n => if n ≤ Signal.highest then some n else none
  else none

/-- The number of the signal that is called by its number or its name. -/
def signalNumber? (lowest : Nat) (text : String) : Option Nat :=
  (signalDigits? text).orElse fun _ =>
    ((List.range (Signal.highest + 1)).drop lowest).find? fun n =>
      (signalName n).toUpper = text.toUpper

/-- What a death by the signal of this number is called. -/
def deathWording (number : Nat) : String :=
  (["Hangup", "Interrupt", "Quit", "Illegal instruction", "Trace/breakpoint trap", "Aborted",
    "Bus error", "Floating point exception", "Killed", "User defined signal 1",
    "Segmentation fault", "User defined signal 2", "Broken pipe", "Alarm clock", "Terminated",
    "Stack fault", "Child exited", "Continued", "Stopped (signal)", "Stopped",
    "Stopped (tty input)", "Stopped (tty output)", "Urgent I/O condition",
    "CPU time limit exceeded", "File size limit exceeded", "Virtual timer expired",
    "Profiling timer expired", "Window changed", "I/O possible", "Power failure",
    "Bad system call"])[number - 1]?.getD
    (if number < firstFree then "Unknown signal " ++ toString number
      else "Real-time signal " ++ toString (number - firstFree))

/-! ## Traps -/

/-- Arranges with the system what the traps ask for. -/
def arrange (number : Nat) : Run Unit := do
  let e ← get
  let wanted : Disposition := match e.trap? number with
    | none => .default
    | some action =>
      if !action.isEmpty then .handled
      else if number = Signal.SIGCHLD.number then .default
      else .ignored
  let known : Option Arrangement := e.arrangements.lookup number
  let arrangement : Arrangement ← match known with
    | some a => pure a
    | none => do
      match ← ask (.disposition number) with
      | .ignored => pure .fixed
      | now => pure (.changeable now)
  let note (a : Arrangement) : Run Unit :=
    modify fun e =>
      { e with arrangements := (number, a) :: e.arrangements.filter (·.1 ≠ number) }
  match arrangement with
  | .fixed => note .fixed
  | .changeable now =>
    if now ≠ wanted then
      let _ ← ask (.dispose number wanted)
    note (.changeable wanted)

/-- Lets a signal be ignored from now on, whatever the script says. -/
def ignoreForGood (number : Nat) : Run Unit := do
  let _ ← ask (.dispose number .ignored)
  modify fun e =>
    { e with arrangements := (number, .fixed) :: e.arrangements.filter (·.1 ≠ number) }

/-- Forgets the traps, except those that ignore a signal. -/
def dropTraps : Run Unit := do
  let dropped := (← get).traps.filter fun t => !t.2.isEmpty
  modify fun e => { e with traps := e.traps.filter fun t => t.2.isEmpty, pending := [] }
  for (number, _) in dropped do
    if number ≠ 0 then arrange number

/-- Says what is to be done when signals come. -/
def trap (words : List String) : Run Nat := do
  match ← operandsOf words with
  | [] =>
    let traps := (← get).traps.mergeSort fun a b => a.1 ≤ b.1
    emit (String.join (traps.map fun (number, action) =>
      "trap -- " ++ quoteText action ++ " " ++ signalName number ++ "\n")) 0
  | first :: rest =>
    let hasAction := !rest.isEmpty && (signalDigits? first).isNone
    let action := if hasAction && first ≠ "-" then some first else none
    for word in if hasAction then rest else first :: rest do
      match signalNumber? 0 word with
      | none =>
        complain ("trap: " ++ word ++ ": bad trap\n")
        return 1
      | some number =>
        modify fun e =>
          let others := e.traps.filter (·.1 ≠ number)
          { e with traps := match action with
              | some text => (number, text) :: others
              | none => others }
        if number ≠ 0 then arrange number
    return 0

end Script

end CommandShell
