import CommandShell.Procedure.Syntax
import CommandShell.Program.Ends
import CommandShell.Program.Processes
import CommandShell.Text.Numeral

/-!
# Running procedures

`Procedure.program` runs what `CommandShell.Procedure.Syntax` reads. Every value is a text; a number
is the text of its digits. A file handle that is open for reading keeps what it has
read and not given out yet.
-/

namespace CommandShell

namespace Procedure

/-- A file handle: its descriptor and what has been read ahead. -/
structure Handle where
  fd : Fd
  ahead : ByteArray := .empty

/-- What a running program knows. -/
structure Env where
  name : String
  arguments : List String
  bindings : List (String × String) := []
  handles : List (String × Handle) := []

/-- How the statements of a program are left early. -/
inductive Exit
  | leave
  | again
  | halted (code : Nat)

/-- A part of the run of a program. -/
abbrev Run := ExceptT Exit (StateT Env (Dialogue Syscalls))

/-- Makes a system call. -/
def ask (r : Syscall) : Run r.Answer :=
  liftM (Program.call r : Dialogue Syscalls _)

/-- A value that counts as true. -/
def isTrue (v : String) : Bool :=
  !(v.isEmpty || v == "0")

/-- The text of a truth value. -/
def truth (b : Bool) : String :=
  if b then "1" else ""

/-- The whole number that a text begins with. -/
def number (v : String) : Int :=
  match v.toList with
  | '-' :: rest => -((Numeral.readDigits 10 0 rest).1 : Int)
  | cs => (Numeral.readDigits 10 0 cs).1

/-- The value of an operation. -/
def operate (operator a b : String) : String :=
  match operator with
  | "+" => toString (number a + number b)
  | "-" => toString (number a - number b)
  | "*" => toString (number a * number b)
  | "/" => toString (Int.tdiv (number a) (number b))
  | "%" => toString (Int.fmod (number a) (number b))
  | "." => a ++ b
  | "==" => truth (number a == number b)
  | "!=" => truth (number a != number b)
  | "<" => truth (number a < number b)
  | ">" => truth (number a > number b)
  | "<=" => truth (number a ≤ number b)
  | ">=" => truth (number a ≥ number b)
  | "eq" => truth (a == b)
  | "ne" => truth (a != b)
  | _ => ""

/-! ## Files -/

/-- Opens a file under a handle. A name after `>` is made, and one after `>>` added to. -/
def openHandle (handle target : String) : Run String := do
  let (mode, path) : OpenMode × String :=
    if target.startsWith ">>" then (.write .append 0o666, (target.drop 2).trimAscii.toString)
    else if target.startsWith ">" then (.write .truncate 0o666, (target.drop 1).trimAscii.toString)
    else if target.startsWith "<" then (.read, (target.drop 1).trimAscii.toString)
    else (.read, target)
  match ← ask (.openFile path mode true) with
  | .error _ => return ""
  | .ok fd =>
    modify fun e => { e with handles := (handle, { fd }) :: e.handles.filter (·.1 ≠ handle) }
    return "1"

/-- Closes a handle. -/
def closeHandle (handle : String) : Run String := do
  match (← get).handles.lookup handle with
  | none => return ""
  | some h =>
    let _ ← ask (.close h.fd)
    modify fun e => { e with handles := e.handles.filter (·.1 ≠ handle) }
    return "1"

/-- Reads ahead until there is a whole line or no more. -/
def fill (h : Handle) : Nat → Run Handle
  | 0 => return h
  | fuel + 1 => do
    if h.ahead.toList.contains 10 then return h
    else
      match ← ask (.read h.fd 8192) with
      | .ok bytes =>
        if bytes.isEmpty then return h else fill { h with ahead := h.ahead ++ bytes } fuel
      | .error _ => return h

/-- The next line of a handle, with its end. -/
def nextLine (handle : String) : Run String := do
  let known := (← get).handles.lookup handle
  match (if handle = "STDIN" then known.or (some { fd := Fd.stdin }) else known) with
  | none => return ""
  | some h =>
    let h ← fill h Program.patience
    let line := Program.takeLines 1 h.ahead
    let rest := { h with ahead := h.ahead.extract line.size h.ahead.size }
    modify fun e => { e with handles := (handle, rest) :: e.handles.filter (·.1 ≠ handle) }
    return Text.ofBytes line

/-- Answers a question about a file. -/
def fileTest (letter : Char) (path : String) : Run Bool := do
  let asked : Option Disk.Right :=
    if letter = 'r' then some .read else if letter = 'w' then some .write
    else if letter = 'x' then some .execute else none
  if let some right := asked then return (← ask (.access path [right])).toBool
  match ← ask (.inspect path (letter != 'l')) with
  | .error _ => return false
  | .ok kind =>
    return match letter, kind with
      | 'e', _ => true
      | 'f', .regular _ _ _ => true
      | 'd', .directory _ _ => true
      | 'l', .link _ => true
      | 's', .regular _ size _ => size > 0
      | 'z', .regular _ size _ => size = 0
      | _, _ => false

/-! ## Processes -/

/-- The number of the system call that arranges tracing. -/
def traceCall : Nat := 101

/-- Sends a signal to processes and counts those it could be sent to. -/
def killAll (signal : Nat) (sent : Nat) : List String → Run String
  | [] => return toString sent
  | pid :: rest => do
    match ← ask (.kill (number pid) signal) with
    | .ok _ => killAll signal (sent + 1) rest
    | .error _ => killAll signal sent rest

/-- Writes to the handle that the first argument names, or to the standard output. -/
def print (arguments : List String) : Run String := do
  let (fd, texts) := match arguments with
    | first :: rest =>
      if first = "STDERR" then (Fd.stderr, rest)
      else if first = "STDOUT" then (Fd.stdout, rest)
      else (Fd.stdout, arguments)
    | [] => (Fd.stdout, [])
  let bytes := Text.bytes ("".intercalate texts)
  match ← liftM (Program.writeBytes fd bytes : Dialogue Syscalls _) with
  | .ok _ => return "1"
  | .error _ => return ""

/-- Calls a function. -/
def callFunction (name : String) (arguments : List String) : Run String := do
  match name, arguments with
  | "fork", _ =>
    match ← ask .fork with
    | .ok .child => return "0"
    | .ok (.parent pid) => return toString pid
    | .error _ => return ""
  | "getppid", _ =>
    let pid : Pid ← ask .parentId
    return toString pid
  | "open", [handle, target] => openHandle handle target
  | "close", [handle] => closeHandle handle
  | "select", [_, _, _, time] =>
    ask (.sleep ((Program.duration? time).getD 0))
    return "0"
  | "sleep", [time] =>
    ask (.sleep ((Program.duration? time).getD 0))
    return time
  | "kill", signal :: pids =>
    match Program.signalNumber? signal with
    | some n => killAll n 0 pids
    | none => return "0"
  | "waitpid", pid :: _ =>
    match ← ask (.wait (number pid)) with
    | .ok (child, word) =>
      modify fun e => { e with bindings := ("?", toString word) :: e.bindings.filter (·.1 ≠ "?") }
      return toString child
    | .error _ => return "-1"
  | "syscall", wanted :: request :: _ =>
    if number wanted = traceCall && number request = 0 then
      ask .beTraced
      return "0"
    else return "-1"
  | "unlink", [path] =>
    match ← ask (.remove path) with
    | .ok _ => return "1"
    | .error _ => return "0"
  | "print", arguments => print arguments
  | "exit", arguments => throw (.halted ((number (arguments.headD "0")).toNat % 256))
  | "die", arguments =>
    let _ ← print ("STDERR" :: arguments)
    throw (.halted 255)
  | "defined", [value] => return truth !value.isEmpty
  | _, _ => return ""

/-! ## Evaluation -/

/-- The value of a variable. -/
def valueOf (name : String) : Run String := do
  match name with
  | "$" =>
    let pid : Pid ← ask .processId
    return toString pid
  | "0" => return (← get).name
  | _ => return ((← get).bindings.lookup name).getD ""

mutual

/-- The value of an expression. -/
def eval (e : Expr) : Nat → Run String
  | 0 => throw (.halted 255)
  | fuel + 1 =>
    match e with
    | .text s => return s
    | .joined parts => do return "".intercalate (← evalAll parts fuel)
    | .variable name => valueOf name
    | .argument index => do
      let i ← eval index fuel
      return ((← get).arguments[(number i).toNat]?).getD ""
    | .line handle => nextLine handle
    | .negation e => do return truth !(isTrue (← eval e fuel))
    | .fileTest letter e => do return truth (← fileTest letter (← eval e fuel))
    | .binary "&&" a b | .binary "and" a b => do
      let first ← eval a fuel
      if isTrue first then eval b fuel else return first
    | .binary "||" a b | .binary "or" a b => do
      let first ← eval a fuel
      if isTrue first then return first else eval b fuel
    | .binary operator a b => do
      let first ← eval a fuel
      let second ← eval b fuel
      return operate operator first second
    | .fits e r => do return truth (r.occursIn (← eval e fuel).toList)
    | .assign name e => do
      let value ← eval e fuel
      modify fun env =>
        { env with bindings := (name, value) :: env.bindings.filter (·.1 ≠ name) }
      return value
    | .call name arguments => do callFunction name (← evalAll arguments fuel)

/-- The values of expressions. -/
def evalAll (es : List Expr) : Nat → Run (List String)
  | 0 => throw (.halted 255)
  | fuel + 1 =>
    match es with
    | [] => return []
    | e :: rest => do
      let value ← eval e fuel
      return value :: (← evalAll rest fuel)

end

/-- Does something and tells how it was left, if it was left early. -/
def attempt (body : Run Unit) : Run (Except Exit Unit) :=
  ExceptT.mk do
    let result ← body.run
    return .ok result

mutual

/-- Carries out a statement. -/
def run (s : Statement) : Nat → Run Unit
  | 0 => throw (.halted 255)
  | fuel + 1 =>
    match s with
    | .run e => do
      let _ ← eval e (fuel + 1)
    | .choice condition yes no => do
      if isTrue (← eval condition (fuel + 1)) then runAll yes fuel else runAll no fuel
    | .loop whileFalse condition body => runLoop whileFalse condition body fuel
    | .leave => throw .leave
    | .again => throw .again

/-- Carries out statements one after the other. -/
def runAll (statements : List Statement) : Nat → Run Unit
  | 0 => throw (.halted 255)
  | fuel + 1 =>
    match statements with
    | [] => return
    | s :: rest => do
      run s fuel
      runAll rest fuel

/-- Carries out a loop. -/
def runLoop (whileFalse : Bool) (condition : Expr) (body : List Statement) : Nat → Run Unit
  | 0 => throw (.halted 255)
  | fuel + 1 => do
    if isTrue (← eval condition (fuel + 1)) != whileFalse then
      match ← attempt (runAll body fuel) with
      | .ok _ | .error .again => runLoop whileFalse condition body fuel
      | .error .leave => return
      | .error (.halted code) => throw (.halted code)

end

/-! ## The program -/

/-- How deep the calls of a program go at most, which also bounds the rounds of its loops. -/
def depth : Nat := 20000

/-- Runs a program from its text. -/
def runProgram (name : String) (arguments : List String) (source : ByteArray) :
    Dialogue Syscalls Nat :=
  match readProgram (Text.ofBytes source) with
  | none => do
    Program.complain ("syntax error at " ++ name ++ "\nExecution of " ++ name ++
      " aborted due to compilation errors.\n")
    return 255
  | some statements => do
    let (result, _) ← ((runAll statements depth).run).run { name, arguments }
    match result with
    | .error (.halted code) => return code
    | _ => return 0

/-- Runs a program that is given after `-e`, in a file, or on the standard input. -/
def program : Program := fun argv _ =>
  match argv with
  | _ :: "-e" :: text :: rest => runProgram "-e" rest (Text.bytes text)
  | _ :: path :: rest => do
    match ← Program.readFile path with
    | .ok bytes => runProgram path rest bytes
    | .error e =>
      Program.complain ("Can't open perl script \"" ++ path ++ "\": " ++ e.text ++ "\n")
      return 2
  | _ => do
    match ← Program.readToEnd Fd.stdin .empty Program.patience with
    | .ok bytes => runProgram "-" [] bytes
    | .error _ => return 0

end Procedure

end CommandShell
