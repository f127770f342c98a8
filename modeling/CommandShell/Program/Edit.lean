import CommandShell.Program.Basic
import CommandShell.Program.Edit.Machine
import CommandShell.Program.Edit.Notation

/-!
# Editing lines

`sed`, which takes the lines of files through rules. The last line can be told from the others only
when no other comes, so that a line waits until the next one has been read.
-/

namespace CommandShell

namespace Program

/-- Editing on its way. -/
structure Editing where
  machine : Edit.Machine
  /-- A line that waits for the next, and whether it has an end. -/
  waiting : Option (ByteArray × Bool) := none

/-- Writes what a machine has to write. -/
def writeOutlets (fd : Fd) (text : ByteArray) : List Edit.Outlet → Step (Except Errno Unit)
  | [] => writeBytes fd text
  | .text cs :: rest => writeOutlets fd (text ++ Bytewise.toBytes (String.ofList cs)) rest
  | .file path :: rest => do
    let bytes := (← readFile (Bytewise.decode path)).toOption.getD .empty
    writeOutlets fd (text ++ bytes) rest

namespace Editing

/-- Takes the waiting line through the rules. -/
def feed (e : Editing) (isLast : Bool) : Editing :=
  match e.waiting with
  | some (line, ended) =>
    let machine := e.machine.feed ⟨(Bytewise.ofBytes line).toList, isLast, ended⟩ patience
    { machine, waiting := none }
  | none => e

/-- There is nothing more to be done. -/
def isOver (e : Editing) : Bool :=
  e.machine.quitting.isSome

/-- Takes in one more line. -/
def step (ended : Bool) (e : Editing) (line : ByteArray) : Editing :=
  if e.isOver then e
  else
    let e := e.feed false
    if e.isOver then e else { e with waiting := some (line, ended) }

/-- Writes what has been made so far. -/
def deliver (name : String) (fd : Fd) (e : Editing) : Step (Except Nat Editing) := do
  match ← writeOutlets fd .empty e.machine.written.reverse with
  | .ok _ => return .ok { e with machine := { e.machine with written := [] } }
  | .error reason =>
    complain (name ++ ": couldn't write 1 item to stdout: " ++ reason.text ++ "\n")
    return .error 4

/-- How an editing ends, after `code`. -/
def close (name : String) (fd : Fd) (e : Editing) (code : Nat) : Step (Nat × Bool) := do
  let e := if e.isOver then e else e.feed true
  match ← e.deliver name fd with
  | .error code => return (code, true)
  | .ok e =>
    match e.machine.quitting with
    | some quit => return (if quit = 0 then code else quit, true)
    | none => return (code, false)

/-- Takes the lines of files through the rules. -/
def throughFiles (name : String) (fd : Fd) (e : Editing) (paths : List String) :
    Step (Nat × Bool) := do
  let use (e : Editing) (lines : List ByteArray) (ended : Bool) : Step (Except Nat Editing) := do
    let e := lines.foldl (step ended) e
    match ← e.deliver name fd with
    | .error code => return .error code
    | .ok e => if e.isOver then return .error (← e.close name fd 0).1 else return .ok e
  let report (path : String) (reason : Errno) : Step (Except Nat Nat) := do
    if reason = .EISDIR then
      complain (name ++ ": read error on " ++ path ++ ": " ++ reason.text ++ "\n")
      return .error 4
    else
      complain (name ++ ": can't read " ++ path ++ ": " ++ reason.text ++ "\n")
      return .ok 2
  match ← eachBlockOf paths 0 report use e with
  | .error code => return (code, true)
  | .ok (e, code) => e.close name fd code

/-- Edits files in place, each of them by itself. What was there is kept under its name with
`backup` at the end unless that is empty. -/
def inPlace (name backup : String) (e : Editing) (code : Nat) : List String → Step Nat
  | [] => .done code
  | path :: rest => do
    match ← call (.inspect path true) with
    | .error reason =>
      complain (name ++ ": can't read " ++ path ++ ": " ++ reason.text ++ "\n")
      inPlace name backup e 2 rest
    | .ok (.regular _ _ mode) =>
      if !backup.isEmpty then
        if let .ok bytes := ← readFile path then
          if let .ok fd := ← call (.openFile (path ++ backup) (.write .truncate mode) false) then
            let _ ← writeBytes fd bytes
            let _ ← call (.close fd)
      let draft := path ++ ".draft"
      match ← call (.openFile draft (.write .truncate mode) false) with
      | .error reason =>
        complain (name ++ ": couldn't open temporary file " ++ path ++ ": " ++ reason.text ++ "\n")
        return 4
      | .ok fd =>
        let (here, isOver) ← e.throughFiles name fd [path]
        let _ ← call (.close fd)
        let _ ← call (.rename draft path)
        if isOver then return here else inPlace name backup e (max code here) rest
    | .ok _ =>
      complain (name ++ ": couldn't edit " ++ path ++ ": not a regular file\n")
      inPlace name backup e 4 rest

end Editing

/-- Edits lines. -/
def sed : Program := fun argv _ =>
  let name := argv.headD ""
  let known : OptionSet :=
    { flags := "nErsu", valued := "ef", attached := "i"
      long := [("quiet", 'n'), ("silent", 'n'), ("regexp-extended", 'E'), ("expression", 'e'),
        ("file", 'f'), ("in-place", 'i'), ("separate", 's'), ("unbuffered", 'u')] }
  withOptions name known argv 1 fun o => do
    let given ← o.given.foldlM (fun (texts : List String) (g : Char × String) => do
      if g.1 == 'e' then pure (texts ++ [g.2])
      else if g.1 == 'f' then
        let text := (← readFile g.2).toOption.getD .empty
        let lines := (splitLines text).1.map Text.ofBytes
        pure (texts ++ lines)
      else pure texts) ([] : List String)
    let (script, files) := match given, o.operands with
      | [], script :: files => (some script, files)
      | [], [] => (none, [])
      | texts, files => (some ("\n".intercalate texts), files)
    match script with
    | none =>
      complain ("Usage: " ++ name ++
        " [OPTION]... \x7bscript-only-if-no-other-script\x7d [input-file]...\n")
      return 1
    | some script =>
      let source := (Bytewise.encode script).toList
      let isQuiet := o.has 'n' || source.take 3 = ['#', 'n', '\n'] || source = ['#', 'n']
      match Edit.readRules { extended := o.has 'E' || o.has 'r', letters := true } source with
      | .error (fault, position) =>
        complain (name ++ ": -e expression #1, char " ++ toString position ++ ": " ++
          fault.message ++ "\n")
        return 1
      | .ok rules =>
        let e : Editing := { machine := { rules, quiet := isQuiet } }
        let paths := if files.isEmpty then ["-"] else files
        if let some label := Edit.missingLabel? rules then
          complain (name ++ ": can't find label for jump to " ++ "`" ++ label ++ "'\n")
          return 4
        else if let some backup := o.value? 'i' then Editing.inPlace name backup e 0 files
        else if o.has 's' then
          paths.foldlM (fun code path => do
            return max code (← e.throughFiles name Fd.stdout [path]).1) 0
        else return (← e.throughFiles name Fd.stdout paths).1

end Program

end CommandShell
