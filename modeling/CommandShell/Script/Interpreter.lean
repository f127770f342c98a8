import CommandShell.Script.Builtins
import CommandShell.Script.Expand
import CommandShell.Script.Redirection

/-!
# Running scripts

`Script.run` carries out a command. Programs are started in children, except for the last command
of a process that ends with it, which takes the place of that process. Between commands a script
looks for signals and does what its traps say about them.

The functions here call one another, since words can hold commands; each takes a bound on the depth
of the calls.
-/

namespace CommandShell

namespace Script

/-! ## Circumstances -/

/-- Under which circumstances a command is carried out. -/
structure Flow where
  /-- The process ends with it. -/
  exits : Bool := false
  /-- Something is made of its failure, which is thus no reason to end the script. -/
  tested : Bool := false

namespace Flow

/-- The circumstances of a command behind which more is to come. -/
def inside (f : Flow) : Flow :=
  { f with exits := false }

/-- The circumstances of a condition. -/
def condition : Flow :=
  { tested := true }

end Flow

/-- Where commands are read from. -/
structure Input where
  cursor : Cursor
  /-- Where there is more of the text. -/
  more : Option Fd := none

namespace Input

/-- A text that is all there is. -/
def ofText (text : String) : Input :=
  { cursor := { rest := text.toList } }

/-- How much of a text is read at once. -/
def blockSize : Nat := 8192

/-- Reads the next line of commands, and more of the text where that is needed. -/
def next (i : Input) : Nat → Run (Except SyntaxError (Option Command × Bool × Input))
  | 0 => return .ok (none, true, i)
  | fuel + 1 => do
    let e ← get
    let result := nextCommand
      { i.cursor with aliases := e.aliases, texts := [], textCount := e.textCount }
    let isComplete := match result with
      | .ok (_, ended, _) => !ended
      | .error _ => false
    let accept (i : Input) : Run (Except SyntaxError (Option Command × Bool × Input)) := do
      match result with
      | .ok (command, ended, cursor) =>
        modify fun e =>
          { e with
            texts := cursor.texts ++ e.texts, textCount := cursor.textCount
            readLine := cursor.line }
        if e.has "verbose" then
          let length := i.cursor.rest.length - cursor.rest.length
          complain (String.ofList (i.cursor.rest.take length))
        return .ok (command, ended, { i with cursor })
      | .error error => return .error error
    match i.more with
    | some fd =>
      if isComplete then accept i
      else
        match ← ask (.read fd blockSize) with
        | .error _ => accept { i with more := none }
        | .ok bytes =>
          if bytes.isEmpty then accept { i with more := none }
          else
            let rest := i.cursor.rest ++ (Bytewise.ofBytes bytes).toList
            Input.next { i with cursor := { i.cursor with rest } } fuel
    | none => accept i

end Input

/-- How deep functions can call one another before the process runs out of memory. -/
def maxDepth : Nat := 5000

/-! ## Loops -/

/-- Notes the signals that have come. Others get their turn with each round of a loop. -/
def breathe : Run Unit := do
  let caught : List Nat ← ask .takeCaught
  if !caught.isEmpty then
    modify fun e => { e with
      pending := (e.pending ++ caught.filter fun n => !e.pending.contains n).mergeSort }

/-- What becomes of a loop after a part of it: whether it goes on. -/
def passOn (result : Except Exit Unit) : Run Bool := do
  match result with
  | .ok _ => return true
  | .error (.leave n) => if n ≤ 1 then return false else throw (.leave (n - 1))
  | .error (.again n) => if n ≤ 1 then return true else throw (.again (n - 1))
  | .error e => throw e

/-- Does something inside of one more loop. -/
def inLoop (body : Run Unit) : Run Unit := do
  modify fun e => { e with loops := e.loops + 1 }
  let result ← attempt body
  modify fun e => { e with loops := e.loops - 1 }
  settle result

/-! ## Children -/

/-- A descriptor for a child of a pipeline: what stands behind `source` is moved to `target`. -/
def move (source target : Fd) : Run Unit := do
  if source = target then
    let _ ← ask (.keepOnExec source)
  else
    let _ ← ask (.duplicate source target)
    let _ ← ask (.close source)

/-- Closes a descriptor, if there is one. -/
def closeIfAny (fd : Option Fd) : Run Unit := do
  if let some fd := fd then
    let _ ← ask (.close fd)

/-- Makes a process that has just come to be a script of its own: it has no children and no traps,
and does not go on reading the text of its parent. In the background it neither reads what its
parent reads nor heeds the keyboard. -/
def settleIn (background isFirst : Bool) : Run Unit := do
  closeIfAny (← get).source
  dropTraps
  modify ({ · with source := none, jobs := [] })
  if background then
    ignoreForGood Signal.SIGINT.number
    ignoreForGood Signal.SIGQUIT.number
    if isFirst then
      let _ ← ask (.close Fd.stdin)
      let _ ← ask (.openFile "/dev/null" .read false)

/-- What has been written, up to the ends of lines at its end, without zeros. -/
def outputText (bytes : ByteArray) : String :=
  let cs := (Bytewise.ofBytes bytes).toList.filter (· ≠ '\x00')
  String.ofList ((cs.reverse.dropWhile (· == '\n')).reverse)

/-- Reads on to the end of a descriptor. A signal does not end that. -/
def readAll (fd : Fd) (read : ByteArray) : Nat → Run ByteArray
  | 0 => return read
  | rounds + 1 => do
    match ← ask (.read fd Program.blockSize) with
    | .error e => if e = .EINTR then readAll fd read rounds else return read
    | .ok bytes => if bytes.isEmpty then return read else readAll fd (read ++ bytes) rounds

/-- Brings back what stood behind descriptors before and goes on as something was left, unless the
process has nothing more to do. -/
def restore (saved : List PutAside) (outcome : Except Exit Unit) : Run Unit := do
  match outcome with
  | .error (.halted code) => throw (.halted code)
  | outcome =>
    bringBack saved
    settle outcome

/-- Gives up over a word that should be a descriptor. The text is to blame for that as far as it has
been read. -/
def badDescriptor {α : Type} : Run α := do
  modify fun e => { e with line := e.readLine }
  fault (SyntaxError.message ⟨0, "Bad fd number"⟩)

/-- Opens the file of a script, under a descriptor that no script can name. -/
def openScript (path : String) : Run Fd := do
  match ← ask (.openFile (pathOf path) .read true) with
  | .error e => fault ("cannot open " ++ path ++ ": " ++ openFailure false e)
  | .ok fd =>
    if fd ≥ firstSpare then return fd
    else
      match ← ask (.duplicateAbove fd firstSpare) with
      | .ok spare =>
        let _ ← ask (.close fd)
        return spare
      | .error e =>
        let _ ← ask (.close fd)
        fault (toString fd ++ ": " ++ e.text)

/-! ## The words of commands -/

/-- What stands behind a `command`. -/
inductive BehindCommand
  /-- The words of a command, which may have to be found along the standard path. -/
  | words (words : List String) (standard : Bool)
  /-- There is nothing so far. -/
  | nothing
  /-- It is to tell about names. -/
  | names

/-- What stands in the words behind a `command`. -/
def behindCommand (standard : Bool) : List String → BehindCommand
  | [] | ["--"] => .nothing
  | "--" :: rest => .words rest standard
  | word :: rest =>
    match word.toList with
    | '-' :: c :: letters =>
      if (c :: letters).all (· = 'p') then behindCommand true rest else .names
    | _ => .words (word :: rest) standard

/-- A simple command whose words have been expanded. -/
structure Prepared where
  /-- The words in front of its name. -/
  before : List String := []
  /-- Its name and its arguments. -/
  words : List String
  /-- The first word is a special built-in command. -/
  special : Bool
  /-- Functions are passed over. -/
  noFunctions : Bool := false
  /-- It is searched for along the standard path. -/
  standard : Bool := false

namespace Prepared

/-- The name of the command. -/
def name (p : Prepared) : String :=
  p.words.headD ""

/-- The function that the command is, if it is one. -/
def function? (p : Prepared) (e : Env) : Option Command :=
  if p.noFunctions then none else e.functions.lookup p.name

/-- The command is a built-in one. -/
def isBuiltin (p : Prepared) (e : Env) : Bool :=
  (p.function? e).isNone && builtinNames.contains p.name

end Prepared

/-- Carries out a built-in command. What it cannot do ends the script only if the command is a
special one. -/
def asBuiltin (p : Prepared) (action : Run Nat) : Run Unit := do
  let before := (← get).builtin
  modify ({ · with builtin := some p.name })
  let result ← attempt action
  modify ({ · with builtin := before })
  match result with
  | .ok code => setStatus code
  | .error .failed => if p.special then throw .failed
  | .error e => throw e

/-- Runs a program, in a child unless the process ends with it. -/
def runProgram (p : Prepared) (flow : Flow) : Run Unit := do
  let found ← if p.standard then findProgram standardPath p.name else findUsual p.name
  match found with
  | .error e =>
    report (p.name ++ ": " ++ runFailure e)
    setStatus 127
  | .ok paths =>
    if flow.exits && !(← get).hasTraps then
      setStatus (← become p.words paths)
      throw (.ended false)
    else
      let number ← addJob
      match ← ask .fork with
      | .error _ => fault "Cannot fork"
      | .ok .child => throw (.halted (← become p.words paths))
      | .ok (.parent pid) =>
        addChild number pid
        setStatus (← finishJob number)

mutual

/-- Carries out a command and notes its exit code. -/
def run (c : Command) (flow : Flow) : Nat → Run Unit
  | 0 => throw (.halted 2)
  | fuel + 1 => do
    runTraps fuel
    let counts ← if (← get).has "noexec" then pure false else runBare c flow fuel
    runTraps fuel
    let e ← get
    if counts && !flow.tested && e.status ≠ 0 && e.has "errexit" then throw (.ended false)
    if flow.exits then throw (.ended false)
termination_by structural n => n

/-- Carries out a command, with no regard to signals. Tells whether its failure can end the
script. -/
def runBare (c : Command) (flow : Flow) : Nat → Run Bool
  | 0 => throw (.halted 2)
  | fuel + 1 => do
    match c with
    | .simple line assignments words redirects =>
      modify ({ · with line })
      runSimple assignments words redirects flow fuel
      return true
    | .pipeline commands background =>
      let number ← addJob
      startPipeline number background flow commands none fuel
      setStatus (← if background then pure 0 else finishJob number)
      return true
    | .negation c =>
      run c .condition fuel
      modify fun e => { e with status := if e.status = 0 then 1 else 0 }
      return false
    | .both a b =>
      run a .condition fuel
      if (← get).status = 0 then run b flow fuel
      return false
    | .either a b =>
      run a .condition fuel
      if (← get).status ≠ 0 then run b flow fuel
      return false
    | .sequence a b =>
      run a flow.inside fuel
      run b flow fuel
      return false
    | .subshell line c redirects =>
      modify ({ · with line })
      let redirections ← expandRedirects redirects fuel
      if flow.exits && !(← get).hasTraps then
        settleIn false false
        runRedirected c redirections flow fuel
      else
        let number ← addJob
        startChild number false (runRedirected c redirections flow fuel) fuel
        setStatus (← finishJob number)
      return true
    | .background line c redirects =>
      modify ({ · with line })
      let redirections ← expandRedirects redirects fuel
      let number ← addJob
      startChild number true (runRedirected c redirections {} fuel) fuel
      setStatus 0
      return true
    | .redirected line c redirects =>
      modify ({ · with line })
      let redirections ← expandRedirects redirects fuel
      let (saved, result) ← redirectAll true [] redirections
      let outcome ← match result with
        | .error .failed => pure (.ok ())
        | .error e => settle (.error e)
        | .ok _ => attempt (run c flow.inside fuel)
      restore saved outcome
      return false
    | .loop whileFails condition body =>
      inLoop (runLoop whileFails condition body flow.inside 0 fuel)
      return false
    | .each line name words body =>
      modify ({ · with line })
      let values ← expandWords words fuel
      if values.isEmpty then setStatus 0
      inLoop (runEach name values body flow.inside fuel)
      return false
    | .choice condition yes no =>
      run condition .condition fuel
      if (← get).status = 0 then run yes flow fuel
      else
        match no with
        | some c => run c flow fuel
        | none => setStatus 0
      return false
    | .select line word branches =>
      modify ({ · with line })
      let subject ← textOf (capture · fuel) { tilde := true } word fuel
      runBranch subject.toList branches flow fuel
      return false
    | .define _ name body =>
      modify fun e =>
        { e with functions := (name, body) :: e.functions.filter (·.1 ≠ name), status := 0 }
      return false
termination_by structural n => n

/-- Carries out the last command of a process, under redirections that stay. -/
def runRedirected (c : Command) (redirections : List Redirection) (flow : Flow) : Nat → Run Unit
  | 0 => throw (.halted 2)
  | fuel + 1 => do
    let (_, result) ← redirectAll false [] redirections
    settle result
    run c { flow with exits := true } fuel
termination_by structural n => n

/-- Carries out a loop. Its exit code is that of the last round, or 0. -/
def runLoop (whileFails : Bool) (condition body : Command) (flow : Flow) (status : Nat) :
    Nat → Run Unit
  | 0 => throw (.halted 2)
  | fuel + 1 => do
    breathe
    match ← attempt (run condition .condition fuel) with
    | .ok _ =>
      if ((← get).status = 0) != whileFails then
        if ← passOn (← attempt (run body flow fuel)) then
          runLoop whileFails condition body flow (← get).status fuel
      else setStatus status
    | result =>
      if ← passOn result then runLoop whileFails condition body flow status fuel
      else setStatus status
termination_by structural n => n

/-- Carries out a command for each value of a variable. -/
def runEach (name : String) (values : List String) (body : Command) (flow : Flow) : Nat → Run Unit
  | 0 => throw (.halted 2)
  | fuel + 1 =>
    match values with
    | [] => return
    | value :: rest => do
      breathe
      setVariable name (some value)
      if ← passOn (← attempt (run body flow fuel)) then runEach name rest body flow fuel
termination_by structural n => n

/-- Carries out the first branch with a pattern that fits. The exit code is 0 where none does. -/
def runBranch (subject : List Char) (branches : List (List Word × Option Command)) (flow : Flow) :
    Nat → Run Unit
  | 0 => throw (.halted 2)
  | fuel + 1 =>
    match branches with
    | [] => setStatus 0
    | (patterns, body) :: rest => do
      if ← anyFits subject patterns fuel then
        match body with
        | some c => run c flow fuel
        | none => setStatus 0
      else runBranch subject rest flow fuel
termination_by structural n => n

/-- One of these patterns fits. -/
def anyFits (subject : List Char) (patterns : List Word) : Nat → Run Bool
  | 0 => return false
  | fuel + 1 =>
    match patterns with
    | [] => return false
    | pattern :: rest => do
      let stretches ← expandWord (capture · fuel) { tilde := true } pattern fuel
      if fits (readPattern (Atom.marked (Stretch.join stretches))) subject then return true
      else anyFits subject rest fuel
termination_by structural n => n

/-- Starts a child of a job that does something and then ends. -/
def startChild (number : Nat) (background : Bool) (body : Run Unit) : Nat → Run Unit
  | 0 => throw (.halted 2)
  | fuel + 1 => do
    let isFirst := ((← job? number).map fun j => j.children.isEmpty).getD true
    match ← ask .fork with
    | .error _ => fault "Cannot fork"
    | .ok .child =>
      settleIn background isFirst
      let result ← attempt body
      endProcess result fuel
    | .ok (.parent pid) =>
      addChild number pid
      if background then modify ({ · with started := some pid })
termination_by structural n => n

/-- Starts the commands of a pipeline, the first reading from `input`. -/
def startPipeline (number : Nat) (background : Bool) (flow : Flow) (commands : List Command)
    (input : Option Fd) : Nat → Run Unit
  | 0 => throw (.halted 2)
  | fuel + 1 => do
    let takeInput : Run Unit := do
      if let some fd := input then move fd Fd.stdin
    let last (c : Command) : Run Unit := run c { flow with exits := true } fuel
    match commands with
    | [] => return
    | [c] =>
      startChild number background (do takeInput; last c) fuel
      closeIfAny input
    | c :: rest =>
      match ← ask .makePipe with
      | .error _ =>
        closeIfAny input
        fault "Pipe call failed"
      | .ok (read, write) =>
        startChild number background (do
          let _ ← ask (.close read)
          takeInput
          move write Fd.stdout
          last c) fuel
        closeIfAny input
        let _ ← ask (.close write)
        startPipeline number background flow rest (some read) fuel
termination_by structural n => n

/-- What a command writes. -/
def capture (c : Option Command) : Nat → Run String
  | 0 => throw (.halted 2)
  | fuel + 1 => do
    match c with
    | none => return ""
    | some c =>
      match ← ask .makePipe with
      | .error _ => fault "Pipe call failed"
      | .ok (read, write) =>
        let number ← addJob
        startChild number false (do
          let _ ← ask (.close read)
          move write Fd.stdout
          run c { exits := true } fuel) fuel
        let _ ← ask (.close write)
        let bytes ← readAll read .empty Program.patience
        let _ ← ask (.close read)
        let code ← finishJob number
        modify ({ · with outputStatus := code })
        return outputText bytes
termination_by structural n => n

/-- The arguments that words stand for. -/
def expandWords (words : List Word) : Nat → Run (List String)
  | 0 => throw (.halted 2)
  | fuel + 1 =>
    match words with
    | [] => return []
    | word :: rest => do
      let arguments ← argumentsOf (capture · fuel) word fuel
      return arguments ++ (← expandWords rest fuel)
termination_by structural n => n

/-- The arguments that words stand for, among which assignments are not split. -/
def expandAssigning (words : List Word) : Nat → Run (List String)
  | 0 => throw (.halted 2)
  | fuel + 1 =>
    match words with
    | [] => return []
    | word :: rest => do
      let arguments ← match assignment? word with
        | some (name, value) => do
          let text ← textOf (capture · fuel) { tilde := true, tildeAfterColon := true } value fuel
          pure [name ++ "=" ++ text]
        | none => argumentsOf (capture · fuel) word fuel
      return arguments ++ (← expandAssigning rest fuel)
termination_by structural n => n

/-- Expands the words of a simple command, of which some have been expanded already. The kind of
the command decides about the others. There is none if the words come to nothing. -/
def prepare (p : Prepared) (rest : List Word) : Nat → Run (Option Prepared)
  | 0 => throw (.halted 2)
  | fuel + 1 => do
    let e ← get
    match p.words, rest with
    | [], [] => return none
    | [], word :: rest =>
      prepare { p with words := ← argumentsOf (capture · fuel) word fuel } rest fuel
    | name :: arguments, rest =>
      let isBuiltin := p.isBuiltin e
      let special :=
        if p.before.isEmpty then isBuiltin && specialBuiltins.contains name else p.special
      let p := { p with special }
      let finish : Run (Option Prepared) := do
        let more ← if isBuiltin && assigningBuiltins.contains name then expandAssigning rest fuel
          else expandWords rest fuel
        return some { p with words := p.words ++ more }
      if name = "command" && isBuiltin then
        match behindCommand p.standard arguments, rest with
        | .names, _ | .nothing, [] => finish
        | .nothing, word :: rest =>
          let words ← argumentsOf (capture · fuel) word fuel
          prepare { p with words := p.words ++ words } rest fuel
        | .words words standard, rest =>
          let before := p.before ++ p.words.take (p.words.length - words.length)
          let p := { p with before, words, standard, noFunctions := true, special := false }
          prepare p rest fuel
      else finish
termination_by structural n => n

/-- Expands the words of redirections. -/
def expandRedirects (redirects : List Redirect) : Nat → Run (List Redirection)
  | 0 => throw (.halted 2)
  | fuel + 1 =>
    match redirects with
    | [] => return []
    | r :: rest => do
      let redirection : Redirection ← match r with
        | .file fd kind target => do
          let path ← textOf (capture · fuel) { tilde := true } target fuel
          pure ⟨fd, .file kind path⟩
        | .copy fd source => do
          let text ← textOf (capture · fuel) { tilde := true } source fuel
          match text.toList with
          | ['-'] => pure ⟨fd, .closed⟩
          | [c] => if c.isDigit then pure ⟨fd, .copy (c.toNat - 48)⟩ else badDescriptor
          | _ => badDescriptor
        | .here fd number => do
          let word : Word := ((← get).texts.lookup number).getD []
          pure ⟨fd, .text (← textOf (capture · fuel) {} word fuel)⟩
      return redirection :: (← expandRedirects rest fuel)
termination_by structural n => n

/-- Gives variables their values, and tells how the assignments are shown. -/
def assignAll (assignments : List (String × Word)) (own exported : Bool) : Nat → Run (List String)
  | 0 => throw (.halted 2)
  | fuel + 1 =>
    match assignments with
    | [] => return []
    | (name, word) :: rest => do
      let value ← textOf (capture · fuel) { tilde := true, tildeAfterColon := true } word fuel
      if own then setLocal name (some value) true else setVariable name (some value) exported
      return (name ++ "=" ++ value) :: (← assignAll rest own exported fuel)
termination_by structural n => n

/-- Shows a command before it is carried out. -/
def trace (words : List String) (saved : List PutAside) : Nat → Run Unit
  | 0 => return
  | fuel + 1 => do
    let e ← get
    if e.has "xtrace" then
      let word := (quotedWord? ((e.value? "PS4").getD "")).toOption.getD []
      let mark ← textOf (capture · fuel) {} word fuel
      let fd := ((saved.lookup Fd.stderr).join).getD Fd.stderr
      let _ ← writeTo fd (mark ++ " ".intercalate words ++ "\n")
termination_by structural n => n

/-- Carries out a simple command. -/
def runSimple (assignments : List (String × Word)) (words : List Word) (redirects : List Redirect)
    (flow : Flow) : Nat → Run Unit
  | 0 => throw (.halted 2)
  | fuel + 1 => do
    modify ({ · with outputStatus := 0 })
    let prepared ← prepare { words := [], special := false } words fuel
    let redirections ← expandRedirects redirects fuel
    let (saved, result) ← redirectAll true [] redirections
    let isSpecial := prepared.any (·.special)
    let isExec := prepared.any (·.name = "exec")
    let outcome ← match result with
      | .error .failed => pure (if isSpecial then .error .failed else .ok ())
      | .error e => settle (.error e)
      | .ok _ => attempt do
        match prepared with
        | none =>
          let shown ← assignAll assignments false false fuel
          trace shown saved fuel
          setStatus (← get).outputStatus
        | some p =>
          let body : Run Unit := do
            let shown ←
              assignAll assignments (!isSpecial) (isExec && p.words.length > 1) fuel
            trace (shown ++ p.before ++ p.words) saved fuel
            runPrepared p flow fuel
          if isSpecial then body else inFrame body
    if isExec && outcome.isOk then forget saved else restore saved outcome
termination_by structural n => n

/-- Carries out a command whose words have been expanded. -/
def runPrepared (p : Prepared) (flow : Flow) : Nat → Run Unit
  | 0 => throw (.halted 2)
  | fuel + 1 => do
    let e ← get
    let arguments := p.words.drop 1
    match p.function? e with
    | some body => callFunction body arguments flow fuel
    | none =>
      match p.name with
      | "eval" => asBuiltin p do
        match arguments with
        | [] => return 0
        | words => runText (" ".intercalate words) flow.inside fuel
      | "." => asBuiltin p (runFile arguments fuel)
      | "exec" => asBuiltin p do
        match ← operandsOf arguments with
        | [] => return 0
        | words =>
          let path := ((← get).value? "PATH").getD ""
          let name := words.headD ""
          setStatus (← become words (if name.contains '/' then [name] else candidates path name))
          throw (.ended false)
      | name =>
        match builtin? name with
        | some action => asBuiltin p (action arguments)
        | none => runProgram p flow
termination_by structural n => n

/-- Carries out a function. -/
def callFunction (body : Command) (arguments : List String) (flow : Flow) : Nat → Run Unit
  | 0 => throw (.halted 2)
  | fuel + 1 => do
    let e ← get
    if e.depth ≥ maxDepth then
      let _ ← ask (.kill e.pid 11)
    modify ({ · with arguments, optionPlace := (1, none), loops := 0, depth := e.depth + 1 })
    let result ← attempt (run body { tested := flow.tested } fuel)
    modify ({ · with
      arguments := e.arguments, optionPlace := e.optionPlace, loops := e.loops, depth := e.depth })
    match result with
    | .error (.returned _) => return
    | result => settle result
termination_by structural n => n

/-- Carries out the commands of a text inside of another one. -/
def runText (text : String) (flow : Flow) : Nat → Run Nat
  | 0 => throw (.halted 2)
  | fuel + 1 => do
    let readLine := (← get).readLine
    let result ← attempt (runInput (.ofText text) flow 0 fuel)
    modify ({ · with readLine })
    settle result
termination_by structural n => n

/-- Carries out the commands of a text, and tells the exit code of the last one. -/
def runInput (i : Input) (flow : Flow) (status : Nat) : Nat → Run Nat
  | 0 => throw (.halted 2)
  | fuel + 1 => do
    match ← i.next fuel with
    | .error e =>
      modify ({ · with line := e.line })
      fault e.message
    | .ok (none, ended, i) => if ended then return status else runInput i flow status fuel
    | .ok (some c, ended, i) =>
      run c { flow with exits := flow.exits && ended } fuel
      if ended then return (← get).status else runInput i flow (← get).status fuel
termination_by structural n => n

/-- Carries out the commands of a file. -/
def runFile (words : List String) : Nat → Run Nat
  | 0 => throw (.halted 2)
  | fuel + 1 => do
    match ← operandsOf words with
    | [] => return 0
    | name :: _ =>
      let path ← if name.contains '/' then pure name else do
        match ← firstFile .ENOENT (candidates (((← get).value? "PATH").getD "") name) with
        | .ok (path :: _) => pure path
        | _ => fault (name ++ ": not found")
      let fd ← openScript path
      modify ({ · with builtin := some path })
      let result ← attempt (runInput { cursor := { rest := [] }, more := some fd } {} 0 fuel)
      let _ ← ask (.close fd)
      match result with
      | .error (.returned _) => return (← get).status
      | result => settle result
termination_by structural n => n

/-- Does what is to be done about the signals that have come. -/
def runTraps : Nat → Run Unit
  | 0 => return
  | fuel + 1 => do
    noteSignals
    let e ← get
    match e.pending with
    | [] => return
    | number :: rest =>
      modify ({ · with pending := rest })
      match e.trap? number with
      | none => runTraps fuel
      | some action =>
        let status := e.savedStatus.getD e.status
        modify ({ · with savedStatus := some status })
        let result ← attempt (runText action {} fuel)
        let settled (keep : Bool) : Run Unit := do
          if !keep then setStatus status
          modify ({ · with savedStatus := e.savedStatus })
        match result with
        | .ok _ =>
          settled false
          runTraps fuel
        | .error (.returned chosen) =>
          settled chosen
          throw (.returned chosen)
        | .error (.leave n) =>
          settled false
          throw (.leave n)
        | .error (.again n) =>
          settled false
          throw (.again n)
        | .error e => throw e
termination_by structural n => n

/-- Ends the process after what it had to do has been left in some way. What is to be done at the
end is done first. -/
def endProcess (result : Except Exit Unit) : Nat → Run Unit
  | 0 => throw (.halted 2)
  | fuel + 1 => do
    match result with
    | .error (.halted code) => throw (.halted code)
    | .error (.ended true) => modify fun e => { e with status := e.savedStatus.getD e.status }
    | _ => pure ()
    let e ← get
    match e.trap? 0 with
    | none => throw (.halted e.status)
    | some action =>
      modify ({ · with
        traps := e.traps.filter (·.1 ≠ 0), savedStatus := some e.status, loops := 0 })
      match ← attempt (runText action {} fuel) with
      | .error (.halted code) => throw (.halted code)
      | .error .failed | .error (.ended false) => throw (.halted (← get).status)
      | .error (.ended true) => do
        let e ← get
        throw (.halted (e.savedStatus.getD e.status))
      | _ => throw (.halted e.status)
termination_by structural n => n

end

end Script

end CommandShell
