import CommandShell.Script.Interpreter

/-!
# The program that runs scripts

The command line of scripts: options, and then a text after `-c`, the name of a file, or nothing, in
which case the text is the standard input. `Script.program` is this program.
-/

namespace CommandShell

namespace Script

/-- How deep the calls of a script go at most, which also bounds the rounds of its loops. -/
def maxCalls : Nat := 1000000000

/-- The variables that are there from the beginning, before those of the environment. -/
def firstVariables : List (String × Variable) :=
  [("IFS", { value := some " \t\n" }), ("PATH", { value := some standardPath }),
   ("PS1", { value := some "$ " }), ("PS2", { value := some "> " }),
   ("PS4", { value := some "+ " }), ("OPTIND", { value := some "1" })]

/-- Takes over the environment. How values are split and how far options have been read is no
business of it. -/
def Env.withEnvironment (e : Env) (environment : List (String × String)) : Env :=
  let e := environment.foldl (fun e (name, value) =>
    if isName name && name ≠ "IFS" && name ≠ "OPTIND" then
      e.put name { value := some (Bytewise.encode value), exported := true }
    else e) e
  e.put "PPID" { value := some (toString e.parent) }

/-- The working directory by the names that the environment gives it, if these lead there. -/
def findFirstDirectory : Run (Option String) := do
  let given := (← get).value? "PWD"
  match ← findDirectory with
  | none => return none
  | some physical =>
    match given with
    | none => return some physical
    | some path =>
      if path = physical || !path.startsWith "/" then return some physical
      else
        match ← ask (.enter (pathOf path)) with
        | .error _ => return some physical
        | .ok _ =>
          if (← findDirectory) = some physical then return some path
          else
            let _ ← ask (.enter (pathOf physical))
            return some physical

/-- Carries out what the command line asks for. -/
def runCommandLine (words : List String) : Run Unit := do
  let name := words.headD "sh"
  modify ({ · with line := 0 })
  let directory ← findFirstDirectory
  modify ({ · with name, directory })
  setVariable "PWD" (some (directory.getD "")) true
  let (rest, announced) ← setOptions true false (words.drop 1) (words.length + 1)
  let fromInput : Bool := (← get).has "stdin"
  let takeArguments (name : String) (rest : List String) : Run Unit :=
    modify fun e => { e with name, arguments := rest, line := 1 }
  let runAll (i : Input) (exits : Bool) : Run Unit := do
    let _ ← runInput i { exits } 0 maxCalls
  let runStandardInput : Run Unit :=
    runAll { cursor := { rest := [] }, more := some Fd.stdin } false
  match announced, rest with
  | true, [] => fault "-c requires an argument"
  | true, text :: rest =>
    takeArguments (rest.headD name) (rest.drop 1)
    runAll (.ofText text) !fromInput
    if fromInput then runStandardInput
  | false, [] =>
    modify (·.setOption "stdin" true)
    takeArguments name []
    runStandardInput
  | false, path :: arguments =>
    if fromInput then
      takeArguments name rest
      runStandardInput
    else
      let fd ← openScript path
      takeArguments path arguments
      modify ({ · with source := some fd })
      runAll { cursor := { rest := [] }, more := some fd } false

/-- The program that runs scripts. -/
def program : Program := fun argv environment => do
  let pid ← Program.call .processId
  let parent ← Program.call .parentId
  let env : Env :=
    { name := "sh", pid, parent, bindings := firstVariables
      environment := environment.map fun (name, value) => (name, Bytewise.encode value) }
  let body : Run Unit := do
    let result ← attempt (runCommandLine (argv.map Bytewise.encode))
    endProcess result maxCalls
  let (result, env) ← (body.run).run (env.withEnvironment environment)
  match result with
  | .error (.halted code) => return code
  | _ => return env.status

end Script

end CommandShell
