import CommandShell.Script.Input
import CommandShell.Script.Output
import CommandShell.Script.Reader

/-!
# What the names of commands stand for

A name stands for a function, a built-in command or a program, in this order. A program without a
slash in its name is searched for in the directories of `PATH`: the first regular file of the name
is taken, and if it turns out that it cannot be run, those behind it are tried.
-/

namespace CommandShell

namespace Script

/-- The directories that are searched if nothing else is said. -/
def standardPath : String :=
  "/usr/local/sbin:/usr/local/bin:/usr/sbin:/usr/bin:/sbin:/bin"

/-- The built-in commands. -/
def builtinNames : List String :=
  specialBuiltins ++
    ["[", "alias", "bg", "cd", "chdir", "command", "echo", "false", "fg", "getopts", "hash", "jobs",
     "kill", "printf", "pwd", "read", "test", "true", "type", "ulimit", "umask", "unalias", "wait"]

/-- The built-in commands whose arguments can be assignments. -/
def assigningBuiltins : List String :=
  ["alias", "export", "local", "readonly"]

/-! ## Finding programs -/

/-- The paths at which a program may be found. -/
def candidates (path name : String) : List String :=
  (path.splitOn ":").map fun place => if place.isEmpty then name else place ++ "/" ++ name

/-- Why a program cannot be run, as scripts put it. -/
def runFailure (e : Errno) : String :=
  if e = .ENOENT || e = .ENOTDIR then "not found" else e.text

/-- The candidates from the first regular file on. -/
def firstFile (last : Errno) : List String → Run (Except Errno (List String))
  | [] => return .error last
  | path :: rest => do
    match ← ask (.inspect (pathOf path) true) with
    | .ok (.regular _ _ _) => return .ok (path :: rest)
    | .ok _ => firstFile .EACCES rest
    | .error e => firstFile (if e = .ENOENT || e = .ENOTDIR then last else e) rest

/-- Finds a program along a path. -/
def findProgram (path name : String) : Run (Except Errno (List String)) := do
  if name.contains '/' then return .ok [name]
  else firstFile .ENOENT (candidates path name)

/-- Finds a program along the `PATH` of the script, which takes note of it. -/
def findUsual (name : String) : Run (Except Errno (List String)) := do
  let result ← findProgram (((← get).value? "PATH").getD "") name
  if result.isOk && !name.contains '/' then
    modify fun e => { e with found := if e.found.contains name then e.found else e.found ++ [name] }
  return result

/-- Turns the process into the first of these files that can be run, with these words as its
arguments. Tells why none of them can. -/
def becomeFirst (words : List String) (last : Errno) : List String → Run Errno
  | [] => return last
  | path :: rest => do
    match ← ask (.execAt (pathOf path) (words.map pathOf)) with
    | none => return last
    | some e => becomeFirst words (if e = .ENOENT || e = .ENOTDIR then last else e) rest

/-- Turns the process into a program, or reports that it cannot be run. The answer is the exit code
that says so. -/
def become (words : List String) (paths : List String) : Run Nat := do
  let e ← get
  if e.exports ≠ e.environment then
    ask (.setEnvironment (e.exports.map fun (name, value) => (name, pathOf value)))
  let name := words.headD ""
  let reason ← becomeFirst words .ENOENT paths
  report (name ++ ": " ++ runFailure reason)
  return if reason = .ENOENT || reason = .ENOTDIR || reason = .ELOOP || reason = .ENAMETOOLONG
    then 127 else 126

/-! ## Telling about names -/

/-- What a name stands for, in a sentence or, unless `verbose`, in a word. -/
def describe (verbose : Bool) (name : String) : Run (String × Nat) := do
  let e ← get
  let told (sentence short : String) : String × Nat :=
    ((if verbose then name ++ " is " ++ sentence else short) ++ "\n", 0)
  if reservedWords.contains name then return told "a shell keyword" name
  else if let some value := e.aliases.lookup name then
    return told ("an alias for " ++ value) ("alias " ++ name ++ "=" ++ quoteText value)
  else if specialBuiltins.contains name then return told "a special shell builtin" name
  else if (e.functions.lookup name).isSome then return told "a shell function" name
  else if builtinNames.contains name then return told "a shell builtin" name
  else
    let missing := (if verbose then name ++ ": not found\n" else "", 127)
    if name.contains '/' then
      match ← ask (.inspect (pathOf name) true) with
      | .ok _ => return told name name
      | .error _ => return missing
    else
      match ← findUsual name with
      | .ok (path :: _) =>
        return told ((if e.found.contains name then "a tracked alias for " else "") ++ path) path
      | _ => return missing

/-- Tells what names stand for. -/
def describeAll (verbose : Bool) (names : List String) : Run Nat := do
  let mut text := ""
  let mut code := 0
  for name in names do
    let (told, wrong) ← describe verbose name
    text := text ++ told
    code := code ||| wrong
  emit text code

/-- Tells which programs have been found before, or finds some. -/
def hash (words : List String) : Run Nat := do
  let (given, names) ← flagsOf "rv" words
  if given.any (·.1 = 'r') then
    modify ({ · with found := [] })
    return 0
  else if names.isEmpty then
    let path := ((← get).value? "PATH").getD ""
    let mut text := ""
    for (name, _) in Env.inRows 31 ((← get).found.map fun name => (name, ())) do
      if let .ok (file :: _) ← findProgram path name then text := text ++ file ++ "\n"
    emit text 0
  else
    let mut code := 0
    for name in names do
      if !builtinNames.contains name then
        if let .error e ← findUsual name then
          report (name ++ ": " ++ runFailure e)
          code := 1
    return code

end Script

end CommandShell
