import CommandShell.Program.Basic

/-!
# Questions about paths

`pwd`, `basename`, `dirname` and `readlink`.
-/

namespace CommandShell

namespace Program

/-- Writes the path of the working directory. -/
def pwd : Program := fun argv _ =>
  let name := argv.headD ""
  let known : OptionSet := { flags := "LP", long := [("logical", 'L'), ("physical", 'P')] }
  withOptions name known argv 1 fun o => do
    if !o.operands.isEmpty then complain (name ++ ": ignoring non-option arguments\n")
    match ← call .whereAmI with
    | .ok path => finish name (Text.bytes (path ++ "\n")) 0
    | .error e =>
      complain (name ++ ": " ++ e.text ++ "\n")
      return 1

/-- The last name of a path without an ending, as long as something is left of it. -/
def nameWithout (ending path : String) : String :=
  match (Path.names path).getLast? with
  | none => if path.isEmpty then "" else "/"
  | some name =>
    if name ≠ ending && name.endsWith ending then (name.dropEnd ending.length).toString else name

/-- Writes the last names of paths. -/
def basename : Program := fun argv _ =>
  let name := argv.headD ""
  let known : OptionSet :=
    { flags := "a", valued := "s", leading := true, long := [("multiple", 'a'), ("suffix", 's')] }
  withOptions name known argv 1 fun o =>
    let write (ending : String) (paths : List String) : Step Nat :=
      finish name (Text.bytes ("".intercalate (paths.map fun p => nameWithout ending p ++ "\n"))) 0
    if o.operands.isEmpty then misuse name "missing operand" 1
    else if o.has 'a' || o.has 's' then write ((o.value? 's').getD "") o.operands
    else
      match o.operands with
      | _ :: _ :: extra :: _ =>
        misuse name ("extra operand " ++ cite extra) 1
      | [path, ending] => write ending [path]
      | paths => write "" paths

/-- A path without its last name. -/
def withoutName (path : String) : String :=
  let trimmed := path.toList.reverse.dropWhile (· == '/')
  let above := (trimmed.dropWhile (· != '/')).dropWhile (· == '/')
  if above.isEmpty then if path.startsWith "/" then "/" else "."
  else String.ofList above.reverse

/-- Writes paths without their last names. -/
def dirname : Program := fun argv _ =>
  let name := argv.headD ""
  withOptions name { flags := "" } argv 1 fun o =>
    if o.operands.isEmpty then misuse name "missing operand" 1
    else finish name (Text.bytes ("".intercalate (o.operands.map fun p => withoutName p ++ "\n"))) 0

/-- The path without links of what names lead to from a place without links. The last of them may be
missing if `mayMiss` says so, all may if `mayAll` does. -/
def canonicalFrom (mayMiss mayAll : Bool) (links : Nat) (here : List String) (names : List String) :
    Nat → Step (Except Errno (List String))
  | 0 => .done (.error .ELOOP)
  | fuel + 1 =>
    match names with
    | [] => .done (.ok here)
    | "." :: rest => canonicalFrom mayMiss mayAll links here rest fuel
    | ".." :: rest => canonicalFrom mayMiss mayAll links here.dropLast rest fuel
    | name :: rest => do
      let path := "/" ++ "/".intercalate (here ++ [name])
      let goOn : Step (Except Errno (List String)) :=
        canonicalFrom mayMiss mayAll links (here ++ [name]) rest fuel
      match ← call (.inspect path false) with
      | .error e =>
        if mayAll || (mayMiss && rest.isEmpty && e = .ENOENT) then goOn else return .error e
      | .ok (.link _) =>
        match links, ← call (.readLink path) with
        | links + 1, .ok target =>
          let start := if Path.isAbsolute target then [] else here
          canonicalFrom mayMiss mayAll links start (Path.names target ++ rest) fuel
        | 0, _ => return .error .ELOOP
        | _, .error e => return .error e
      | .ok kind =>
        if !kind.isDirectory && !rest.isEmpty && !mayAll then return .error .ENOTDIR else goOn

/-- Writes where symbolic links lead, or the path of a thing without links. -/
def readlink : Program := fun argv _ =>
  let name := argv.headD ""
  let known : OptionSet :=
    { flags := "efmnqsvz"
      long := [("canonicalize", 'f'), ("canonicalize-existing", 'e'), ("no-newline", 'n')] }
  withOptions name known argv 1 fun o =>
    if o.operands.isEmpty then misuse name "missing operand" 1
    else
      let ending := if o.has 'z' then "\x00" else if o.has 'n' then "" else "\n"
      eachOperand 0 (fun path => do
        let found : Except Errno String ←
          match o.lastOf? "efm" with
          | none => call (.readLink path)
          | some kind => do
            if path.isEmpty then pure (.error .ENOENT)
            else
              let here := (← call .whereAmI).toOption.getD "/"
              let start := if Path.isAbsolute path then [] else Path.names here
              let found ←
                canonicalFrom (kind ≠ 'e') (kind == 'm') 40 start (Path.names path) patience
              pure (found.map fun names => "/" ++ "/".intercalate names)
        match found with
        | .ok target => finish name (Text.bytes (target ++ ending)) 0
        | .error e =>
          if o.has 'v' then
            complain (name ++ ": " ++ path ++ ": " ++ e.text ++ "\n")
          return 1) o.operands

end Program

end CommandShell
