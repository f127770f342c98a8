import CommandShell.Program.Permissions

/-!
# Making and removing files

The programs that change what is in a directory: `touch`, `mkdir`, `rmdir` and `rm`.
-/

namespace CommandShell

namespace Program

/-- How deep directories are gone through. -/
def maxDepth : Nat := 256

/-- Writes what has been done, if that is wanted. -/
def tell (o : Options) (text : String) : Step Unit := do
  if o.has 'v' then
    let _ ← writeBytes Fd.stdout (Text.bytes (text ++ "\n"))

/-! ## Making -/

/-- Makes files that do not exist. -/
def touch : Program := fun argv _ =>
  let name := argv.headD ""
  let known : OptionSet := { flags := "acmfh", valued := "dtr", long := [("no-create", 'c')] }
  withOptions name known argv 1 fun o =>
    if o.operands.isEmpty then misuse name "missing file operand" 1
    else
      eachOperand 0 (fun path => do
        match ← call (.inspect path true) with
        | .ok _ => return 0
        | .error missing =>
          if path = "-" || o.has 'c' && missing = .ENOENT then return 0
          else if o.has 'c' then cannot name "setting times of" path missing
          else
            match ← call (.openFile path (.write .append 0o666) false) with
            | .error .EISDIR => cannot name "setting times of" path missing
            | .error e => cannot name "cannot touch" path e
            | .ok fd =>
              let _ ← call (.close fd)
              return 0) o.operands

/-- Every directory on the way to a path, outermost first. -/
def ancestors (path : String) : List String :=
  let names := Path.names path
  let start := if path.startsWith "/" then "/" else ""
  (List.range names.length).map fun i => start ++ "/".intercalate (names.take (i + 1))

/-- Makes directories. -/
def mkdir : Program := fun argv _ => do
  let name := argv.headD ""
  let known : OptionSet :=
    { flags := "pv", valued := "m", long := [("parents", 'p'), ("mode", 'm'), ("verbose", 'v')] }
  let mask ← currentMask
  withOptions name known argv 1 fun o =>
    if o.operands.isEmpty then misuse name "missing operand" 1
    else
      let mode? := (o.value? 'm').map fun text =>
        Mode.of? text { mode := 0o777, isDirectory := true, mask }
      if mode? = some none then do
        complain (name ++ ": invalid mode " ++ cite ((o.value? 'm').getD "") ++ "\n")
        return 1
      else
        let make (path : String) (isLast : Bool) : Step Nat := do
          match ← call (.makeDirectory path 0o777) with
          | .error e =>
            complain (name ++ ": cannot create directory " ++ cite path ++ ": " ++ e.text ++ "\n")
            return 1
          | .ok _ =>
            tell o (name ++ ": created directory " ++ quoteAlways path)
            match mode? with
            | some (some mode) =>
              if isLast then
                attempt name "cannot set permissions" path (← call (.setMode path mode))
              else return 0
            | _ => return 0
        let rec makeAll (make : String → Bool → Step Nat) : List String → Step Nat
          | [] => .done 0
          | path :: rest => do
            match ← call (.inspect path true) with
            | .ok (.directory _ _) => makeAll make rest
            | .ok _ =>
              if rest.isEmpty then make path true
              else cannot name "cannot create directory" path .ENOTDIR
            | .error _ =>
              let code ← make path rest.isEmpty
              if code = 0 then makeAll make rest else return code
        eachOperand 0 (fun path =>
          if o.has 'p' then makeAll make (ancestors path) else make path true) o.operands

/-! ## Removing -/

/-- Removes empty directories. -/
def rmdir : Program := fun argv _ =>
  let name := argv.headD ""
  let known : OptionSet := { flags := "pv", long := [("parents", 'p'), ("verbose", 'v')] }
  withOptions name known argv 1 fun o =>
    if o.operands.isEmpty then misuse name "missing operand" 1
    else
      let rec removeEach (isFirst : Bool) : List String → Step Nat
        | [] => .done 0
        | path :: rest => do
          tell o (name ++ ": removing directory, " ++ quoteAlways path)
          match ← call (.removeDirectory path) with
          | .error e =>
            let act := if isFirst then "failed to remove" else "failed to remove directory"
            cannot name act path e
          | .ok _ => removeEach false rest
      let doomed (path : String) : List String :=
        path :: if o.has 'p' then (ancestors path).reverse.drop 1 else []
      eachOperand 0 (fun path => removeEach true (doomed path)) o.operands

/-- The path with its last name alone is one that leads to its directory or upwards. -/
def endsInDots (path : String) : Bool :=
  (Path.names path).getLast?.any Path.isDots

/-- Reports that something could not be removed. It does not matter to `rm -f` that it is not
there. -/
def cannotRemove (name : String) (o : Options) (path : String) (e : Errno) : Step Nat :=
  if o.has 'f' && (e = .ENOENT || e = .ENOTDIR) then .done 0
  else cannot name "cannot remove" path e

/-- Removes something that is not a directory, or does not seem to be there. -/
def removeFile (name : String) (o : Options) (path : String) : Step Nat := do
  match ← call (.remove path) with
  | .error e => cannotRemove name o path e
  | .ok _ =>
    tell o ("removed " ++ quoteAlways path)
    return 0

/-- Removes a directory that should be empty. If it could not be read, the error is that of the
attempt to do so. -/
def removeEmpty (name : String) (o : Options) (path : String) (unread : Option Errno) :
    Step Nat := do
  match ← call (.removeDirectory path) with
  | .error e => cannotRemove name o path (if e = .ENOTEMPTY then unread.getD e else e)
  | .ok _ =>
    tell o ("removed directory " ++ quoteAlways path)
    return 0

/-- Removes a thing with all that is in it, so many levels deep. -/
def removeAll (name : String) (o : Options) (path : String) : Nat → Step Nat
  | 0 => .done 1
  | depth + 1 => do
    match ← call (.inspect path false) with
    | .ok (.directory _ _) => do
      match ← call (.list path) with
      | .error e => removeEmpty name o path (some e)
      | .ok names =>
        let code ← eachOperand 0 (fun entry => removeAll name o (path ++ "/" ++ entry) depth) names
        if code ≠ 0 then return code else removeEmpty name o path none
    | _ => removeFile name o path

/-- Removes files, and directories if it is asked to. -/
def rm : Program := fun argv _ =>
  let name := argv.headD ""
  let known : OptionSet :=
    { flags := "rRfiIvd"
      long := [("recursive", 'r'), ("force", 'f'), ("verbose", 'v'), ("dir", 'd')] }
  withOptions name known argv 1 fun o =>
    let recursive := o.has 'r' || o.has 'R'
    if o.operands.isEmpty then if o.has 'f' then .done 0 else misuse name "missing operand" 1
    else
      eachOperand 0 (fun path => do
        match ← call (.inspect path false) with
        | .ok (.directory _ _) =>
          if recursive && endsInDots path then
            complain (name ++ ": refusing to remove '.' or '..' directory: skipping " ++
              quoteAlways path ++ "\n")
            return 1
          else if recursive && (Path.names path).isEmpty then
            complain (name ++ ": it is dangerous to operate recursively on '/'\n" ++ name ++
              ": use --no-preserve-root to override this failsafe\n")
            return 1
          else if recursive then removeAll name o path maxDepth
          else if o.has 'd' then removeEmpty name o path none
          else cannot name "cannot remove" path .EISDIR
        | _ => removeFile name o path) o.operands

end Program

end CommandShell
