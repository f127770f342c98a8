import CommandShell.Script.Env

/-!
# Redirections

Redirections around a command put aside what stood behind their descriptors, under descriptors that
no script can name, and bring it back afterwards. `redirect` carries out a list of them from the
left; the first that fails ends it, and what has been done before is still brought back.
-/

namespace CommandShell

namespace Script

/-- What a descriptor is to lead to. -/
inductive Destination
  | file (kind : RedirectKind) (path : String)
  /-- What another descriptor leads to. -/
  | copy (source : Fd)
  /-- Nothing. -/
  | closed
  /-- A text that is read. -/
  | text (text : String)

/-- A redirection whose words have been expanded. -/
structure Redirection where
  fd : Fd
  destination : Destination

/-- What a descriptor led to before it was redirected: nothing, or what another one leads to now. -/
abbrev PutAside := Fd × Option Fd

/-- The lowest descriptor that holds what has been put aside. -/
def firstSpare : Fd := 10

/-- A text up to this length is put into a pipe at once; a longer one is written by a child. -/
def shortText : Nat := 4096

/-- Moves what stands behind a descriptor out of the way, if anything does. -/
def putAside (fd : Fd) : Run (Option Fd) := do
  match ← ask (.duplicateAbove fd firstSpare) with
  | .ok spare =>
    let _ ← ask (.close fd)
    return some spare
  | .error e =>
    if e = .EBADF then return none
    else
      let _ ← ask (.close fd)
      fault (toString fd ++ ": " ++ e.text)

/-- Brings back what stood behind descriptors before. -/
def bringBack (saved : List PutAside) : Run Unit := do
  for (fd, spare) in saved do
    match spare with
    | some spare =>
      let _ ← ask (.duplicate spare fd)
      let _ ← ask (.close spare)
    | none =>
      let _ ← ask (.close fd)

/-- Forgets what stood behind descriptors before. -/
def forget (saved : List PutAside) : Run Unit := do
  for (_, spare) in saved do
    if let some spare := spare then
      let _ ← ask (.close spare)

/-- Why a file cannot be opened, as scripts put it. -/
def openFailure (creates : Bool) (e : Errno) : String :=
  if e = .ENOENT then if creates then "Directory nonexistent" else "No such file"
  else if e = .ENOTDIR then if creates then "Directory nonexistent" else "No such file"
  else e.text

/-- How a file is opened for a redirection. -/
def openModeOf : RedirectKind → OpenMode
  | .read => .read
  | .readWrite => .readWrite 0o666
  | .append => .write .append 0o666
  | .write | .overwrite => .write .truncate 0o666

/-- Opens a file for a redirection. -/
def openFor (kind : RedirectKind) (path : String) : Run Fd := do
  let refused {α : Type} (reason : String) : Run α :=
    fault ((if kind = .read then "cannot open " else "cannot create ") ++ path ++ ": " ++ reason)
  if kind = .write && (← get).has "noclobber" then
    match ← ask (.inspect (pathOf path) true) with
    | .ok (.regular _ _ _) => refused "File exists"
    | _ => pure ()
  match ← ask (.openFile (pathOf path) (openModeOf kind) false) with
  | .ok fd => return fd
  | .error e => refused (openFailure (kind ≠ .read) e)

/-- Makes a pipe from which a text can be read. -/
def openText (text : String) : Run Fd := do
  match ← ask .makePipe with
  | .error _ => fault "Pipe call failed"
  | .ok (read, write) =>
    let _ ← ask (.keepOnExec read)
    if text.length ≤ shortText then
      let _ ← writeTo write text
    else
      match ← ask .fork with
      | .error _ => fault "Cannot fork"
      | .ok .child =>
        let _ ← ask (.close read)
        let _ ← writeTo write text
        throw (.halted 0)
      | .ok (.parent _) => pure ()
    let _ ← ask (.close write)
    return read

/-- What a descriptor is to be redirected to: a descriptor, which is closed afterwards if it has
been opened for this. -/
def destination (d : Destination) : Run (Option (Fd × Bool)) := do
  match d with
  | .file kind path => return some (← openFor kind path, true)
  | .copy source => return some (source, false)
  | .closed => return none
  | .text text => return some (← openText text, true)

/-- Carries out redirections. With `saving`, what was there before is put aside. -/
def redirectAll (saving : Bool) (saved : List PutAside) :
    List Redirection → Run (List PutAside × Except Exit Unit)
  | [] => return (saved, .ok ())
  | r :: rest => do
    let alreadySaved := saved.any (·.1 = r.fd)
    let result ← attempt do
      match r.destination with
      | .copy source => if source = r.fd then return none
      | _ => pure ()
      let found ← destination r.destination
      let isThere := found.any (·.1 = r.fd)
      return some (found, isThere)
    match result with
    | .error e => return (saved, .error e)
    | .ok none => redirectAll saving saved rest
    | .ok (some (found, isThere)) =>
      let kept ← attempt (if saving && !alreadySaved && !isThere then putAside r.fd else pure none)
      match kept with
      | .error e => return (saved, .error e)
      | .ok spare =>
        let saved := if saving && !alreadySaved then (r.fd, spare) :: saved else saved
        if isThere then redirectAll saving saved rest
        else
          let moved ← attempt do
            match found with
            | none =>
              let _ ← ask (.close r.fd)
            | some (source, opened) =>
              let result ← ask (.duplicate source r.fd)
              if opened then
                let _ ← ask (.close source)
              if let .error e := result then fault (toString source ++ ": " ++ e.text)
          match moved with
          | .error e => return (saved, .error e)
          | .ok _ => redirectAll saving saved rest

end Script

end CommandShell
