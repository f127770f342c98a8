import CommandShell.Program.Files

/-!
# Sending files to places

The programs that are told of things and of the place they go to: `mv`, `cp` and `ln`. If the place
is a directory they go into it under their own last names; `eachSource` works that out for all
three.

Copying is the longest of them, since a copy can meet what is already at the place, and a directory
can be copied into itself. `Copying.clear` decides about the former, and `Copying.thing` about the
latter, by the node of the first directory that it has made.
-/

namespace CommandShell

namespace Program

/-! ## Places -/

/-- Where a thing goes that is sent to `target`: into it, if it is a directory. -/
def destination (source target : String) : Step String := do
  match ← call (.inspect target true) with
  | .ok (.directory _ _) => return Path.join target (baseName source)
  | _ => return target

/-- Goes through the sources of a command line whose last operand, or the value of an option, is the
destination. -/
def eachSource (name : String) (o : Options) (act : String → String → Step Nat) : Step Nat := do
  let into (target : String) (sources : List String) : Step Nat := do
    match ← call (.inspect target true) with
    | .ok (.directory _ _) =>
      eachOperand 0 (fun source => act source (Path.join target (baseName source))) sources
    | .ok _ => cannot name "target" target .ENOTDIR
    | .error e => cannot name "target" target e
  match o.value? 't', o.operands.reverse with
  | some _, [] | none, [] => misuse name "missing file operand" 1
  | some target, sources => into target sources.reverse
  | none, [only] => misuse name ("missing destination file operand after " ++ quoteAlways only) 1
  | none, target :: sources =>
    match sources with
    | [source] =>
      act source (← if o.has 'T' then .done target else destination source target)
    | sources => into target sources.reverse

/-- Two paths are not to be the same file. -/
def sameFiles (name source place : String) : Step Nat := do
  complain (name ++ ": " ++ quoteAlways source ++ " and " ++ quoteAlways place ++
    " are the same file\n")
  return 1

/-- What is wrong with putting a thing of one kind in place of one of another kind. -/
def clash (kind there : FileKind) (source place : String) : Option String :=
  if kind.isDirectory && !there.isDirectory then
    some ("cannot overwrite non-directory " ++ quoteAlways place ++ " with directory " ++
      quoteAlways source)
  else if !kind.isDirectory && there.isDirectory then
    some ("cannot overwrite directory " ++ quoteAlways place ++ " with non-directory")
  else none

/-- The options that say where things go and what is done about those in their way. -/
def placeOptions : List (String × Char) :=
  [("force", 'f'), ("interactive", 'i'), ("no-clobber", 'n'), ("verbose", 'v'),
   ("target-directory", 't'),
    ("no-target-directory", 'T')]

/-! ## Moving -/

/-- Gives things other names. -/
def mv : Program := fun argv _ =>
  let name := argv.headD ""
  withOptions name { flags := "finvTu", valued := "t", long := placeOptions } argv 1 fun o =>
    eachSource name o fun source place => do
      match ← call (.inspect source false) with
      | .error e => cannot name "cannot stat" source e
      | .ok kind =>
        let there ← call (.inspect place false)
        if there.toBool && o.lastOf? "fin" = some 'n' then return 0
        else if there.toOption.any (·.node == kind.node) then sameFiles name source place
        else
          match there.toOption.bind (clash kind · source place) with
          | some reason =>
            complain (name ++ ": " ++ reason ++ "\n")
            return 1
          | none =>
            match ← call (.rename source place) with
            | .ok _ =>
              tell o ("renamed " ++ quoteAlways source ++ " -> " ++ quoteAlways place)
              return 0
            | .error e =>
              let way :=
                if e = .EINVAL then
                  "cannot move " ++ quoteAlways source ++ " to a subdirectory of itself, " ++
                    quoteAlways place ++ "\n"
                else
                  "cannot move " ++ quoteAlways source ++ " to " ++ quoteAlways place ++ ": " ++
                    e.text ++ "\n"
              complain (name ++ ": " ++ way)
              return 1

/-! ## Copying -/

/-- How things are copied: the name and the options of the program, the operand, and the place to
which that goes. -/
structure Copying where
  name : String
  options : Options
  source : String
  place : String

/-- What has come of copying an operand so far. -/
structure Copied where
  code : Nat := 0
  /-- The first directory that was made. -/
  made : Option NodeId := none
  /-- The directory that was made was to be copied too, so nothing more is. -/
  intoItself : Bool := false

namespace Copying

/-- Directories are copied with all that is in them. -/
def isRecursive (c : Copying) : Bool :=
  c.options.has 'r' || c.options.has 'R' || c.options.has 'a'

/-- Links are copied as links. -/
def keepsLinks (c : Copying) : Bool :=
  let o := c.options
  o.has 'P' || o.has 'd' || (c.isRecursive && !o.has 'L' && !o.has 'H')

/-- Things that are already there stay as they are. -/
def keepsOld (c : Copying) : Bool :=
  c.options.lastOf? "fin" = some 'n'

/-- Reports what stands in the way of a copy. -/
def refuse (c : Copying) (reason : String) : Step Nat := do
  complain (c.name ++ ": " ++ reason ++ "\n")
  return 1

/-- A thing is a copy of itself already, since both paths lead to it, if need be through links. -/
def isItself (c : Copying) (source place : String) (kind there : FileKind) : Step Bool := do
  if kind.node == there.node then return true
  else if c.keepsLinks && kind.isLink != there.isLink then
    match ← call (.inspect source true), ← call (.inspect place true) with
    | .ok a, .ok b => return a.node == b.node
    | _, _ => return false
  else return false

/-- Opens the place that a file is copied to. A file that is there is written over. -/
def openPlace (c : Copying) (place : String) (mode : Nat) (isNew : Bool) :
    Step (Except String Fd) := do
  let opened := call (.openFile place (.write .truncate mode) false)
  let wording (e : Errno) : String :=
    "cannot create regular file " ++ quoteAlways place ++ ": " ++ e.text
  if isNew then
    match ← call (.inspect place false) with
    | .ok (.link _) =>
      return .error ("not writing through dangling symlink " ++ quoteAlways place)
    | _ =>
      match ← opened with
      | .error .EISDIR =>
        return .error (wording (if Path.endsInSlash place then .ENOTDIR else .EISDIR))
      | result => return result.mapError wording
  else
    match ← opened with
    | .error e =>
      if c.options.has 'f' then
        match ← call (.remove place) with
        | .error e => return .error ("cannot remove " ++ quoteAlways place ++ ": " ++ e.text)
        | .ok _ =>
          tell c.options ("removed " ++ quoteAlways place)
          return (← opened).mapError wording
      else return .error (wording e)
    | .ok fd => return .ok fd

/-- Copies the contents of a file. -/
def contents (c : Copying) (source place : String) (mode : Nat) (isNew : Bool) : Step Nat := do
  match ← call (.openFile source .read false) with
  | .error e => c.refuse ("cannot open " ++ quoteAlways source ++ " for reading: " ++ e.text)
  | .ok input =>
    let code ← match ← c.openPlace place mode isNew with
      | .error reason => c.refuse reason
      | .ok output =>
        let code ← match ← readToEnd input .empty patience with
          | .error e => cannot c.name "error reading" source e
          | .ok bytes => attempt c.name "error writing" place (← writeBytes output bytes)
        let _ ← call (.close output)
        pure code
    let _ ← call (.close input)
    return code

/-- Copies something that is neither a directory nor to be followed as a link. -/
def leaf (c : Copying) (kind : FileKind) (source place : String) (isNew : Bool) : Step Nat := do
  match kind with
  | .link _ =>
    match ← call (.readLink source) with
    | .error e => cannot c.name "cannot read symbolic link" source e
    | .ok target =>
      attempt c.name "cannot create symbolic link" place (← call (.makeLink place target))
  | kind =>
    let mode := match kind with
      | .regular _ _ mode => mode
      | _ => 0o666
    if c.options.has 's' then
      attempt c.name "cannot create symbolic link" place (← call (.makeLink place source))
    else if c.options.has 'l' then
      attempt c.name "cannot create hard link" place (← call (.shareFile source place))
    else c.contents source place mode isNew

/-- Finds what is at the place for a copy of a thing of this kind, if anything is. What is in the
way of something that is not written into it goes first. -/
def clear (c : Copying) (kind : FileKind) (source place : String) :
    Step (Except (Option String) (Option FileKind)) := do
  let follows := kind.isRegular && !c.options.has 's' && !c.options.has 'l' ||
    !kind.isDirectory && !kind.isLink && !c.isRecursive
  match ← call (.inspect place follows) with
  | .error .ENOENT => return .ok none
  | .error .ELOOP =>
    if c.options.has 'f' then return .ok none
    else return .error (some ("cannot stat " ++ quoteAlways place ++ ": " ++ Errno.text .ELOOP))
  | .error e => return .error (some ("cannot stat " ++ quoteAlways place ++ ": " ++ e.text))
  | .ok there =>
    if c.keepsOld then return .error none
    else if ← c.isItself source place kind there then
      if c.options.has 'l' then return .error none
      else
        return .error (some (quoteAlways source ++ " and " ++ quoteAlways place ++
          " are the same file"))
    else
      match clash kind there source place with
      | some reason => return .error (some reason)
      | none =>
        if !kind.isDirectory && !there.isDirectory && c.keepsLinks && !kind.isRegular then
          match ← call (.remove place) with
          | .error e =>
            return .error (some ("cannot remove " ++ quoteAlways place ++ ": " ++ e.text))
          | .ok _ =>
            tell c.options ("removed " ++ quoteAlways place)
            return .ok none
        else return .ok (some there)

/-- Makes the directory that another is copied to, unless it is there. It can be changed until all
is in it. -/
def makePlace (c : Copying) (source place : String) (mode : Nat) (isThere : Bool) (done : Copied) :
    Step (Except String Copied) := do
  if isThere then return .ok done
  match ← call (.makeDirectory place (mode ||| 0o700)) with
  | .error e => return .error ("cannot create directory " ++ quoteAlways place ++ ": " ++ e.text)
  | .ok _ =>
    tell c.options (quoteAlways source ++ " -> " ++ quoteAlways place)
    let node := (← call (.inspect place false)).toOption.map (·.node)
    return .ok { done with made := done.made.or node }

/-- Copies one thing after another until there is nothing to be gained by it. -/
def each (act : String → Copied → Step Copied) (done : Copied) : List String → Step Copied
  | [] => .done done
  | entry :: rest => do
    if done.intoItself then return done else each act (← act entry done) rest

/-- Copies a thing, with all that is in it if that is wanted, so many levels deep. -/
def thing (c : Copying) (source place : String) (done : Copied) : Nat → Step Copied
  | 0 => .done { done with code := 1 }
  | depth + 1 => do
    let refuse (reason : String) : Step Copied := do
      return { done with code := ← c.refuse reason }
    match ← call (.inspect source (!c.keepsLinks)) with
    | .error e => refuse ("cannot stat " ++ quoteAlways source ++ ": " ++ e.text)
    | .ok kind =>
      if kind.isDirectory && !c.isRecursive then
        refuse ("-r not specified; omitting directory " ++ quoteAlways source)
      else
        match ← c.clear kind source place with
        | .error none => return done
        | .error (some reason) => refuse reason
        | .ok there =>
          match kind with
          | .directory node mode =>
            if done.made == some node then
              return { (← refuse ("cannot copy a directory, " ++ quoteAlways c.source ++
                ", into itself, " ++ quoteAlways c.place)) with intoItself := true }
            else
              match ← c.makePlace source place mode there.isSome done with
              | .error reason => refuse reason
              | .ok begun =>
                let copied ← match ← call (.list source) with
                  | .error e => do
                    return { begun with
                      code := ← cannot c.name "cannot access" source e }
                  | .ok names =>
                    each (fun entry done =>
                      c.thing (source ++ "/" ++ entry) (place ++ "/" ++ entry) done depth)
                      begun names
                if there.isNone && mode &&& 0o700 ≠ 0o700 then
                  let mask ← currentMask
                  let _ ← call (.setMode place (mode - (mode &&& mask)))
                return copied
          | kind =>
            tell c.options (quoteAlways source ++ " -> " ++ quoteAlways place)
            let code ← c.leaf kind source place there.isNone
            return { done with code := max done.code code }

end Copying

/-- Copies files. -/
def cp : Program := fun argv _ =>
  let name := argv.headD ""
  let known : OptionSet :=
    { flags := "abdfHilLnprPRsTuvx", valued := "t"
      long := placeOptions ++ [("recursive", 'r'), ("archive", 'a'), ("dereference", 'L'),
        ("no-dereference", 'P'), ("link", 'l'), ("symbolic-link", 's')] }
  withOptions name known argv 1 fun o =>
    eachSource name o fun source place => do
      let c : Copying := { name, options := o, source, place }
      return (← c.thing source place {} maxDepth).code

/-! ## Linking -/

/-- Makes links: names that lead to other names, or other names for files. -/
def ln : Program := fun argv _ =>
  let name := argv.headD ""
  let known : OptionSet :=
    { flags := "sfnvTLPi", valued := "t", long := ("symbolic", 's') :: placeOptions }
  withOptions name known argv 1 fun o =>
    let o := match o.operands with
      | [only] => if o.has 't' then o else { o with operands := [only, "."] }
      | _ => o
    let isSymbolic := o.has 's'
    eachSource name o fun source place => do
      if o.has 'f' then
        let _ ← call (.remove place)
      if isSymbolic then
        match ← call (.makeLink place source) with
        | .error e => cannot name "failed to create symbolic link" place e
        | .ok _ =>
          tell o (quoteAlways place ++ " -> " ++ quoteAlways source)
          return 0
      else
        match ← call (.inspect source (o.has 'L')) with
        | .error e => cannot name "failed to access" source e
        | .ok (.directory _ _) =>
          complain (name ++ ": " ++ source ++ ": hard link not allowed for directory\n")
          return 1
        | .ok _ =>
          match ← call (.shareFile source place) with
          | .ok _ =>
            tell o (quoteAlways place ++ " => " ++ quoteAlways source)
            return 0
          | .error e =>
            if e = .EEXIST then cannot name "failed to create hard link" place e
            else
              complain (name ++ ": failed to create hard link " ++ quoteAlways place ++ " => " ++
                quoteAlways source ++ ": " ++ e.text ++ "\n")
              return 1

end Program

end CommandShell
