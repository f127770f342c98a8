import CommandShell.Program.Permissions

/-!
# Listing directories

`ls`, which writes the names in directories one a line in the order of their bytes.
-/

namespace CommandShell

namespace Program

/-- The order of texts by their bytes. -/
def bytesLe (a b : String) : Bool :=
  let rec le : List UInt8 → List UInt8 → Bool
    | [], _ => true
    | _ :: _, [] => false
    | x :: xs, y :: ys => if x < y then true else if y < x then false else le xs ys
  le (Text.bytes a).toList (Text.bytes b).toList

/-- Names in the order in which they are listed. -/
def inOrder (o : Options) (names : List String) : List String :=
  if o.has 'U' || o.has 'f' then names
  else
    let sorted := names.mergeSort bytesLe
    if o.has 'r' then sorted.reverse else sorted

/-- The names that are listed of those in a directory. -/
def visibleNames (o : Options) (names : List String) : List String :=
  if o.has 'a' || o.has 'f' then inOrder o ("." :: ".." :: names)
  else if o.has 'A' then inOrder o names
  else inOrder o (names.filter fun n => !n.startsWith ".")

/-- A name with a mark of what kind of thing has it, if that is wanted. -/
def marked (o : Options) (dir name : String) : Step String := do
  if !(o.has 'F' || o.has 'p') then return name
  else
    let path := if dir.isEmpty then name else Path.join dir name
    match ← call (.inspect path false) with
    | .ok (.directory _ _) => return name ++ "/"
    | .ok kind =>
      if !o.has 'F' then return name
      else
        match kind with
        | .link _ => return name ++ "@"
        | .regular _ _ mode => return if mode &&& 0o111 ≠ 0 then name ++ "*" else name
        | _ => return name
    | .error _ => return name

/-- Marks names. -/
def markedAll (o : Options) (dir : String) : List String → Step (List String)
  | [] => .done []
  | name :: rest => do
    let here ← marked o dir name
    return here :: (← markedAll o dir rest)

/-- Names as they are laid out. -/
def laidOut (o : Options) (names : List String) : String :=
  if names.isEmpty then ""
  else if o.lastOf? "m1xC" = some 'm' then ", ".intercalate names ++ "\n"
  else if o.lastOf? "m1xC" = some 'x' || o.lastOf? "m1xC" = some 'C' then
    "  ".intercalate names ++ "\n"
  else "".intercalate (names.map (· ++ "\n"))

/-- The directories among the entries of one. -/
def subdirectories (dir : String) : List String → Step (List String)
  | [] => .done []
  | name :: rest => do
    let others ← subdirectories dir rest
    if Path.isDots name then return others
    else
      match ← call (.inspect (Path.join dir name) false) with
      | .ok (.directory _ _) => return Path.join dir name :: others
      | _ => return others

/-- What has been listed. -/
structure Listed where
  text : String := ""
  code : Nat := 0

/-- Lists directories, those in them as well if that is wanted, with the count as a bound. -/
def listAll (name : String) (o : Options) (headed : Bool) (done : Listed) (dirs : List String) :
    Nat → Step Listed
  | 0 => .done done
  | count + 1 =>
    match dirs with
    | [] => .done done
    | dir :: rest => do
      match ← call (.list dir) with
      | .error e =>
        complain (name ++ ": cannot open directory " ++ quoteAlways dir ++ ": " ++ e.text ++ "\n")
        listAll name o headed { done with code := 2 } rest count
      | .ok names =>
        let names := visibleNames o names
        let lines := laidOut o (← markedAll o dir names)
        let header :=
          if headed then (if done.text.isEmpty then "" else "\n") ++ dir ++ ":\n" else ""
        let inside ← if o.has 'R' then subdirectories dir names else .done []
        let done := { done with text := done.text ++ header ++ lines }
        listAll name o headed done (inside ++ rest) count

/-- Lists directories. -/
def ls : Program := fun argv _ =>
  let name := argv.headD ""
  let known : OptionSet :=
    { flags := "1aAdfFprRUmxC"
      long := [("all", 'a'), ("almost-all", 'A'), ("directory", 'd'), ("classify", 'F'),
        ("reverse", 'r'), ("recursive", 'R')] }
  withOptions name known argv 2 fun o => do
    let operands := if o.operands.isEmpty then ["."] else inOrder o o.operands
    let rec sort (code : Nat) (files dirs : List String) :
        List String → Step (Nat × List String × List String)
      | [] => .done (code, files.reverse, dirs.reverse)
      | path :: rest => do
        let found ← match ← call (.inspect path true) with
          | .error .ENOENT | .error .ELOOP => call (.inspect path false)
          | found => pure found
        match found with
        | .error e =>
          let _ ← cannot name "cannot access" path e
          sort 2 files dirs rest
        | .ok (.directory _ _) =>
          if o.has 'd' then sort code (path :: files) dirs rest
          else sort code files (path :: dirs) rest
        | .ok _ => sort code (path :: files) dirs rest
    let (code, files, dirs) ← sort 0 [] [] operands
    let first := laidOut o (← markedAll o "" files)
    let headed := operands.length > 1 || o.has 'R'
    let listed ← listAll name o headed { text := first, code } dirs patience
    finish name (Text.bytes listed.text) listed.code

end Program

end CommandShell
