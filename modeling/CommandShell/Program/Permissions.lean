import CommandShell.Program.Basic

/-!
# Permissions

`chmod`, and the modes that it and other programs take: octal numbers, or clauses such as `u+x` that
say who is given or denied what. A clause that does not say who leaves out what the mask of the
process takes away.
-/

namespace CommandShell

namespace Program

/-- Reports that something cannot be done to a path. -/
def cannot (name what path : String) (e : Errno) : Step Nat := do
  complain (name ++ ": " ++ what ++ " " ++ quoteAlways path ++ ": " ++ e.text ++ "\n")
  return 1

/-- Reports what an attempt on a path came to. -/
def attempt (name what path : String) (result : Except Errno Unit) : Step Nat :=
  match result with
  | .ok _ => .done 0
  | .error e => cannot name what path e

namespace Mode

/-- What a mode is worked out for. -/
structure Subject where
  mode : Nat
  isDirectory : Bool := false
  /-- What the process takes away from all it makes. -/
  mask : Nat := 0

/-- The bits of those that letters name, three for each. -/
def whoBits (who : List Char) : Nat :=
  let bits (c : Char) : Nat :=
    if c = 'u' then 0o4700 else if c = 'g' then 0o2070 else if c = 'o' then 0o1007 else 0o7777
  who.foldl (fun n c => n ||| bits c) 0

/-- The bits that a letter grants to all. -/
def rightBits? (s : Subject) (c : Char) : Option Nat :=
  if c = 'r' then some 0o444
  else if c = 'w' then some 0o222
  else if c = 'x' then some 0o111
  else if c = 'X' then some (if s.isDirectory || s.mode &&& 0o111 ≠ 0 then 0o111 else 0)
  else if c = 's' then some 0o6000
  else if c = 't' then some 0o1000
  else if c = 'u' then some (s.mode / 64 % 8 * 0o111)
  else if c = 'g' then some (s.mode / 8 % 8 * 0o111)
  else if c = 'o' then some (s.mode % 8 * 0o111)
  else none

/-- Carries out the changes of one clause after those it is for. -/
def change? (affected : Nat) (s : Subject) (cs : List Char) : Nat → Option Nat
  | 0 => none
  | fuel + 1 =>
    match cs with
    | [] => some s.mode
    | operator :: rest =>
      let isRight (c : Char) : Bool := c ≠ '+' && c ≠ '-' && c ≠ '='
      let rights := rest.takeWhile isRight
      let rest := rest.drop rights.length
      (rights.mapM (rightBits? s)).bind fun bits =>
        let bits := bits.foldl (· ||| ·) 0 &&& affected
        let mode? : Option Nat :=
          if operator = '+' then some (s.mode ||| bits)
          else if operator = '-' then some (s.mode &&& (0o7777 ^^^ bits))
          else if operator = '=' then
            let cleared := affected &&& (if s.isDirectory then 0o1777 else 0o7777)
            some ((s.mode &&& (0o7777 ^^^ cleared)) ||| bits)
          else none
        mode?.bind fun mode => change? affected { s with mode } rest fuel

/-- Carries out one clause. -/
def clause? (s : Subject) (text : String) : Option Nat :=
  let who := text.toList.takeWhile fun c => c == 'u' || c == 'g' || c == 'o' || c == 'a'
  let rest := text.toList.drop who.length
  let affected := if who.isEmpty then 0o7777 &&& (0o7777 ^^^ s.mask) else whoBits who
  if rest.isEmpty then none else change? affected s rest (rest.length + 1)

/-- The permissions that a mode makes of others. -/
def of? (text : String) (s : Subject) : Option Nat :=
  if !text.isEmpty && text.all fun c => '0' ≤ c && c ≤ '7' then
    let mode := text.foldl (fun n c => n * 8 + (c.toNat - 48)) 0
    if mode ≤ 0o7777 then some mode else none
  else (text.splitOn ",").foldlM (fun mode clause => clause? { s with mode } clause) s.mode

/-- Permissions as a listing shows them. -/
def text (mode : Nat) : String :=
  let three (n : Nat) : List Char :=
    [if n / 4 % 2 = 1 then 'r' else '-', if n / 2 % 2 = 1 then 'w' else '-',
      if n % 2 = 1 then 'x' else '-']
  String.ofList (three (mode / 64) ++ three (mode / 8) ++ three mode)

/-- Permissions as a number of four octal digits, and as a listing shows them. -/
def description (mode : Nat) : String :=
  let digits := Nat.toDigits 8 mode
  String.ofList (List.replicate (4 - digits.length) '0' ++ digits) ++ " (" ++ text mode ++ ")"

end Mode

/-- The mask of the process. -/
def currentMask : Step Nat := do
  let mask ← call (.setMask 0)
  let _ ← call (.setMask mask)
  return mask

/-- Changes the permissions of a thing, and of all that is in it if that is wanted, so many levels
deep. -/
def changeModes (name mode : String) (o : Options) (mask : Nat) (path : String) : Nat → Step Nat
  | 0 => .done 1
  | depth + 1 => do
    let quiet := o.has 'f'
    match ← call (.inspect path true) with
    | .error e =>
      if quiet then return 1
      else
        match ← call (.inspect path false) with
        | .ok _ =>
          complain (name ++ ": cannot operate on dangling symlink " ++ quoteAlways path ++ "\n")
          return 1
        | .error _ => cannot name "cannot access" path e
    | .ok kind =>
      let (old, isDirectory) := match kind with
        | .regular _ _ mode => (mode, false)
        | .directory _ mode => (mode, true)
        | _ => (0o666, false)
      let new := (Mode.of? mode { mode := old, isDirectory, mask }).getD old
      let here ← match ← call (.setMode path new) with
        | .ok _ =>
          if o.has 'v' || (o.has 'c' && old ≠ new) then
            let text := "mode of " ++ quoteAlways path ++
              if old = new then " retained as " ++ Mode.description old ++ "\n"
              else
                " changed from " ++ Mode.description old ++ " to " ++ Mode.description new ++ "\n"
            let _ ← writeBytes Fd.stdout (Text.bytes text)
          pure 0
        | .error e => if quiet then pure 1 else cannot name "changing permissions of" path e
      if isDirectory && o.has 'R' then
        match ← call (.list path) with
        | .error e => cannot name "cannot read directory" path e
        | .ok names =>
          eachOperand here (fun entry => do
            match ← call (.inspect (path ++ "/" ++ entry) false) with
            | .ok (.link _) => return 0
            | _ => changeModes name mode o mask (path ++ "/" ++ entry) depth) names
      else return here

/-- Changes permissions. A mode can begin with a hyphen. -/
def chmod : Program := fun argv _ => do
  let name := argv.headD ""
  let isMode (word : String) : Bool :=
    word.startsWith "-" && word.length > 1 &&
      (word.toList.drop 1).all fun c => "rwxXstugoa,+=-".contains c
      && !word.startsWith "--"
  let words := argv.drop 1
  let arranged := match words.find? isMode with
    | some mode => (words.filter (· ≠ mode)).takeWhile (fun w => w.startsWith "-") ++
        "--" :: mode :: (words.filter (· ≠ mode)).dropWhile fun w => w.startsWith "-"
    | none => words
  let known : OptionSet :=
    { flags := "Rcfv"
      long := [("recursive", 'R'), ("changes", 'c'), ("silent", 'f'), ("quiet", 'f'),
        ("verbose", 'v')] }
  let mask ← currentMask
  withOptions name known (name :: arranged) 1 fun o =>
    match o.operands with
    | [] => misuse name "missing operand" 1
    | [mode] => misuse name ("missing operand after " ++ cite mode) 1
    | mode :: paths =>
      if (Mode.of? mode { mode := 0 }).isNone then
        misuse name ("invalid mode: " ++ cite mode) 1
      else eachOperand 0 (fun path => changeModes name mode o mask path 256) paths

end Program

end CommandShell
