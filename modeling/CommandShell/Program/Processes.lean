import CommandShell.Decimal.Notation
import CommandShell.Program.Basic
import CommandShell.System.Disposition

/-!
# Processes

The programs that wait, start other programs, send signals and look for a terminal: `sleep`,
`xargs`, `kill` and `tty`.
-/

namespace CommandShell

namespace Program

/-! ## Waiting -/

/-- A stretch of time in milliseconds. One that does not end is as long as can be waited. -/
def duration? (text : String) : Option Nat :=
  let unit? : List Char → Option Nat
    | [] | ['s'] => some 1
    | ['m'] => some 60
    | ['h'] => some 3600
    | ['d'] => some 86400
    | _ => none
  match Decimal.Quantity.read? text.toList with
  | some (.ratio false n d, rest) => (unit? rest).map fun unit => n * 1000 * unit / d
  | some (.infinite false, rest) => (unit? rest).map fun _ => 1000000000000
  | _ => none

/-- Does nothing for a while. -/
def sleep : Program := fun argv _ =>
  let name := argv.headD ""
  withOptions name { flags := "", leading := true } argv 1 fun o => do
    let wrong := o.operands.filter fun w => (duration? w).isNone
    match wrong.getLast? with
    | some last =>
      for word in wrong.dropLast do
        complain (name ++ ": invalid time interval " ++ cite word ++ "\n")
      misuse name ("invalid time interval " ++ cite last) 1
    | none =>
      if o.operands.isEmpty then misuse name "missing operand" 1
      else
        call (.sleep ((o.operands.filterMap duration?).foldl (· + ·) 0))
        return 0

/-- Tells which terminal the standard input is, which is none. -/
def tty : Program := fun argv _ =>
  let name := argv.headD ""
  withOptions name { flags := "s" } argv 2 fun o =>
    match o.operands with
    | extra :: _ => misuse name ("extra operand " ++ cite extra) 2
    | [] => finish name (if o.has 's' then .empty else "not a tty\n".toUTF8) 1

/-! ## Running programs -/

/-- What the words for `xargs` are separated by. -/
inductive Separation
  /-- Blanks and ends of lines, unless quotes or a backslash keep words together. -/
  | blanks
  | byte (c : Char)

/-- Why words cannot be told apart. -/
inductive SeparationError
  | openQuote (c : Char)

/-- The wording of such an error. -/
def SeparationError.message : SeparationError → String
  | .openQuote c =>
    "unmatched " ++ (if c = '"' then "double" else "single") ++
      " quote; by default quotes are special to xargs unless you use the -0 option"

/-- Words, and why no more of them can be read. -/
abbrev Words := List String × Option SeparationError

/-- Reads words. `word` is the one being read, backwards, if one has begun. -/
def readWords (word : Option (List Char)) (cs : List Char) : Nat → Words
  | 0 => ([], none)
  | fuel + 1 =>
    let finished : List String := (word.map fun w => String.ofList w.reverse).toList
    let add (c : Char) (rest : List Char) : Words := readWords (some (c :: word.getD [])) rest fuel
    match cs with
    | [] => (finished, none)
    | '\\' :: c :: rest => add c rest
    | c :: rest =>
      if c = '\'' || c = '"' then
        let inner := rest.takeWhile fun d => d ≠ c && d ≠ '\n'
        match rest.drop inner.length with
        | d :: after =>
          if d = c then readWords (some (inner.reverse ++ word.getD [])) after fuel
          else ([], some (.openQuote c))
        | [] => ([], some (.openQuote c))
      else if c = ' ' || c = '\t' || c = '\n' then
        let (words, error) := readWords none rest fuel
        (finished ++ words, error)
      else add c rest

/-- The words of a text. -/
def separate (s : Separation) (text : List Char) : Words :=
  match s with
  | .blanks => readWords none text (text.length + 1)
  | .byte c =>
    let parts := ((String.ofList text).splitOn c.toString)
    (if parts.getLast? = some "" then parts.dropLast else parts, none)

/-- Runs a program on words and tells how that went: 123 for a failure, 124 and 125 for what puts an
end to everything, and 126 or 127 if it cannot be run. -/
def runOn (name : String) (loud : Bool) (program : String) (arguments : List String) :
    Step Nat := do
  if loud then complain (" ".intercalate (program :: arguments) ++ "\n")
  match ← call .fork with
  | .error e => fail name "cannot fork" e.text
  | .ok .child =>
    let _ ← call (.close Fd.stdin)
    let _ ← call (.openFile "/dev/null" .read false)
    match ← call (.exec program (program :: arguments)) with
    | none => return 0
    | some e =>
      let _ ← fail name program e.text
      return if e = .ENOENT then 127 else 126
  | .ok (.parent pid) =>
    match ← call (.wait pid) with
    | .error e => fail name "error waiting for child process" e.text
    | .ok (_, word) =>
      let code := word / 256 % 256
      if word % 128 ≠ 0 then
        let _ ← fail name program ("terminated by signal " ++ toString (word % 128))
        return 125
      else if code = 255 then
        let _ ← fail name program "exited with status 255; aborting"
        return 124
      else if code = 0 || code = 126 || code = 127 then return code
      else return 123

/-- Runs a program on several lists of words, until something puts an end to it. -/
def runOnEach (name : String) (loud : Bool) (program : String) (code : Nat) :
    List (List String) → Step Nat
  | [] => .done code
  | arguments :: rest => do
    let here ← runOn name loud program arguments
    if here > 123 then return here else runOnEach name loud program (max code here) rest

/-- Parts of so many items. -/
def partsOf {α : Type} (size : Nat) (items : List α) : Nat → List (List α)
  | 0 => []
  | count + 1 =>
    if items.isEmpty then [] else items.take size :: partsOf size (items.drop size) count

/-- Runs a program on the words of the standard input. -/
def xargs : Program := fun argv _ =>
  let name := argv.headD ""
  let known : OptionSet :=
    { flags := "0rtx", valued := "nILsdPa", leading := true
      long := [("null", '0'), ("no-run-if-empty", 'r'), ("max-args", 'n'), ("replace", 'I'),
        ("delimiter", 'd'), ("verbose", 't')] }
  withOptions name known argv 1 fun o => do
    let (program, first) := match o.operands with
      | [] => ("echo", [])
      | program :: first => (program, first)
    let text ← match o.value? 'a' with
      | some path => readFile path
      | none => readToEnd Fd.stdin .empty patience
    match text with
    | .error e => fail name "read error" e.text
    | .ok bytes =>
      let cs := (Text.ofBytes bytes).toList
      let separation : Separation :=
        if o.has '0' then .byte '\x00'
        else
          match (o.value? 'd').bind (·.toList.head?) with
          | some c => .byte (if o.value? 'd' = some "\\n" then '\n' else c)
          | none => if o.has 'I' then .byte '\n' else .blanks
      let (words, error) := separate separation cs
      let lists : List (List String) :=
        match o.value? 'I' with
        | some mark =>
          let lines := (words.map fun w => w.trimAsciiStart.toString).filter (!·.isEmpty)
          lines.map fun line => first.map fun w => w.replace mark line
        | none =>
          if words.isEmpty then if o.has 'r' || error.isSome then [] else [first]
          else
            let size := ((o.value? 'n').bind (·.toNat?)).getD words.length
            (partsOf (max size 1) words words.length).map (first ++ ·)
      match error with
      | none => runOnEach name (o.has 't') program 0 lists
      | some e =>
        complain (name ++ ": " ++ e.message ++ "\n")
        let _ ← runOnEach name (o.has 't') program 0 lists
        return 1

/-! ## Signals -/

/-- The name of a signal without its `SIG`, in any case, or its number. -/
def signalNumber? (text : String) : Option Nat :=
  match text.toNat? with
  | some n => if n ≤ Signal.highest then some n else none
  | none =>
    let upper := text.toUpper
    let bare := if upper.startsWith "SIG" then (upper.drop 3).toString else upper
    (Signal.names.idxOf? ("SIG" ++ bare)).map (· + 1)

/-- Sends signals. -/
def kill : Program := fun argv _ =>
  let name := argv.headD ""
  let (number, pids) := match argv.drop 1 with
    | "-s" :: name :: rest => (signalNumber? name, rest)
    | word :: rest =>
      if word.startsWith "-" then (signalNumber? (word.drop 1).toString, rest)
      else (some 15, word :: rest)
    | [] => (some 15, [])
  match number with
  | none => misuse name "unknown signal" 1
  | some number =>
    eachOperand 0 (fun text => do
      match text.toInt? with
      | none =>
        complain (name ++ ": failed to parse argument: '" ++ text ++ "'\n")
        return 1
      | some pid =>
        match ← call (.kill pid number) with
        | .ok _ => return 0
        | .error e =>
          complain (name ++ ": (" ++ text ++ "): " ++ e.text ++ "\n")
          return 1) pids

end Program

end CommandShell
