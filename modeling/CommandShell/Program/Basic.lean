import CommandShell.System.Syscall

/-!
# Programs

A `Program` is what a process runs: from its arguments and its environment it makes a dialogue
with the system that ends in an exit code. This file has what most programs do: reading
options, reading a descriptor to its end, writing, reporting a failure, and going through the files
that are named on the command line.

A program that would repeat something for ever repeats it `patience` times.
-/

namespace CommandShell

/-- What a process runs, from its arguments (the first being its name) and its environment. -/
abbrev Program := List String → List (String × String) → Dialogue Syscalls Nat

/-- A part of a program that comes to an `α`. -/
abbrev Step (α : Type) := Dialogue Syscalls α

namespace Program

/-- Makes a system call. -/
def call (r : Syscall) : Step r.Answer :=
  Dialogue.call (I := Syscalls) r

/-- How often a program repeats what it could repeat for ever. -/
def patience : Nat := 1000000

/-- How many bytes are read at once. -/
def blockSize : Nat := 131072

/-- Writes bytes to a descriptor. -/
def writeBytes (fd : Fd) (bytes : ByteArray) : Step (Except Errno Unit) :=
  if bytes.isEmpty then .done (.ok ()) else call (.write fd bytes)

/-- Writes text to the standard error. A failure of that goes unnoticed. -/
def complain (text : String) : Step Unit := do
  let _ ← call (.write Fd.stderr (Text.bytes text))

/-- The last part of a path, by which a program calls itself. -/
def baseName (path : String) : String :=
  (Path.names path).getLast?.getD path

/-! ## Names in messages -/

/-- A character that a shell takes as it stands anywhere in a word. -/
def isPlain (c : Char) : Bool :=
  c.isAlphanum || "%+,-./@_]".contains c

/-- A character that is special at the start of a word only. -/
def isSpecialInFront (c : Char) : Bool :=
  c == '#' || c == '~'

/-- Nothing in the word is special to a shell. -/
def isPlainWord (cs : List Char) : Bool :=
  match cs with
  | [] => false
  | ['\x7b'] | ['\x7d'] => false
  | c :: rest =>
    let plain (c : Char) : Bool := isPlain c || c == '\x7b' || c == '\x7d'
    plain c && rest.all fun d => plain d || isSpecialInFront d

/-- Three octal digits. -/
def octal (b : UInt8) : List Char :=
  [b / 64, b / 8 % 8, b % 8].map fun d => Char.ofNat (48 + d.toNat)

/-- How a byte that cannot be shown is written between dollar quotes, `none` for one that can be
shown. -/
def escape? (b : UInt8) : Option (List Char) :=
  if b = 7 then some ['\\', 'a']
  else if b = 8 then some ['\\', 'b']
  else if b = 9 then some ['\\', 't']
  else if b = 10 then some ['\\', 'n']
  else if b = 11 then some ['\\', 'v']
  else if b = 12 then some ['\\', 'f']
  else if b = 13 then some ['\\', 'r']
  else if b < 32 || b ≥ 127 then some ('\\' :: octal b)
  else none

/-- The inside of a quoted name. `escaping` tells whether dollar quotes are open. -/
def quoteBytes (escaping : Bool) : List UInt8 → List Char
  | [] => []
  | b :: rest =>
    match escape? b with
    | some cs => (if escaping then cs else "'$'".toList ++ cs) ++ quoteBytes true rest
    | none =>
      let close := if escaping then "''".toList else []
      let quoted := if escaping then ['\'', '\\', '\''] else "'\\'".toList
      if b = 39 then quoted ++ '\'' :: quoteBytes false rest
      else close ++ Char.ofNat b.toNat :: quoteBytes false rest

/-- A name in quotes. -/
def quoteAlways (name : String) : String :=
  let bytes := (Text.bytes name).toList
  let shown := bytes.all fun b => (escape? b).isNone
  let simple := bytes.all fun b =>
    let c := Char.ofNat b.toNat
    isPlain c || c == ':' || c == '\'' || c == ' ' || c == '\x7b' || c == '\x7d' ||
      isSpecialInFront c
  if bytes.contains 39 && shown && simple then "\"" ++ name ++ "\""
  else "'" ++ String.ofList (quoteBytes false bytes) ++ "'"

/-- A name as messages show it: in quotes if a shell would not take it as it stands. -/
def quote (name : String) : String :=
  if isPlainWord name.toList then name else quoteAlways name

/-- A word as messages show it that do not speak of a file: in quotes, between which a backslash
stands before all that would not be clear otherwise. -/
def cite (word : String) : String :=
  let shown (b : UInt8) : List Char :=
    if b = 39 || b = 92 then ['\\', Char.ofNat b.toNat]
    else (escape? b).getD [Char.ofNat b.toNat]
  "'" ++ String.ofList ((Text.bytes word).toList.flatMap shown) ++ "'"

/-- Reports what is wrong with a subject and yields exit code 1. -/
def fail (name subject : String) (reason : String) : Step Nat := do
  complain (name ++ ": " ++ subject ++ ": " ++ reason ++ "\n")
  return 1

/-! ## Options -/

/-- The options that a program knows. Letters can be joined in a word after a hyphen; a long name
stands for a letter, and may be cut short as long as it is the only one to begin so. -/
structure OptionSet where
  flags : String
  /-- The letters of the options that take a value. -/
  valued : String := ""
  /-- The letters of the options that take a value from their own word if there is one. -/
  attached : String := ""
  long : List (String × Char) := []
  /-- The first word that is no option ends them. -/
  leading : Bool := false

/-- The options and the other words of a command line. -/
structure Options where
  /-- Each option with its value, which is empty for one that takes none. -/
  given : List (Char × String) := []
  operands : List String := []

namespace Options

/-- An option was given. -/
def has (o : Options) (c : Char) : Bool :=
  o.given.any (·.1 == c)

/-- Puts options in front. -/
def prepend (o : Options) (given : List (Char × String)) : Options :=
  { o with given := given ++ o.given }

/-- The values of an option, the first one given first. -/
def values (o : Options) (c : Char) : List String :=
  (o.given.filter (·.1 == c)).map (·.2)

/-- The value of an option, the last one given. -/
def value? (o : Options) (c : Char) : Option String :=
  (o.values c).getLast?

/-- The last one given of some options. -/
def lastOf? (o : Options) (letters : String) : Option Char :=
  (o.given.reverse.find? fun g => letters.contains g.1).map (·.1)

/-- The files of a command line, the standard input if there are none. -/
def files (o : Options) : List String :=
  if o.operands.isEmpty then ["-"] else o.operands

end Options

/-- What is wrong with the options of a command line. -/
inductive OptionError
  | unknown (option : Char)
  | unknownLong (word : String)
  | ambiguous (word : String) (names : List String)
  | missingValue (option : Char)
  | missingLongValue (name : String)
  | needlessValue (name : String)

/-- The first byte of a character, as which an option is read. -/
def firstByte (c : Char) : Char :=
  match Text.charBytes c with
  | [_] | [] => c
  | b :: _ => Text.stray b

/-- The wording of a wrong option. -/
def OptionError.message : OptionError → String
  | .unknown c => "invalid option -- '" ++ (firstByte c).toString ++ "'"
  | .unknownLong word => "unrecognized option '" ++ word ++ "'"
  | .ambiguous word names =>
    "option '" ++ word ++ "' is ambiguous; possibilities:" ++
      "".intercalate (names.map fun n => " '--" ++ n ++ "'")
  | .missingValue c => "option requires an argument -- '" ++ c.toString ++ "'"
  | .missingLongValue name => "option '--" ++ name ++ "' requires an argument"
  | .needlessValue name => "option '--" ++ name ++ "' doesn't allow an argument"

/-- An option as one word gives it, with its value unless that has to follow. -/
inductive Reading
  | complete (given : List (Char × String))
  /-- The option still needs its value; the error is for when there is none. -/
  | pending (given : List (Char × String)) (option : Char) (otherwise : OptionError)

namespace OptionSet

/-- Reads the options in one word after its hyphen. The value of an option is the rest of its word
if there is any; a value that can be left out has to be there. -/
def readCluster (s : OptionSet) : List Char → Except OptionError Reading
  | [] => .ok (.complete [])
  | c :: rest =>
    if s.attached.contains c then .ok (.complete [(c, String.ofList rest)])
    else if s.valued.contains c then
      .ok <|
        if rest.isEmpty then .pending [] c (.missingValue c)
        else .complete [(c, String.ofList rest)]
    else if s.flags.contains c then do
      match ← s.readCluster rest with
      | .complete given => return .complete ((c, "") :: given)
      | .pending given option otherwise => return .pending ((c, "") :: given) option otherwise
    else .error (.unknown c)

/-- Reads an option by its long name. -/
def readLong (s : OptionSet) (word : String) : Except OptionError Reading :=
  let body := word.toList.drop 2
  let name := String.ofList (body.takeWhile (· != '='))
  let value? : Option String :=
    if body.contains '=' then some (String.ofList ((body.dropWhile (· != '=')).drop 1)) else none
  let fitting := s.long.filter fun l => l.1.startsWith name
  let known := match s.long.find? (·.1 == name) with
    | some l => [l]
    | none => fitting
  match known with
  | [] => .error (.unknownLong word)
  | (full, c) :: others =>
    if others.any (·.2 != c) then .error (.ambiguous word (known.map (·.1)))
    else if s.valued.contains c then
      match value? with
      | some value => .ok (.complete [(c, value)])
      | none => .ok (.pending [] c (.missingLongValue full))
    else if s.attached.contains c then .ok (.complete [(c, value?.getD "")])
    else if value?.isSome then .error (.needlessValue full)
    else .ok (.complete [(c, "")])

/-- Reads the options of a command line. They may stand among the other words, up to a `--`. -/
def read (s : OptionSet) : List String → Except OptionError Options
  | [] => .ok {}
  | "--" :: rest => .ok { operands := rest }
  | word :: rest => do
    let isOption := word.startsWith "-" && word.length > 1
    if isOption then
      let reading :=
        if word.startsWith "--" then s.readLong word else s.readCluster (word.toList.drop 1)
      match ← reading with
      | .complete given => return (← s.read rest).prepend given
      | .pending given option otherwise =>
        match rest with
        | [] => .error otherwise
        | value :: rest => return (← s.read rest).prepend (given ++ [(option, value)])
    else if s.leading then return { operands := word :: rest }
    else
      let o ← s.read rest
      return { o with operands := word :: o.operands }

end OptionSet

/-- Reports a misuse of a program and points to its help. -/
def misuse (name reason : String) (code : Nat) : Step Nat := do
  complain (name ++ ": " ++ reason ++ "\nTry '" ++ name ++ " --help' for more information.\n")
  return code

/-- Reads the options and goes on with them, unless they are wrong. -/
def withOptions (name : String) (known : OptionSet) (argv : List String) (code : Nat)
    (body : Options → Step Nat) : Step Nat :=
  match known.read (argv.drop 1) with
  | .error e => misuse name e.message code
  | .ok o => body o

/-! ## Reading -/

/-- Reads on to the end of a descriptor. -/
def readToEnd (fd : Fd) (read : ByteArray) : Nat → Step (Except Errno ByteArray)
  | 0 => .done (.ok read)
  | n + 1 => do
    match ← call (.read fd blockSize) with
    | .error e => return .error e
    | .ok bytes => if bytes.isEmpty then return .ok read else readToEnd fd (read ++ bytes) n

/-- All that a named file holds, or the standard input for `-`. -/
def readFile (path : String) : Step (Except Errno ByteArray) :=
  if path = "-" then readToEnd Fd.stdin .empty patience
  else do
    match ← call (.openFile path .read false) with
    | .error e => return .error e
    | .ok fd =>
      let result ← readToEnd fd .empty patience
      let _ ← call (.close fd)
      return result

/-- The lines of a text without their ends, and whether the last one has an end. -/
def splitLines (bytes : ByteArray) : List ByteArray × Bool :=
  let rec go (rest line : List UInt8) (done : List ByteArray) : List ByteArray × Bool :=
    match rest with
    | [] =>
      if line.isEmpty then (done.reverse, true)
      else ((⟨line.reverse.toArray⟩ :: done).reverse, false)
    | b :: rest =>
      if b = 10 then go rest [] (⟨line.reverse.toArray⟩ :: done) else go rest (b :: line) done
  go bytes.toList [] []

/-- Lines with their ends. -/
def joinLines (lines : List ByteArray) : ByteArray :=
  lines.foldl (fun text line => (text ++ line).push 10) .empty

/-- Writes text to the standard output and ends with the code, or with 1 if it cannot be written,
which is reported. -/
def finish (name : String) (text : ByteArray) (code : Nat) : Step Nat := do
  match ← writeBytes Fd.stdout text with
  | .ok _ => return code
  | .error e => fail name "write error" e.text

/-- Reads the files of a command line in whole and hands each one on with its name. A file that
cannot be read is reported by `report`, and the program ends with the code that this gives. -/
def eachFile {σ : Type} (paths : List String) (s : σ) (code : Nat)
    (report : String → Errno → Step Nat) (use : String → ByteArray → σ → Step σ) :
    Step (σ × Nat) :=
  match paths with
  | [] => .done (s, code)
  | path :: rest => do
    match ← readFile path with
    | .error e =>
      let code ← report path e
      eachFile rest s code report use
    | .ok bytes =>
      let s ← use path bytes s
      eachFile rest s code report use

/-- How going through something in blocks has ended. -/
inductive Traversal (σ τ : Type)
  | finished (s : σ)
  | unreadable (e : Errno) (s : σ)
  /-- No more is wanted. -/
  | stopped (t : τ)

/-- Goes through a descriptor in blocks of lines. `held` has been read and is not the whole of a
line; what stands behind the last newline is a line without an end. -/
def eachBlock {σ τ : Type} (fd : Fd) (use : σ → List ByteArray → Bool → Step (Except τ σ))
    (held : ByteArray) (s : σ) : Nat → Step (Traversal σ τ)
  | 0 => .done (.finished s)
  | n + 1 => do
    match ← call (.read fd blockSize) with
    | .error e => return .unreadable e s
    | .ok bytes =>
      if bytes.isEmpty then
        if held.isEmpty then return .finished s
        else
          match ← use s [held] false with
          | .error t => return .stopped t
          | .ok s => return .finished s
      else
        let (lines, ended) := splitLines (held ++ bytes)
        let whole := if ended then lines else lines.dropLast
        let held := if ended then .empty else lines.getLast?.getD .empty
        if whole.isEmpty then eachBlock fd use held s n
        else
          match ← use s whole true with
          | .error t => return .stopped t
          | .ok s => eachBlock fd use held s n

/-- Goes through the lines of files in blocks, until the program is to end with some code. A file
that cannot be read is reported by `report`, which gives the code to end with, now or in the end. -/
def eachBlockOf {σ : Type} (paths : List String) (code : Nat)
    (report : String → Errno → Step (Except Nat Nat))
    (use : σ → List ByteArray → Bool → Step (Except Nat σ)) (s : σ) : Step (Except Nat (σ × Nat)) :=
  match paths with
  | [] => .done (.ok (s, code))
  | path :: rest => do
    let opened ← if path = "-" then .done (.ok Fd.stdin) else call (.openFile path .read false)
    match opened with
    | .error e =>
      match ← report path e with
      | .error code => return .error code
      | .ok code => eachBlockOf rest code report use s
    | .ok fd =>
      let traversal ← eachBlock fd use .empty s patience
      if path ≠ "-" then
        let _ ← call (.close fd)
      match traversal with
      | .finished s => eachBlockOf rest code report use s
      | .stopped code => return .error code
      | .unreadable e s =>
        match ← report path e with
        | .error code => return .error code
        | .ok code => eachBlockOf rest code report use s

/-- A filter that goes through the lines of its files. It keeps something in mind from line to line,
and makes of each line what is to be written for it, and of what it has in mind what is to be
written at the end. -/
def filter {σ : Type} (name : String) (paths : List String) (s : σ)
    (each : σ → ByteArray → σ × ByteArray) (last : σ → ByteArray) : Step Nat := do
  let use (s : σ) (lines : List ByteArray) (_ : Bool) : Step (Except Nat σ) := do
    let (s, text) := lines.foldl (fun (s, text) line =>
      let (s, more) := each s line
      (s, text ++ more)) (s, ByteArray.empty)
    match ← writeBytes Fd.stdout text with
    | .ok _ => return .ok s
    | .error e => return .error (← fail name "write error" e.text)
  let report (path : String) (e : Errno) : Step (Except Nat Nat) := do
    return .ok (← fail name (quote path) e.text)
  match ← eachBlockOf paths 0 report use s with
  | .error code => return code
  | .ok (s, code) => finish name (last s) code

/-- Does something to each operand in turn; the exit code is the worst of all. -/
def eachOperand (code : Nat) (act : String → Step Nat) : List String → Step Nat
  | [] => .done code
  | operand :: rest => do
    let here ← act operand
    eachOperand (max code here) act rest

end Program

end CommandShell
