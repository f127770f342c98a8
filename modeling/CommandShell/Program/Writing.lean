import CommandShell.Program.Basic
import CommandShell.Text.Format

/-!
# Programs that make text

The programs that write text of their own: `echo`, `printf`, `yes` and `seq`.
-/

namespace CommandShell

namespace Program

/-! ## Words -/

/-- Reads what stands after a backslash in the words of `echo`. Where there is no sequence the
backslash stands for itself. -/
def echoSequences : Format.Sequences
  | 'c' :: _ => .error .cut
  | 'x' :: rest =>
    match Format.readDigitsUpTo 16 0 2 rest with
    | (value, after) =>
      if after.length = rest.length then .ok (['\\', 'x'], rest)
      else .ok ([Char.ofNat value], after)
  | '0' :: rest =>
    let (c, rest) := Format.readOctal rest
    .ok ([c], rest)
  | c :: rest =>
    if Format.isOctal c then
      let (c, rest) := Format.readOctal (c :: rest)
      .ok ([c], rest)
    else
      match Format.escaped? c with
      | some d => .ok ([d], rest)
      | none => .ok (['\\', c], rest)
  | [] => .ok (['\\'], [])

/-- The leading options of `echo`: words of the letters `n`, `e` and `E` alone. -/
def echoOptions (newline escapes : Bool) : List String → Bool × Bool × List String
  | [] => (newline, escapes, [])
  | word :: rest =>
    match word.toList with
    | '-' :: c :: cs =>
      if (c :: cs).all fun c => c == 'n' || c == 'e' || c == 'E' then
        let newline := newline && !(c :: cs).contains 'n'
        let escapes := (c :: cs).foldl (fun e c => if c == 'n' then e else c == 'e') escapes
        echoOptions newline escapes rest
      else (newline, escapes, word :: rest)
    | _ => (newline, escapes, word :: rest)

/-- Writes its arguments. -/
def echo : Program := fun argv _ =>
  let name := argv.headD ""
  let (newline, escapes, words) := echoOptions true false (argv.drop 1)
  let text := (Bytewise.encode (" ".intercalate words)).toList
  let (cs, stop) :=
    if escapes then Format.unescape echoSequences [] text (text.length + 1) else (text, none)
  let bytes := Bytewise.toBytes (String.ofList cs)
  finish name (if newline && stop.isNone then bytes.push 10 else bytes) 0

/-! ## Formats -/

/-- The character of a number in hexadecimal notation. It is written out again if it has no single
byte. -/
def unicodeSequence (letter : Char) (digits : Nat) : Format.Sequences := fun rest =>
  let (value, after) := Format.readDigitsUpTo 16 0 digits rest
  if rest.length - after.length < digits then
    .error (.broken "missing hexadecimal number in escape")
  else if value < 128 then .ok ([Char.ofNat value], after)
  else
    let shown := Nat.toDigits 16 value
    .ok (['\\', letter] ++ List.replicate (digits - shown.length) '0' ++ shown, after)

/-- Reads what stands after a backslash in a format. -/
def formatSequences : Format.Sequences
  | 'c' :: _ => .error .cut
  | 'u' :: rest => unicodeSequence 'u' 4 rest
  | 'U' :: rest => unicodeSequence 'U' 8 rest
  | '"' :: rest => .ok (['"'], rest)
  | 'x' :: rest =>
    match Format.readDigitsUpTo 16 0 2 rest with
    | (value, after) =>
      if after.length = rest.length then
        .error (.broken "missing hexadecimal number in escape")
      else .ok ([Char.ofNat value], after)
  | c :: rest =>
    if Format.isOctal c then
      let (c, rest) := Format.readOctal (c :: rest)
      .ok ([c], rest)
    else
      match Format.escaped? c with
      | some d => .ok ([d], rest)
      | none => .ok (['\\', c], rest)
  | [] => .ok (['\\'], [])

/-- Reads what stands after a backslash in an argument: as in a format, but there may be a zero in
front of three octal digits. -/
def argumentSequences : Format.Sequences
  | '0' :: d :: rest => formatSequences (if Format.isOctal d then d :: rest else '0' :: d :: rest)
  | cs => formatSequences cs

/-- How programs follow a format. -/
def formatDialect : Format.Dialect :=
  let quoted (word : String) : String := cite (Bytewise.decode word)
  { sequences := formatSequences
    argumentSequences := argumentSequences
    idleSigns := "'I"
    sizes := "hlLjtz"
    quote? := some fun word => Bytewise.encode (quote (Bytewise.decode word))
    padsSequences := false
    emptyIsZero := true
    precision := 64
    notNumeric := fun word => quoted word ++ ": expected a numeric value"
    notConverted := fun word => quoted word ++ ": value not completely converted"
    outOfRange := fun word => quoted word ++ ": Numerical result out of range"
    badConversion := fun written => Bytewise.decode written ++ ": invalid conversion specification"
    noConversion := fun written => Bytewise.decode written ++ ": invalid conversion specification" }

/-- Writes its arguments in a format. -/
def printf : Program := fun argv _ =>
  let name := argv.headD ""
  let words := match argv.drop 1 with
    | "--" :: rest => rest
    | words => words
  match words.map Bytewise.encode with
  | [] => misuse name "missing operand" 1
  | template :: arguments => do
    let p := Format.apply formatDialect template arguments
    for reason in p.complaints.reverse do
      complain (name ++ ": " ++ reason ++ "\n")
    let text := Bytewise.toBytes p.written
    match p.stop with
    | some (.broken reason) =>
      complain (name ++ ": " ++ reason ++ "\n")
      finish name text 1
    | some .cut => finish name text 0
    | none =>
      if p.arguments.length = arguments.length then
        if let some word := arguments.head? then
          complain (name ++ ": warning: ignoring excess arguments, starting with " ++
            cite (Bytewise.decode word) ++ "\n")
      finish name text (if p.complaints.isEmpty then 0 else 1)

/-! ## Runs -/

/-- Writes a line for as long as somebody reads it. -/
def yes : Program := fun argv _ =>
  let name := argv.headD ""
  withOptions name { flags := "", leading := true } argv 1 fun o =>
    let line := (if o.operands.isEmpty then "y" else " ".intercalate o.operands) ++ "\n"
    let copies := List.replicate (4096 / Text.size line + 1) (Text.bytes line)
    let block := copies.foldl (· ++ ·) .empty
    let rec go : Nat → Step Nat
      | 0 => .done 0
      | n + 1 => do
        match ← writeBytes Fd.stdout block with
        | .ok _ => go n
        | .error e => fail name "standard output" e.text
    go patience

/-- An operand of `seq`: its value over `unit`, and how it is written. -/
structure Stride where
  value : Int
  unit : Nat
  /-- How many places after the point it has. -/
  places : Nat
  /-- How many characters it takes. -/
  width : Nat

/-- Reads an operand of `seq`. -/
def Stride.ofText? (text : String) : Option Stride :=
  match Decimal.Quantity.read? text.toList with
  | some (.ratio negative n d, []) =>
    let written := text.toList.dropWhile fun c => c == ' ' || c == '+'
    let fraction := (written.dropWhile (· != '.')).drop 1
    let hasPoint := written.contains '.'
    let beforePoint := (written.takeWhile (· != '.')).getLast?
    let width :=
      if !hasPoint then written.length
      else if fraction.isEmpty then written.length - 1
      else if beforePoint.any Char.isDigit then written.length
      else written.length + 1
    some ⟨if negative then -(n : Int) else n, d, fraction.length, width⟩
  | _ => none

/-- A run of numbers: those from `first` by steps that are not beyond `last`, all over one unit. -/
structure NumberRun where
  first : Int
  step : Int
  last : Int
  unit : Nat
  places : Nat
  /-- How many characters a number takes at least. -/
  width : Nat

namespace NumberRun

/-- The run of three operands. -/
def ofStrides (first step last : Stride) (equalWidth : Bool) : NumberRun :=
  let unit := first.unit * step.unit * last.unit
  let scaled (s : Stride) : Int := s.value * (unit / s.unit : Nat)
  let places := max first.places step.places
  let firstWidth :=
    first.width + (places - first.places) + if first.places = 0 && places > 0 then 1 else 0
  let lastWidth :=
    if places = 0 then last.width - (if last.places = 0 then 0 else last.places + 1)
    else last.width + places - last.places + if last.places = 0 then 1 else 0
  { first := scaled first, step := scaled step, last := scaled last, unit, places
    width := if equalWidth then max firstWidth lastWidth else 0 }

/-- The number at a position of the run, if the run goes so far. -/
def at? (r : NumberRun) (i : Nat) : Option Int :=
  let x := r.first + r.step * i
  if (r.step > 0 && x > r.last) || (r.step < 0 && x < r.last) then none else some x

/-- A number of the run as it is written. -/
def text (r : NumberRun) (x : Int) : List Char :=
  let digits := Decimal.fixedPoint r.places false x.natAbs r.unit
  let sign := if x < 0 then ['-'] else []
  sign ++ List.replicate (r.width - sign.length - digits.length) '0' ++ digits

/-- The numbers from a position on, `count` of them at most. -/
def slice (r : NumberRun) (i : Nat) : Nat → List Int
  | 0 => []
  | count + 1 =>
    match r.at? i with
    | some x => x :: r.slice (i + 1) count
    | none => []

/-- A number of the run as a format shows it. -/
def formatted (r : NumberRun) (template : Option String) (x : Int) : String :=
  let text := String.ofList (r.text x)
  match template with
  | none => text
  | some template =>
    let p := Format.apply formatDialect (Bytewise.encode template) [text]
    Bytewise.decode p.written

/-- How many numbers are written at once. -/
def stretch : Nat := 512

/-- Writes the numbers from a position on with a separator between them and a newline at the end. -/
def write (name : String) (r : NumberRun) (template : Option String) (separator : String)
    (i : Nat) : Nat → Step Nat
  | 0 => .done 0
  | rounds + 1 => do
    let numbers := r.slice i stretch
    let next := i + numbers.length
    let isEnd := (r.at? next).isNone
    if numbers.isEmpty then return 0
    else
      let body := separator.intercalate (numbers.map (r.formatted template))
      match ← writeBytes Fd.stdout (Text.bytes (body ++ if isEnd then "\n" else separator)) with
      | .error e => fail name "write error" e.text
      | .ok _ => if isEnd then return 0 else write name r template separator next rounds

end NumberRun

/-- What is wrong with a format for numbers. -/
def numberFormatFault? (template : String) : Option String :=
  let quoted := "format " ++ cite template
  -- the part behind the first conversion that is not a percent sign itself
  let rec find (cs : List Char) : Option (List Char) :=
    match cs with
    | '%' :: '%' :: rest => find rest
    | '%' :: rest => some rest
    | _ :: rest => find rest
    | [] => none
  match find template.toList with
  | none => some (quoted ++ " has no % directive")
  | some rest =>
    let rest := rest.dropWhile fun c => "-+#0 '".contains c
    let rest := rest.dropWhile Char.isDigit
    let rest := match rest with
      | '.' :: more => more.dropWhile Char.isDigit
      | rest => rest
    match rest.dropWhile (· == 'L') with
    | [] => some (quoted ++ " ends in %")
    | letter :: after =>
      if !"efgEFG".contains letter then
        some (quoted ++ " has unknown %" ++ letter.toString ++ " directive")
      else if (find after).isSome then some (quoted ++ " has too many % directives")
      else none

/-- The words of `seq` with a mark in front of a negative number, at which its options end. -/
def markNumbers : List String → List String
  | [] => []
  | "--" :: rest => "--" :: rest
  | "-s" :: value :: rest => "-s" :: value :: markNumbers rest
  | "-f" :: value :: rest => "-f" :: value :: markNumbers rest
  | word :: rest =>
    match word.toList with
    | '-' :: c :: _ =>
      if c.isDigit || c == '.' then "--" :: word :: rest else word :: markNumbers rest
    | _ => word :: rest

/-- Writes a run of numbers. -/
def seq : Program := fun argv _ =>
  let name := argv.headD ""
  let known : OptionSet :=
    { flags := "w", valued := "sf", leading := true
      long := [("separator", 's'), ("equal-width", 'w'), ("format", 'f')] }
  withOptions name known (name :: markNumbers (argv.drop 1)) 1 fun o =>
    let one : Stride := ⟨1, 1, 0, 1⟩
    let read (words : List String) : Except String (List Stride) :=
      words.mapM fun w =>
        match Stride.ofText? w with
        | some s => .ok s
        | none => .error ("invalid floating point argument: " ++ cite w)
    let write (first step last : Stride) : Step Nat :=
      (NumberRun.ofStrides first step last (o.has 'w')).write name (o.value? 'f')
        ((o.value? 's').getD "\n") 0 patience
    match (o.value? 'f').bind numberFormatFault?, o.operands with
    | some reason, _ => do
      complain (name ++ ": " ++ reason ++ "\n")
      return 1
    | none, [] => misuse name "missing operand" 1
    | none, _ :: _ :: _ :: extra :: _ => misuse name ("extra operand " ++ cite extra) 1
    | none, operands =>
      if o.has 'f' && o.has 'w' then
        misuse name "format string may not be specified when printing equal width strings" 1
      else
        match read operands with
        | .error reason => misuse name reason 1
        | .ok strides =>
          match strides with
          | [last] => write one one last
          | [first, last] => write first one last
          | [first, step, last] =>
            if step.value = 0 then
              misuse name ("invalid Zero increment value: " ++ cite (operands.getD 1 "")) 1
            else write first step last
          | _ => return 0

end Program

end CommandShell
