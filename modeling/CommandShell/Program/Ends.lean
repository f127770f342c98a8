import CommandShell.Program.Basic

/-!
# The beginning and the end of a text

`head` and `tail`. An `Amount` says how much of a text is wanted; what is there of it is taken from
the beginning by `Amount.first` and from the end by `Amount.last`.
-/

namespace CommandShell

namespace Program

/-- The part of a text up to and with its line number `n`; fewer lines if there are no more. -/
def takeLines (n : Nat) (text : ByteArray) : ByteArray :=
  let rec go (i n : Nat) : Nat → Nat
    | 0 => i
    | fuel + 1 =>
      if n = 0 || i ≥ text.size then i
      else go (i + 1) (if text.get! i = 10 then n - 1 else n) fuel
  text.extract 0 (go 0 n text.size)

/-- How many lines end in a text. -/
def endsOfLines (text : ByteArray) : Nat :=
  text.foldl (fun n b => if b = 10 then n + 1 else n) 0

/-- How many lines a text has, counting one without an end. -/
def lineCount (text : ByteArray) : Nat :=
  let ends := endsOfLines text
  if text.isEmpty || text.get! (text.size - 1) = 10 then ends else ends + 1

/-- How much of a text is wanted. -/
inductive Amount
  | lines (count : Nat)
  | bytes (count : Nat)

namespace Amount

/-- Nothing is wanted. -/
def isZero : Amount → Bool
  | .lines n | .bytes n => n == 0

/-- What is still wanted after some text. -/
def less (a : Amount) (text : ByteArray) : Amount :=
  match a with
  | .bytes n => .bytes (n - text.size)
  | .lines n => .lines (n - endsOfLines text)

/-- How many bytes can be read without reading too much, as far as that is known. -/
def readSize : Amount → Nat
  | .bytes n => min n 8192
  | .lines _ => 8192

/-- One line or byte less. -/
def pred : Amount → Amount
  | .lines n => .lines (n - 1)
  | .bytes n => .bytes (n - 1)

/-- The amount from the beginning of a text. -/
def first (a : Amount) (text : ByteArray) : ByteArray :=
  match a with
  | .bytes n => text.extract 0 n
  | .lines n => takeLines n text

/-- The amount from the end of a text. -/
def last (a : Amount) (text : ByteArray) : ByteArray :=
  match a with
  | .bytes n => text.extract (text.size - n) text.size
  | .lines n => text.extract (takeLines (lineCount text - n) text).size text.size

end Amount

/-! ## Reading amounts -/

/-- What a letter after a number multiplies it by. -/
def multiplier? : String → Option Nat
  | "" => some 1
  | "b" => some 512
  | "kB" => some 1000
  | "k" | "K" | "KiB" => some 1024
  | "MB" => some 1000000
  | "m" | "M" | "MiB" => some 0x100000
  | "GB" => some 1000000000
  | "G" | "GiB" => some 0x40000000
  | _ => none

/-- A number with a letter that multiplies it. -/
def size? (text : String) : Option Nat :=
  let cs := match text.toList with
    | '+' :: rest => rest
    | cs => cs
  let digits := cs.takeWhile Char.isDigit
  if digits.isEmpty then none
  else do
    let factor ← multiplier? (String.ofList (cs.drop digits.length))
    return (← (String.ofList digits).toNat?) * factor

/-- An amount with the sign that was written in front of it. -/
structure SignedAmount where
  sign : Option Char := none
  amount : Amount := .lines 10

/-- The amount that an option asks for. The error is its wording. -/
def amountOf (o : Options) (signs : String) : Except String SignedAmount :=
  let read (kind : String) (make : Nat → Amount) (text : String) : Except String SignedAmount :=
    let sign := text.toList.head?.filter fun c => signs.contains c
    match size? (if sign.isSome then (text.drop 1).toString else text) with
    | some n => .ok ⟨sign, make n⟩
    | none =>
      let shown := if sign = some '-' then (text.drop 1).toString else text
      .error ("invalid number of " ++ kind ++ ": " ++ cite shown)
  match o.lastOf? "cn" with
  | some 'c' => read "bytes" .bytes ((o.value? 'c').getD "")
  | some _ => read "lines" .lines ((o.value? 'n').getD "")
  | none => .ok {}

/-- The words of `head`. An amount in the old notation at their beginning is put into the new
one. -/
def headWords : List String → List String
  | word :: rest =>
    match word.toList with
    | '-' :: c :: cs =>
      if c.isDigit then
        let digits := (c :: cs).takeWhile Char.isDigit
        let letters := (c :: cs).drop digits.length
        let option := if letters.contains 'c' then "-c" else "-n"
        let others := letters.filter fun l => l ≠ 'c' && l ≠ 'l'
        option :: String.ofList digits ::
          (if others.isEmpty then rest else String.ofList ('-' :: others) :: rest)
      else word :: rest
    | _ => word :: rest
  | [] => []

/-- The words of `tail`. An amount in the old notation at their beginning is put into the new one.
It can stand there with at most one file. -/
def tailWords (words : List String) : List String :=
  match words with
  | word :: rest =>
    let fewOthers := match rest with
      | [] => true
      | [file] => !file.startsWith "-" || file = "-"
      | ["--", _] => true
      | _ => false
    match word.toList with
    | sign :: cs =>
      let digits := cs.takeWhile Char.isDigit
      let letters := cs.drop digits.length
      let isAmount := letters = [] || letters = ['c'] || letters = ['l']
      let isOld := (sign == '+' || (sign == '-' && cs ≠ [] && cs ≠ ['c'])) && isAmount
      if fewOthers && isOld then
        let count := if digits.isEmpty then ['1', '0'] else digits
        let sign := if sign == '+' then ['+'] else []
        (if letters = ['c'] then "-c" else "-n") :: String.ofList (sign ++ count) :: rest
      else words
    | [] => words
  | [] => []

/-! ## Going through files -/

/-- A file as these programs call it. -/
def fileTitle (path : String) : String :=
  if path = "-" then "standard input" else path

/-- The line above a file among others. -/
def fileHeader (path : String) (isFirst : Bool) : ByteArray :=
  Text.bytes ((if isFirst then "" else "\n") ++ "==> " ++ fileTitle path ++ " <==\n")

/-- How reading a part of a file has ended. -/
inductive PartOutcome
  | done
  | unreadable (e : Errno)
  | unwritable (e : Errno)

/-- Goes through files and writes a part of each. -/
def eachPart (name : String) (headers isFirst : Bool) (code : Nat)
    (write : Fd → Step PartOutcome) : List String → Step Nat
  | [] => .done code
  | path :: rest => do
    let opened ← if path = "-" then .done (.ok Fd.stdin) else call (.openFile path .read false)
    match opened with
    | .error e =>
      complain (name ++ ": cannot open " ++ quoteAlways (fileTitle path) ++ " for reading: " ++
        e.text ++ "\n")
      eachPart name headers isFirst 1 write rest
    | .ok fd =>
      let failed (e : Errno) : Step Nat := fail name "error writing 'standard output'" e.text
      match ← writeBytes Fd.stdout (if headers then fileHeader path isFirst else .empty) with
      | .error e => failed e
      | .ok _ =>
        let outcome ← write fd
        if path ≠ "-" then
          let _ ← call (.close fd)
        match outcome with
        | .done => eachPart name headers false code write rest
        | .unwritable e => failed e
        | .unreadable e =>
          complain (name ++ ": error reading " ++ quoteAlways (fileTitle path) ++ ": " ++ e.text ++
            "\n")
          eachPart name headers false 1 write rest

/-- Writes an amount from the beginning of a descriptor. What has been read beyond it is left to be
read again if that is possible. -/
def writeFirst (fd : Fd) (a : Amount) : Nat → Step PartOutcome
  | 0 => .done .done
  | n + 1 => do
    if a.isZero then return .done
    else
      match ← call (.read fd a.readSize) with
      | .error e => return .unreadable e
      | .ok bytes =>
        if bytes.isEmpty then return .done
        else
          let wanted := a.first bytes
          if wanted.size < bytes.size then
            if let .ok position := ← call (.tell fd) then
              let _ ← call (.seek fd (position - (bytes.size - wanted.size)))
          match ← writeBytes Fd.stdout wanted with
          | .error e => return .unwritable e
          | .ok _ =>
            if wanted.size < bytes.size then return .done else writeFirst fd (a.less bytes) n

/-- Writes what a function picks out of all that a descriptor has. -/
def writePicked (fd : Fd) (pick : ByteArray → ByteArray) : Step PartOutcome := do
  match ← readToEnd fd .empty patience with
  | .error e => return .unreadable e
  | .ok text =>
    match ← writeBytes Fd.stdout (pick text) with
    | .error e => return .unwritable e
    | .ok _ => return .done

/-- The options of both programs. -/
def partOptions : OptionSet :=
  { flags := "qv0123456789", valued := "nc"
    long := [("lines", 'n'), ("bytes", 'c'), ("quiet", 'q'), ("silent", 'q'), ("verbose", 'v')] }

/-- The files have headers. -/
def hasHeaders (o : Options) : Bool :=
  o.lastOf? "qv" == some 'v' || (o.files.length > 1 && o.lastOf? "qv" ≠ some 'q')

/-- Writes the beginning of files. -/
def head : Program := fun argv _ =>
  let name := argv.headD ""
  withOptions name partOptions (name :: headWords (argv.drop 1)) 1 fun o =>
    match o.given.find? fun g => g.1.isDigit with
    | some (digit, _) => misuse name ("invalid trailing option -- " ++ digit.toString) 1
    | none =>
      match amountOf o "-" with
      | .error reason => do
        complain (name ++ ": " ++ reason ++ "\n")
        return 1
      | .ok s =>
        let write (fd : Fd) : Step PartOutcome :=
          if s.sign.isSome then
            writePicked fd fun text => text.extract 0 (text.size - (s.amount.last text).size)
          else writeFirst fd s.amount patience
        eachPart name (hasHeaders o) true 0 write o.files

/-- Writes the end of files. -/
def tail : Program := fun argv _ =>
  let name := argv.headD ""
  withOptions name partOptions (name :: tailWords (argv.drop 1)) 1 fun o =>
    match o.given.find? fun g => g.1.isDigit with
    | some (digit, _) => do
      complain (name ++ ": option used in invalid context -- " ++ digit.toString ++ "\n")
      return 1
    | none =>
      match amountOf o "-+" with
      | .error reason => do
        complain (name ++ ": " ++ reason ++ "\n")
        return 1
      | .ok s =>
        let pick (text : ByteArray) : ByteArray :=
          if s.sign = some '+' then text.extract (s.amount.pred.first text).size text.size
          else s.amount.last text
        eachPart name (hasHeaders o) true 0 (writePicked · pick) o.files

end Program

end CommandShell
