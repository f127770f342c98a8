import CommandShell.Decimal.Notation
import CommandShell.Text.Bytewise
import CommandShell.Text.Numeral

/-!
# Formats

Texts with gaps that arguments fill, and the sequences after a backslash that stand for characters
without a sign of their own. A format is used again until there are no arguments left; what it asks
for and does not get is nothing, or zero. The programs that follow formats agree on the conversions
but for details, which a `Format.Dialect` has.

All text is `Bytewise`.
-/

namespace CommandShell

namespace Format

open Decimal (Quantity)

/-! ## Sequences after a backslash -/

/-- The character that a letter after a backslash stands for. -/
def escaped? : Char → Option Char
  | 'a' => some '\x07'
  | 'b' => some '\x08'
  | 'e' => some '\x1b'
  | 'f' => some '\x0c'
  | 'n' => some '\n'
  | 'r' => some '\r'
  | 't' => some '\t'
  | 'v' => some '\x0b'
  | '\\' => some '\\'
  | _ => none

/-- A digit of octal notation. -/
def isOctal (c : Char) : Bool :=
  '0' ≤ c && c ≤ '7'

/-- The value of the digits in front, at most `count`, and what follows them. -/
def readDigitsUpTo (base value count : Nat) (cs : List Char) : Nat × List Char :=
  match count, cs with
  | count + 1, c :: rest =>
    match Numeral.digitValue? c with
    | some d => if d < base then readDigitsUpTo base (value * base + d) count rest else (value, cs)
    | none => (value, cs)
  | _, _ => (value, cs)

/-- The character of three octal digits at most, and what follows them. -/
def readOctal (cs : List Char) : Char × List Char :=
  let (value, rest) := readDigitsUpTo 8 0 3 cs
  (Char.ofNat (value % 256), rest)

/-- Why a text ends before its end. -/
inductive Stop
  /-- There is to be no more output. -/
  | cut
  /-- The text cannot be followed any further. -/
  | broken (reason : String)

/-- Reads what stands after a backslash: the text it stands for, and what follows. -/
abbrev Sequences := List Char → Except Stop (List Char × List Char)

/-- A text with its sequences carried out, and why it ends early if it does. -/
def unescape (sequences : Sequences) (done : List Char) (cs : List Char) :
    Nat → List Char × Option Stop
  | 0 => (done.reverse, none)
  | fuel + 1 =>
    match cs with
    | [] => (done.reverse, none)
    | '\\' :: rest =>
      match sequences rest with
      | .ok (text, rest) => unescape sequences (text.reverse ++ done) rest fuel
      | .error stop => (done.reverse, some stop)
    | c :: rest => unescape sequences (c :: done) rest fuel

/-! ## Conversions -/

/-- One conversion of a format. -/
structure Conversion where
  leftAligned : Bool := false
  zeroPadded : Bool := false
  signed : Bool := false
  spaced : Bool := false
  alternate : Bool := false
  width : Nat := 0
  precision : Option Nat := none
  letter : Char := 's'

namespace Conversion

/-- Fills a text up to the width. -/
def pad (c : Conversion) (text : List Char) : List Char :=
  let filler := List.replicate (c.width - text.length) ' '
  if c.leftAligned then text ++ filler else filler ++ text

/-- Fills a number up to the width, with zeros behind its sign if that is wanted. -/
def padZeros (c : Conversion) (wanted : Bool) (sign digits : List Char) : List Char :=
  if c.zeroPadded && !c.leftAligned && wanted then
    sign ++ List.replicate (c.width - sign.length - digits.length) '0' ++ digits
  else c.pad (sign ++ digits)

/-- The sign of a number that is written with one. -/
def signOf (c : Conversion) (negative : Bool) : List Char :=
  if negative then ['-'] else if c.signed then ['+'] else if c.spaced then [' '] else []

/-- A whole number with as many digits as the precision asks for. -/
def padNumber (c : Conversion) (sign digits : List Char) : List Char :=
  let digits := match c.precision with
    | some 0 => if digits = ['0'] then [] else digits
    | some p => List.replicate (p - digits.length) '0' ++ digits
    | none => digits
  c.padZeros c.precision.isNone sign digits

/-- A whole number in the notation of the conversion. -/
def number (c : Conversion) (n : Int) : List Char :=
  let word := (n % 0x10000000000000000).toNat
  match c.letter with
  | 'o' =>
    let digits := Nat.toDigits 8 word
    c.padNumber [] (if c.alternate && digits.head? ≠ some '0' then '0' :: digits else digits)
  | 'x' => c.padNumber (if c.alternate && word ≠ 0 then ['0', 'x'] else []) (Nat.toDigits 16 word)
  | 'X' =>
    c.padNumber (if c.alternate && word ≠ 0 then ['0', 'X'] else [])
      ((Nat.toDigits 16 word).map Char.toUpper)
  | 'u' => c.padNumber [] (Nat.toDigits 10 word)
  | _ => c.padNumber (c.signOf (n < 0)) (Nat.toDigits 10 n.natAbs)

/-- A number with a fraction in the notation of the conversion. -/
def quantity (c : Conversion) (q : Quantity) : List Char :=
  let places := c.precision.getD 6
  let (negative, body, isFinite) := match q with
    | .ratio negative n d =>
      let body :=
        match c.letter.toLower with
        | 'f' => Decimal.fixedPoint places c.alternate n d
        | 'e' => Decimal.scientific places c.alternate n d
        | _ => Decimal.general places c.alternate n d
      (negative, body, true)
    | .infinite negative => (negative, "inf".toList, false)
    | .undefined negative => (negative, "nan".toList, false)
  let body := if c.letter.isUpper then body.map Char.toUpper else body
  c.padZeros isFinite (c.signOf negative) body

end Conversion

/-! ## Following a format -/

/-- What the programs that follow formats do not agree on. -/
structure Dialect where
  /-- The sequences in a format. -/
  sequences : Sequences
  /-- The sequences in an argument that may have some. -/
  argumentSequences : Sequences
  /-- Signs in front of a conversion that change nothing. -/
  idleSigns : String := ""
  /-- Letters for the size of a number, which change nothing. -/
  sizes : String := ""
  /-- How an argument is put in quotes, if that can be asked for. -/
  quote? : Option (String → String) := none
  /-- A text that may have sequences is filled up to a width. -/
  padsSequences : Bool
  /-- An empty argument is a way to write zero. -/
  emptyIsZero : Bool
  /-- How many binary digits a number with a fraction keeps. -/
  precision : Nat
  notNumeric : String → String
  notConverted : String → String
  outOfRange : String → String
  badConversion : String → String
  noConversion : String → String

/-- What has come of a format so far. -/
structure Printed where
  /-- What is to be written, backwards. -/
  text : List Char := []
  arguments : List String
  /-- What is wrong with the arguments, the last one first. -/
  complaints : List String := []
  stop : Option Stop := none

/-- A part of the work of following a format. -/
abbrev Printing := StateM Printed

namespace Printing

/-- Adds characters to the output. -/
def add (cs : List Char) : Printing Unit :=
  modify fun p => { p with text := cs.reverse ++ p.text }

/-- Puts an end to the output. -/
def stopFor (stop : Option Stop) : Printing Unit :=
  modify fun p => { p with stop := p.stop.or stop }

/-- Keeps in mind what is wrong with an argument. -/
def complain (reason : String) : Printing Unit :=
  modify fun p => { p with complaints := reason :: p.complaints }

/-- The next argument. -/
def next? : Printing (Option String) :=
  modifyGet fun p => (p.arguments.head?, { p with arguments := p.arguments.drop 1 })

/-- The next argument, nothing if there is none. -/
def next : Printing String :=
  return (← next?).getD ""

/-- The next argument as a number, which `read?` reads and which has to be among those that `fits`
allows. A character after a quote stands for its code. -/
def nextOf {α : Type} (d : Dialect) (zero : α) (ofNat : Nat → α)
    (read? : List Char → Option (α × List Char)) (fits : α → Bool) : Printing α := do
  match ← next? with
  | none => return zero
  | some text =>
    match text.toList with
    | '\'' :: c :: _ | '"' :: c :: _ => return ofNat c.toNat
    | cs =>
      match read? cs with
      | none =>
        if !(text.isEmpty && d.emptyIsZero) then complain (d.notNumeric text)
        return zero
      | some (n, rest) =>
        if !rest.isEmpty then complain (d.notConverted text)
        else if !fits n then complain (d.outOfRange text)
        return n

/-- The next argument as a whole number, cut to the size of a word. -/
def nextNumber (d : Dialect) (isUnsigned : Bool) : Printing Int := do
  let high : Int := if isUnsigned then 0xffffffffffffffff else Numeral.greatest
  let low : Int := if isUnsigned then -0xffffffffffffffff else Numeral.least
  let n ← nextOf d 0 (fun n => (n : Int)) Numeral.readSigned? fun n => low ≤ n && n ≤ high
  return if isUnsigned && n < low then high else max low (min n high)

/-- The next argument as a number with a fraction. -/
def nextQuantity (d : Dialect) : Printing Quantity := do
  let q ← nextOf d (.ratio false 0 1) (fun n => .ratio false n 1) Quantity.read? fun _ => true
  return q.rounded d.precision

/-- A width or a precision, which a star takes from the arguments. -/
def readSize (d : Dialect) (cs : List Char) : Printing (Option Int × List Char) :=
  match cs with
  | '*' :: rest => do return (some (← nextNumber d false), rest)
  | cs =>
    let digits := cs.takeWhile Char.isDigit
    if digits.isEmpty then return (none, cs)
    else return (some ((Numeral.readDigits 10 0 digits).1 : Int), cs.drop digits.length)

/-- Reads the signs in front of a conversion. -/
def readSigns (d : Dialect) (c : Conversion) : List Char → Conversion × List Char
  | '-' :: rest => readSigns d { c with leftAligned := true } rest
  | '0' :: rest => readSigns d { c with zeroPadded := true } rest
  | '+' :: rest => readSigns d { c with signed := true } rest
  | ' ' :: rest => readSigns d { c with spaced := true } rest
  | '#' :: rest => readSigns d { c with alternate := true } rest
  | sign :: rest => if d.idleSigns.contains sign then readSigns d c rest else (c, sign :: rest)
  | [] => (c, [])

/-- Carries out a conversion, `written` as it is. -/
def convert (d : Dialect) (c : Conversion) (written : String) : Printing Unit := do
  match c.letter with
  | 'b' =>
    let text := (← next).toList
    let (cs, stop) := unescape d.argumentSequences [] text (text.length + 1)
    add (if d.padsSequences then c.pad (cs.take (c.precision.getD cs.length)) else cs)
    stopFor stop
  | 's' =>
    let cs := (← next).toList
    add (c.pad (cs.take (c.precision.getD cs.length)))
  | 'c' => add (c.pad [(← next).toList.headD '\x00'])
  | 'd' | 'i' => add (c.number (← nextNumber d false))
  | 'o' | 'u' | 'x' | 'X' => add (c.number (← nextNumber d true))
  | 'e' | 'E' | 'f' | 'F' | 'g' | 'G' => add (c.quantity (← nextQuantity d))
  | 'q' =>
    match d.quote? with
    | some quote => add (quote (← next)).toList
    | none => stopFor (some (.broken (d.badConversion written)))
  | _ => stopFor (some (.broken (d.badConversion written)))

/-- Follows a format. -/
def follow (d : Dialect) (cs : List Char) : Nat → Printing Unit
  | 0 => return
  | fuel + 1 => do
    if (← get).stop.isSome then return
    match cs with
    | [] => return
    | '\\' :: rest =>
      match d.sequences rest with
      | .ok (text, rest) =>
        add text
        follow d rest fuel
      | .error stop => stopFor (some stop)
    | '%' :: '%' :: rest =>
      add ['%']
      follow d rest fuel
    | '%' :: rest =>
      let (c, after) := readSigns d {} rest
      let (width, after) ← readSize d after
      let c := match width with
        | some w => { c with width := w.natAbs, leftAligned := c.leftAligned || w < 0 }
        | none => c
      let (precision, after) ← match after with
        | '.' :: after => do
          let (p, after) ← readSize d after
          pure (some (p.getD 0), after)
        | after => pure (none, after)
      let c := { c with precision := precision.bind fun p => if p < 0 then none else some p.toNat }
      match after.dropWhile fun c => d.sizes.contains c with
      | [] => stopFor (some (.broken (d.noConversion (String.ofList ('%' :: rest)))))
      | letter :: after =>
        let written := rest.take (rest.length - after.length)
        convert d { c with letter } (String.ofList ('%' :: written))
        follow d after fuel
    | c :: rest =>
      add [c]
      follow d rest fuel

/-- Follows a format as often as there are arguments for it. -/
def repeated (d : Dialect) (template : List Char) : Nat → Printing Unit
  | 0 => return
  | rounds + 1 => do
    let before := (← get).arguments.length
    follow d template (template.length + 1)
    let p ← get
    if p.stop.isNone && !p.arguments.isEmpty && p.arguments.length < before then
      repeated d template rounds

end Printing

/-- What comes of a format and arguments. -/
def apply (d : Dialect) (template : String) (arguments : List String) : Printed :=
  ((Printing.repeated d template.toList (arguments.length + 1)).run { arguments }).2

/-- The text that has come of a format. -/
def Printed.written (p : Printed) : String :=
  String.ofList p.text.reverse

end Format

end CommandShell
