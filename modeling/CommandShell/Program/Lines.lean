import CommandShell.Program.Basic

/-!
# Rearranging lines

The filters that turn lines around, number them and cut parts out of them: `rev`, `tac`, `nl` and
`cut`. A `Selection` is a list of positions such as `1,3-5`.
-/

namespace CommandShell

namespace Program

/-! ## Turning around -/

/-- Writes each line backwards. -/
def rev : Program := fun argv _ =>
  withOptions "rev" { flags := "" } argv 1 fun o => do
    let (text, code) ← eachFile o.files ByteArray.empty 0
      (fun path e => fail "rev" ("cannot open " ++ path) e.text)
      fun _ bytes text => .done (text ++ bytes)
    let turned (text : ByteArray) : ByteArray :=
      let (lines, ended) := splitLines text
      let turned := joinLines (lines.map fun l => ⟨l.data.reverse⟩)
      if ended then turned else turned.extract 0 (turned.size - 1)
    finish "rev" (turned text) code

/-- Writes the lines from the last to the first. -/
def tac : Program := fun argv _ =>
  let name := argv.headD ""
  withOptions name { flags := "" } argv 1 fun o => do
    let (text, code) ← eachFile o.files ByteArray.empty 0
      (fun path e =>
        if e = .EISDIR || e = .EBADF then fail name (quote path) ("read error: " ++ e.text)
        else fail name ("failed to open " ++ quoteAlways path ++ " for reading") e.text)
      fun _ bytes text =>
        let (lines, ended) := splitLines bytes
        .done <| text ++
          match lines.reverse with
          | last :: rest => (if ended then last.push 10 else last) ++ joinLines rest
          | [] => .empty
    finish name text code

/-! ## Numbering -/

/-- How `nl` writes numbers. -/
structure Numbering where
  /-- Empty lines are numbered too. -/
  all : Bool
  none : Bool
  width : Nat
  separator : String
  first : Int
  step : Int
  style : String

namespace Numbering

/-- The numbering that options ask for. -/
def ofOptions (o : Options) : Numbering where
  all := o.value? 'b' == some "a"
  none := o.value? 'b' == some "n"
  width := ((o.value? 'w').bind (·.toNat?)).getD 6
  separator := (o.value? 's').getD "\t"
  first := ((o.value? 'v').bind (·.toInt?)).getD 1
  step := ((o.value? 'i').bind (·.toInt?)).getD 1
  style := (o.value? 'n').getD "rn"

/-- A number as it stands in front of its line. -/
def label (n : Numbering) (number : Int) : String :=
  let digits := (toString number).toList
  let fill (c : Char) := List.replicate (n.width - digits.length) c
  String.ofList (match n.style with
    | "ln" => digits ++ fill ' '
    | "rz" => fill '0' ++ digits
    | _ => fill ' ' ++ digits)

/-- A line with its number in front, and the number of the next line. -/
def line (n : Numbering) (number : Int) (line : ByteArray) : Int × ByteArray :=
  if n.none || (line.isEmpty && !n.all) then
    let blank := String.ofList (List.replicate (n.width + Text.size n.separator) ' ')
    (number, (blank.toUTF8 ++ line).push 10)
  else (number + n.step, (Text.bytes (n.label number ++ n.separator) ++ line).push 10)

end Numbering

/-- Numbers the lines that are not empty. -/
def nl : Program := fun argv _ =>
  let name := argv.headD ""
  withOptions name { flags := "p", valued := "bhfvisnwdl" } argv 1 fun o =>
    let n := Numbering.ofOptions o
    filter name o.files n.first n.line fun _ => .empty

/-! ## Cutting -/

/-- Positions from one to another, or to the end. -/
structure Range where
  first : Nat
  last : Option Nat

/-- Positions of a line. -/
abbrev Selection := List Range

/-- What is wrong with a list of positions. -/
inductive SelectionError
  | zero
  | endless
  | decreasing
  | twoHyphens
  | unreadable (rest : String)

/-- The wording of a wrong list of positions. -/
def SelectionError.message (ofFields : Bool) : SelectionError → String
  | .zero =>
    (if ofFields then "fields" else "byte/character positions") ++ " are numbered from 1"
  | .endless => "invalid range with no endpoint: -"
  | .decreasing => "invalid decreasing range"
  | .twoHyphens => if ofFields then "invalid field range" else "invalid byte or character range"
  | .unreadable rest =>
    (if ofFields then "invalid field value " else "invalid byte/character position ") ++
      cite rest

/-- Reads one item of a list of positions, up to what ends it. -/
def readRange (cs : List Char) : Except SelectionError (Range × List Char) := do
  let number (cs : List Char) : Option Nat × List Char :=
    let digits := cs.takeWhile Char.isDigit
    ((String.ofList digits).toNat?, cs.drop digits.length)
  let isEnd (cs : List Char) : Bool :=
    match cs with
    | [] => true
    | c :: _ => c == ',' || c == ' ' || c == '\t'
  let (low, rest) := number cs
  match rest with
  | '-' :: rest =>
    if low = some 0 then .error .zero
    else
      let (high, rest) := number rest
      if rest.head? = some '-' then .error .twoHyphens
      else if !isEnd rest then .error (.unreadable (String.ofList rest))
      else
        match low, high with
        | none, none => .error .endless
        | _, some high =>
          let first := low.getD 1
          if high < first then .error .decreasing else return (⟨first, some high⟩, rest)
        | _, none => return (⟨low.getD 1, none⟩, rest)
  | rest =>
    if !isEnd rest then .error (.unreadable (String.ofList rest))
    else
      match low with
      | none | some 0 => .error .zero
      | some n => return (⟨n, some n⟩, rest)

/-- Reads a list of positions. The count bounds the number of items. -/
def readSelection (cs : List Char) : Nat → Except SelectionError Selection
  | 0 => .ok []
  | count + 1 => do
    let (range, rest) ← readRange cs
    match rest with
    | [] => return [range]
    | _ :: rest => return range :: (← readSelection rest count)

namespace Selection

/-- A position is among those selected. -/
def has (s : Selection) (n : Nat) : Bool :=
  s.any fun r => r.first ≤ n && r.last.all (n ≤ ·)

/-- The items at the selected positions. -/
def pick {α : Type} (s : Selection) (items : List α) : List α :=
  ((items.zipIdx 1).filter fun (_, i) => s.has i).map (·.1)

end Selection

/-- The parts of bytes between separators. -/
def splitAtByte (separator : UInt8) : List UInt8 → List (List UInt8)
  | [] => [[]]
  | b :: rest =>
    if b = separator then [] :: splitAtByte separator rest
    else
      match splitAtByte separator rest with
      | part :: parts => (b :: part) :: parts
      | [] => [[b]]

/-- Cuts fields or characters out of each line. -/
def cut : Program := fun argv _ =>
  let name := argv.headD ""
  let known : OptionSet :=
    { flags := "sn", valued := "dfcb"
      long := [("bytes", 'b'), ("characters", 'c'), ("fields", 'f'), ("delimiter", 'd'),
        ("only-delimited", 's')] }
  withOptions name known argv 1 fun o =>
    let lists := o.given.filter fun g => g.1 == 'f' || g.1 == 'c' || g.1 == 'b'
    let delimiter := ((o.value? 'd').map fun d => (Text.bytes d).toList).getD [9]
    match lists with
    | [] => misuse name "you must specify a list of bytes, characters, or fields" 1
    | _ :: _ :: _ => misuse name "only one list may be specified" 1
    | [(kind, list)] =>
      let ofFields := kind == 'f'
      if delimiter.length > 1 then misuse name "the delimiter must be a single character" 1
      else if !ofFields && o.has 'd' then
        misuse name "an input delimiter may be specified only when operating on fields" 1
      else if !ofFields && o.has 's' then
        misuse name
          "suppressing non-delimited lines makes sense\n\tonly when operating on fields" 1
      else
        match readSelection list.toList (list.length + 1) with
        | .error e => misuse name (e.message ofFields) 1
        | .ok s =>
          let separator := delimiter.headD 0
          let fields (line : ByteArray) : Option ByteArray :=
            match splitAtByte separator line.toList with
            | [_] => if o.has 's' then none else some line
            | parts => some ⟨((s.pick parts).intersperse [separator]).flatten.toArray⟩
          let bytes (line : ByteArray) : Option ByteArray := some ⟨(s.pick line.toList).toArray⟩
          let kept (line : ByteArray) : ByteArray :=
            ((if ofFields then fields line else bytes line).map (·.push 10)).getD .empty
          filter name o.files () (fun _ line => ((), kept line)) fun _ => .empty

end Program

end CommandShell
