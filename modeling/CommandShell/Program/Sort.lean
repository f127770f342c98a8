import CommandShell.Program.Basic

/-!
# Sorting

`sort`. Lines are compared by keys, which are stretches of them, each in an order of its own; lines
that all keys take for equal are compared as a whole unless that is not wanted. `uniq`, which joins
equal neighbours, is here as well.
-/

namespace CommandShell

namespace Program

/-- The bytes of a line. -/
abbrev Line := List UInt8

/-- The order of bytes. -/
def compareBytes : Line → Line → Ordering
  | [], [] => .eq
  | [], _ :: _ => .lt
  | _ :: _, [] => .gt
  | x :: xs, y :: ys => if x < y then .lt else if y < x then .gt else compareBytes xs ys

/-- A byte between fields. -/
def isBlankByte (b : UInt8) : Bool :=
  b == 32 || b == 9 || b == 10

/-- A decimal digit. -/
def isDigitByte (b : UInt8) : Bool :=
  48 ≤ b && b ≤ 57

/-- A byte as a character. -/
def charOf (b : UInt8) : Char :=
  Char.ofNat b.toNat

/-! ## Orders -/

/-- How keys are compared. -/
structure LineOrder where
  /-- Blanks in front of a key do not count; neither do those in front of its end. -/
  skipsStart : Bool := false
  skipsEnd : Bool := false
  /-- Only letters, digits and blanks count. -/
  dictionary : Bool := false
  /-- Small letters count as capitals. -/
  folds : Bool := false
  /-- Only bytes that can be shown count. -/
  printing : Bool := false
  numeric : Bool := false
  reversed : Bool := false
  deriving DecidableEq

namespace LineOrder

/-- The order with what a letter adds to it. `atStart` and `atEnd` tell for which end of a key the
letter stands. -/
def with? (r : LineOrder) (atStart atEnd : Bool) : Char → Option LineOrder
  | 'b' => some { r with skipsStart := r.skipsStart || atStart, skipsEnd := r.skipsEnd || atEnd }
  | 'd' => some { r with dictionary := true }
  | 'f' => some { r with folds := true }
  | 'i' => some { r with printing := true }
  | 'n' | 'g' => some { r with numeric := true }
  | 'r' => some { r with reversed := true }
  | _ => none

/-- The order compares keys byte by byte. -/
def isPlain (r : LineOrder) : Bool :=
  { r with reversed := false } = ({} : LineOrder)

/-- The number that a key starts with: whether it is negative, its whole digits without zeros in
front, and its fraction without zeros at the end. -/
def leadingNumber (key : Line) : Bool × Line × Line :=
  let (negative, digits) := match key.dropWhile isBlankByte with
    | 45 :: rest => (true, rest)
    | digits => (false, digits)
  let whole := digits.takeWhile isDigitByte
  let fraction := match digits.drop whole.length with
    | 46 :: rest => rest.takeWhile isDigitByte
    | _ => []
  (negative, whole.dropWhile (· == 48), (fraction.reverse.dropWhile (· == 48)).reverse)

/-- The order of the numbers that keys start with. -/
def compareNumbers (a b : Line) : Ordering :=
  let (an, aw, af) := leadingNumber a
  let (bn, bw, bf) := leadingNumber b
  let sizes := (compare aw.length bw.length).then ((compareBytes aw bw).then (compareBytes af bf))
  let isZero (w f : Line) : Bool := w.isEmpty && f.isEmpty
  match an && !isZero aw af, bn && !isZero bw bf with
  | false, false => sizes
  | true, true => sizes.swap
  | true, false => .lt
  | false, true => .gt

/-- The part of a key that counts. -/
def counting (r : LineOrder) (key : Line) : Line :=
  let kept := key.filter fun b =>
    (!r.dictionary || isBlankByte b || (charOf b).isAlphanum) &&
      (!r.printing || (32 ≤ b && b < 127))
  if r.folds then kept.map fun b => if 97 ≤ b && b ≤ 122 then b - 32 else b else kept

/-- Compares two keys. -/
def compareKeys (r : LineOrder) (a b : Line) : Ordering :=
  let o := if r.numeric then compareNumbers a b else compareBytes (r.counting a) (r.counting b)
  if r.reversed then o.swap else o

end LineOrder

/-! ## Keys -/

/-- A stretch of a line. Fields and characters are counted from zero, and the end is behind the last
of them. -/
structure Key where
  field : Nat := 0
  offset : Nat := 0
  /-- The field that the key ends in, and how many characters of it belong to the key: all for
  zero. -/
  last : Option (Nat × Nat) := none
  order : LineOrder := {}

namespace Key

/-- What is left of a line after one field and what separates it from the next. -/
def skipField (separator : Option UInt8) (line : Line) : Line :=
  match separator with
  | some b => (line.dropWhile (· != b)).drop 1
  | none => (line.dropWhile isBlankByte).dropWhile (!isBlankByte ·)

/-- What is left of a line after one field, but not what separates it from the next. -/
def passField (separator : Option UInt8) (line : Line) : Line :=
  match separator with
  | some b => line.dropWhile (· != b)
  | none => skipField none line

/-- What is left of a line after `n` fields. -/
def skipFields (separator : Option UInt8) (line : Line) : Nat → Line
  | 0 => line
  | n + 1 => skipFields separator (skipField separator line) n

/-- What is left of a line behind the beginning of a key. -/
def fromStart (separator : Option UInt8) (k : Key) (line : Line) : Line :=
  let rest := skipFields separator line k.field
  (if k.order.skipsStart then rest.dropWhile isBlankByte else rest).drop k.offset

/-- What is left of a line behind the end of a key. -/
def fromEnd (separator : Option UInt8) (k : Key) (line : Line) : Line :=
  match k.last with
  | none => []
  | some (field, 0) => passField separator (skipFields separator line field)
  | some (field, count) =>
    let rest := skipFields separator line field
    (if k.order.skipsEnd then rest.dropWhile isBlankByte else rest).drop count

/-- The stretch of a line that a key is. -/
def of (separator : Option UInt8) (k : Key) (line : Line) : Line :=
  let rest := k.fromStart separator line
  rest.take (rest.length - (k.fromEnd separator line).length)

/-- Reads a number at the beginning of a key. -/
def readCount (cs : List Char) : Option (Nat × List Char) :=
  let digits := cs.takeWhile Char.isDigit
  (String.ofList digits).toNat?.map fun n => (n, cs.drop digits.length)

/-- Reads the letters of an order. -/
def readOrder (r : LineOrder) (atStart : Bool) : List Char → LineOrder × List Char
  | [] => (r, [])
  | c :: rest =>
    match r.with? atStart (!atStart) c with
    | some r => readOrder r atStart rest
    | none => (r, c :: rest)

/-- Reads a key such as `2.1,3n`. The error is its wording. -/
def ofText (text : String) : Except String Key := do
  let spoilt (what near : String) : Except String Key :=
    .error (what ++ ": invalid count at start of " ++ cite near)
  let invalid (what : String) : Except String Key :=
    .error (what ++ ": invalid field specification " ++ cite text)
  match readCount text.toList with
  | none => spoilt "invalid number at field start" text
  | some (0, _) => invalid "field number is zero"
  | some (field + 1, rest) =>
    let withOffset : Except String (Nat × List Char) := match rest with
      | '.' :: rest =>
        match readCount rest with
        | none =>
          .error ("invalid number after '.': invalid count at start of " ++
            cite (String.ofList rest))
        | some (0, _) =>
          .error ("character offset is zero: invalid field specification " ++ cite text)
        | some (offset + 1, rest) => .ok (offset, rest)
      | rest => .ok (0, rest)
    let (offset, rest) ← withOffset
    let (order, rest) := readOrder {} true rest
    let key : Key := { field, offset, order }
    match rest with
    | [] => return key
    | ',' :: rest =>
      match readCount rest with
      | none => spoilt "invalid number after ','" (String.ofList rest)
      | some (0, _) => invalid "field number is zero"
      | some (lastField + 1, rest) =>
        let (count, rest) : Nat × List Char := match rest with
          | '.' :: more => (readCount more).getD (0, more)
          | rest => (0, rest)
        let (order, rest) := readOrder order false rest
        if rest.isEmpty then return { key with last := some (lastField, count), order }
        else invalid "stray character in field spec"
    | _ => invalid "stray character in field spec"

end Key

/-! ## Sorting -/

/-- How lines are sorted. -/
structure Sorting where
  separator : Option UInt8 := none
  keys : List Key := []
  /-- Lines that all keys take for equal keep their order. -/
  stable : Bool := false
  /-- Of lines that all keys take for equal one is left. -/
  unique : Bool := false
  /-- The last comparison, of whole lines, is the other way round. -/
  reversed : Bool := false

namespace Sorting

/-- Compares two lines by the keys alone, or as a whole if there are none. -/
def byKeys (s : Sorting) (a b : Line) : Ordering :=
  if s.keys.isEmpty then if s.reversed then compareBytes b a else compareBytes a b
  else
    s.keys.foldl
      (fun o k => o.then (k.order.compareKeys (k.of s.separator a) (k.of s.separator b))) .eq

/-- A line may stand before another. -/
def le (s : Sorting) (a b : Line) : Bool :=
  match s.byKeys a b with
  | .lt => true
  | .gt => false
  | .eq =>
    s.stable || s.unique || (if s.reversed then compareBytes b a else compareBytes a b) != .gt

/-- Removes lines that are equal to the one before. -/
def dropRepeats (s : Sorting) : List Line → List Line
  | a :: b :: rest =>
    if s.byKeys a b = .eq then dropRepeats s (a :: rest) else a :: dropRepeats s (b :: rest)
  | lines => lines
termination_by lines => lines.length

/-- Sorts lines. -/
def sort (s : Sorting) (lines : List Line) : List Line :=
  let sorted := lines.mergeSort s.le
  if s.unique then s.dropRepeats sorted else sorted

/-- The first line that is out of order, with its number. -/
def disorder? (s : Sorting) (number : Nat) : List Line → Option (Nat × Line)
  | a :: b :: rest =>
    let inOrder := if s.unique then s.byKeys a b = .lt else s.le a b
    if inOrder then s.disorder? (number + 1) (b :: rest) else some (number + 1, b)
  | _ => none

/-- What the options ask for. The error is its wording. -/
def ofOptions (o : Options) : Except String Sorting := do
  let order := o.given.foldl (fun (r : LineOrder) g => (r.with? true true g.1).getD r) {}
  let keys ← (o.values 'k').mapM Key.ofText
  let separator : Option UInt8 ← match o.value? 't' with
    | none => .ok none
    | some "\\0" => .ok (some 0)
    | some text =>
      match (Text.bytes text).toList with
      | [] => .error "empty tab"
      | [b] => .ok (some b)
      | _ => .error ("multi-character tab " ++ cite text)
  let keys :=
    if keys.isEmpty then if order.isPlain then [] else [{ order }]
    else keys.map fun k => if k.order = {} then { k with order } else k
  return { separator, keys, stable := o.has 's', unique := o.has 'u', reversed := order.reversed }

end Sorting

/-- Where `sort` puts its lines. -/
def deliver (name : String) (target : Option String) (text : ByteArray) : Step Nat :=
  match target with
  | none => finish name text 0
  | some path => do
    match ← call (.openFile path (.write .truncate 0o666) false) with
    | .error e =>
      complain (name ++ ": open failed: " ++ quote path ++ ": " ++ e.text ++ "\n")
      return 2
    | .ok fd =>
      let _ ← writeBytes fd text
      let _ ← call (.close fd)
      return 0

/-- Sorts lines. -/
def sort : Program := fun argv _ =>
  let name := argv.headD ""
  let known : OptionSet :=
    { flags := "bcCdfgimnrsu", valued := "kot"
      long := [("ignore-leading-blanks", 'b'), ("check", 'c'), ("dictionary-order", 'd'),
        ("ignore-case", 'f'), ("general-numeric-sort", 'g'), ("ignore-nonprinting", 'i'),
        ("key", 'k'),
        ("merge", 'm'), ("numeric-sort", 'n'), ("output", 'o'), ("reverse", 'r'), ("stable", 's'),
        ("field-separator", 't'), ("unique", 'u')] }
  withOptions name known argv 2 fun o =>
    match Sorting.ofOptions o with
    | .error reason => do
      complain (name ++ ": " ++ reason ++ "\n")
      return 2
    | .ok s => do
      let (text, code) ← eachFile o.files ByteArray.empty 0
        (fun path e => do
          let what := if e = .EISDIR || e = .EBADF then "read failed" else "cannot read"
          complain (name ++ ": " ++ what ++ ": " ++ quote path ++ ": " ++ e.text ++ "\n")
          return 2)
        (fun _ bytes text =>
          let whole := bytes.isEmpty || bytes.get! (bytes.size - 1) = 10
          .done (text ++ (if whole then bytes else bytes.push 10)))
      let lines := (splitLines text).1.map (·.toList)
      if code ≠ 0 then return code
      else if o.has 'c' || o.has 'C' then
        match s.disorder? 1 lines with
        | none => return 0
        | some (number, line) =>
          if o.has 'c' then
            let path := o.files.headD "-"
            let place := name ++ ": " ++ path ++ ":" ++ toString number ++ ": disorder: "
            let _ ← call (.write Fd.stderr ((Text.bytes place ++ ⟨line.toArray⟩).push 10))
          return 1
      else deliver name (o.value? 'o') (joinLines ((s.sort lines).map fun l => ⟨l.toArray⟩))

/-! ## Equal neighbours -/

/-- What of a line `uniq` compares: the part behind some fields and some characters, in one case,
and so much of it. -/
def comparedPart (o : Options) (line : ByteArray) : Line :=
  let number (c : Char) : Option Nat := (o.value? c).bind (·.toNat?)
  let rest := Key.skipFields none line.toList ((number 'f').getD 0)
  let rest := rest.drop ((number 's').getD 0)
  let rest := match number 'w' with
    | some n => rest.take n
    | none => rest
  if o.has 'i' then rest.map fun b => if 97 ≤ b && b ≤ 122 then b - 32 else b else rest

/-- A run of equal lines: how many there are, and the first of them. -/
abbrev Repeat := Option (Nat × ByteArray)

/-- What `uniq` writes for a run of lines. -/
def Repeat.text (o : Options) : Repeat → ByteArray
  | none => .empty
  | some (n, line) =>
    if (o.has 'd' && n = 1) || (o.has 'u' && n > 1) then .empty
    else if o.has 'c' then
      let count := toString n
      let blanks := String.ofList (List.replicate (7 - count.length) ' ')
      ((blanks ++ count ++ " ").toUTF8 ++ line).push 10
    else line.push 10

/-- Takes one more line into a run, or begins another with it. -/
def Repeat.step (o : Options) (run : Repeat) (line : ByteArray) : Repeat × ByteArray :=
  match run with
  | none => (some (1, line), .empty)
  | some (n, first) =>
    if comparedPart o first == comparedPart o line then (some (n + 1, first), .empty)
    else (some (1, line), Repeat.text o run)

/-- What is wrong with the numbers among the options of `uniq`. -/
def wrongNumber? (o : Options) : Option String :=
  o.given.findSome? fun (letter, value) =>
    let matter? := match letter with
      | 'f' => some "fields to skip"
      | 's' => some "bytes to skip"
      | 'w' => some "bytes to compare"
      | _ => none
    match matter? with
    | some matter =>
      if !value.isEmpty && value.all Char.isDigit then none
      else some (value ++ ": invalid number of " ++ matter)
    | none => none

/-- Writes runs of equal lines once. -/
def uniq : Program := fun argv _ =>
  let name := argv.headD ""
  let known : OptionSet :=
    { flags := "cdiu", valued := "fsw"
      long := [("count", 'c'), ("repeated", 'd'), ("ignore-case", 'i'), ("unique", 'u'),
        ("skip-fields", 'f'), ("skip-chars", 's'), ("check-chars", 'w')] }
  withOptions name known argv 1 fun o => do
    match wrongNumber? o, o.operands with
    | some wrong, _ =>
      complain (name ++ ": " ++ wrong ++ "\n")
      return 1
    | none, _ :: _ :: extra :: _ => misuse name ("extra operand " ++ cite extra) 1
    | none, [source, target] =>
      match ← call (.openFile target (.write .truncate 0o666) false) with
      | .error e => fail name (quote target) e.text
      | .ok fd =>
        let _ ← call (.duplicate fd Fd.stdout)
        let _ ← call (.close fd)
        filter name [source] none (Repeat.step o) (Repeat.text o)
    | none, _ => filter name o.files none (Repeat.step o) (Repeat.text o)

end Program

end CommandShell
