import CommandShell.Toml.Document

/-!
# Reading TOML

The notation of TOML 1.0, from characters to a `Document`. A reader takes the characters still to
come and gives what it read with the characters after it, or `none` if the text is malformed; no
reader says where it failed, because nobody is told. `parse` is the whole of it.

Values nest, so the readers of values, arrays and inline tables call each other. They count down
two numbers: the characters of the text, which bounds every recursion, and the levels of nesting,
of which the notation as read here allows 127.
-/

namespace CommandShell.Toml

/-- A reader of an `α` at the front of a text. -/
abbrev Reader (α : Type) := List Char → Option (α × List Char)

/-! ## Blanks, comments and line ends -/

def isBlank (c : Char) : Bool := c == ' ' || c == '\t'

/-- A character that may stand in a comment. -/
def isCommentChar (c : Char) : Bool :=
  c == '\t' || (' ' ≤ c && c ≤ '~') || '\x80' ≤ c

def skipBlanks (cs : List Char) : List Char := cs.dropWhile isBlank

def skipComment (cs : List Char) : List Char :=
  match cs with
  | '#' :: rest => rest.dropWhile isCommentChar
  | _ => cs

/-- The text after a line feed, with or without a carriage return before it. -/
def afterLineEnd? (cs : List Char) : Option (List Char) :=
  match cs with
  | '\n' :: rest => some rest
  | '\r' :: '\n' :: rest => some rest
  | _ => none

/-- The text after the rest of a line on which nothing but a comment may follow. -/
def afterLine? (cs : List Char) : Option (List Char) :=
  match skipComment (skipBlanks cs) with
  | [] => some []
  | rest => afterLineEnd? rest

/-- Skips blanks, comments and line ends between the items of an array. The count bounds the
number of lines. -/
def skipLines : Nat → List Char → Option (List Char)
  | 0, cs => some cs
  | n + 1, cs =>
    let rest := skipBlanks cs
    match afterLineEnd? rest with
    | some next => skipLines n next
    | none =>
      match rest with
      | '#' :: _ =>
        match afterLineEnd? (skipComment rest) with
        | some next => skipLines n next
        | none => none
      | _ => some rest

/-! ## Strings -/

def hexDigit? (c : Char) : Option Nat :=
  if '0' ≤ c ∧ c ≤ '9' then some (c.toNat - 48)
  else if 'a' ≤ c ∧ c ≤ 'f' then some (c.toNat - 87)
  else if 'A' ≤ c ∧ c ≤ 'F' then some (c.toNat - 55)
  else none

/-- The character whose code is written in the next `count` hexadecimal digits. -/
def codePoint (count : Nat) : Reader Char := fun cs => do
  let digits ← (cs.take count).mapM hexDigit?
  if digits.length ≠ count then none
  else
    let code := digits.foldl (fun n d => n * 16 + d) 0
    if code.isValidChar then some (Char.ofNat code, cs.drop count) else none

/-- The character of an escape whose backslash has been read. -/
def escape : Reader Char
  | 'b' :: rest => some ('\x08', rest)
  | 't' :: rest => some ('\t', rest)
  | 'n' :: rest => some ('\n', rest)
  | 'f' :: rest => some ('\x0c', rest)
  | 'r' :: rest => some ('\r', rest)
  | '"' :: rest => some ('"', rest)
  | '\\' :: rest => some ('\\', rest)
  | 'u' :: rest => codePoint 4 rest
  | 'U' :: rest => codePoint 8 rest
  | _ => none

/-- A character that may stand for itself in a string of either kind, quotes and backslashes
aside. -/
def isStringChar (c : Char) : Bool := isCommentChar c

/-- The rest of a basic string, whose opening quote has been read. -/
def basicString : Nat → Reader (List Char)
  | 0, _ => none
  | n + 1, cs =>
    match cs with
    | '"' :: rest => some ([], rest)
    | '\\' :: rest => do
      let (c, rest) ← escape rest
      let (s, rest) ← basicString n rest
      some (c :: s, rest)
    | c :: rest =>
      if isStringChar c then do
        let (s, rest) ← basicString n rest
        some (c :: s, rest)
      else none
    | [] => none

/-- The rest of a literal string, whose opening quote has been read. -/
def literalString : Reader (List Char) := fun cs =>
  match cs.span fun c => isStringChar c && c != '\'' with
  | (s, '\'' :: rest) => some (s, rest)
  | _ => none

/-- The text after a backslash at the end of a line: blanks and line ends up to the next visible
character are skipped, and there has to be at least one line end. -/
def afterContinuation? (cs : List Char) : Option (List Char) := do
  let rest ← afterLineEnd? (skipBlanks cs)
  let rec skip : Nat → List Char → List Char
    | 0, cs => cs
    | n + 1, cs =>
      match afterLineEnd? (skipBlanks cs) with
      | some next => skip n next
      | none => skipBlanks cs
  some (skip rest.length rest)

/-- The rest of a string that may span lines and ends at three quotes. One or two quotes stand for
themselves, also right before the three that end it. Line ends count as a line feed. -/
def longString (quote : Char) (escapes : Bool) : Nat → Reader (List Char)
  | 0, _ => none
  | n + 1, cs =>
    if cs.take 3 = [quote, quote, quote] then
      let more := ((cs.drop 3).takeWhile (· == quote)).length
      if more ≤ 2 then some (List.replicate more quote, cs.drop (3 + more))
      else some ([quote, quote], cs.drop 5)
    else
      match cs with
      | [] => none
      | c :: rest =>
        let keep (c : Char) (rest : List Char) : Option (List Char × List Char) := do
          let (s, rest) ← longString quote escapes n rest
          some (c :: s, rest)
        if c = '\\' ∧ escapes then
          match afterContinuation? rest with
          | some rest => longString quote escapes n rest
          | none => do
            let (c, rest) ← escape rest
            keep c rest
        else
          match afterLineEnd? cs with
          | some rest => keep '\n' rest
          | none => if isStringChar c then keep c rest else none

/-- A string of any of the four kinds. A line end right after three opening quotes is dropped. -/
def quoted : Reader String := fun cs => do
  let long (quote : Char) (escapes : Bool) (rest : List Char) : Option (String × List Char) := do
    let rest := (afterLineEnd? rest).getD rest
    let (s, rest) ← longString quote escapes (rest.length + 1) rest
    some (String.ofList s, rest)
  match cs with
  | '"' :: '"' :: '"' :: rest => long '"' true rest
  | '\'' :: '\'' :: '\'' :: rest => long '\'' false rest
  | '"' :: rest => do
    let (s, rest) ← basicString (rest.length + 1) rest
    some (String.ofList s, rest)
  | '\'' :: rest => do
    let (s, rest) ← literalString rest
    some (String.ofList s, rest)
  | _ => none

/-! ## Keys -/

/-- How many levels of arrays and inline tables may nest, and how many parts a key may have. -/
def maxNesting : Nat := 127

def isBareKeyChar (c : Char) : Bool :=
  c.isAlphanum || c == '-' || c == '_'

/-- One part of a key. -/
def simpleKey : Reader String := fun cs =>
  match cs with
  | '"' :: rest => do
    let (s, rest) ← basicString (rest.length + 1) rest
    some (String.ofList s, rest)
  | '\'' :: rest => do
    let (s, rest) ← literalString rest
    some (String.ofList s, rest)
  | _ =>
    match cs.span isBareKeyChar with
    | ([], _) => none
    | (s, rest) => some (String.ofList s, rest)

/-- A key with its dots, as the parts before the last one and the last one, and the blanks after
it. The count bounds the number of parts; a key with more parts is malformed. -/
def dottedKey : Nat → Reader (List String × String)
  | 0, _ => none
  | n + 1, cs => do
    let (part, rest) ← simpleKey (skipBlanks cs)
    match skipBlanks rest with
    | '.' :: rest => do
      let ((path, key), rest) ← dottedKey n rest
      some ((part :: path, key), rest)
    | rest => some (([], part), rest)

/-! ## Numbers -/

/-- Digits with single underscores between them. -/
def digits (isDigit : Char → Bool) : Nat → Reader (List Char)
  | 0, _ => none
  | n + 1, cs =>
    match cs with
    | c :: '_' :: rest =>
      if isDigit c then do
        let (ds, rest) ← digits isDigit n rest
        some (c :: ds, rest)
      else none
    | c :: rest =>
      if isDigit c then
        match digits isDigit n rest with
        | some (ds, rest) => some (c :: ds, rest)
        | none => some ([c], rest)
      else none
    | [] => none

/-- As many digits as there are, with underscores between digits only: an underscore that no digit
follows makes the number malformed. -/
def digitRun (isDigit : Char → Bool) : Reader (List Char) := fun cs => do
  let run := cs.takeWhile fun c => isDigit c || c == '_'
  let (ds, rest) ← digits isDigit (run.length + 1) run
  if rest.isEmpty then some (ds, cs.drop run.length) else none

/-- The number that digits write in a base. -/
def digitsValue (base : Nat) (ds : List Char) : Nat :=
  ds.foldl (fun n c => n * base + (hexDigit? c).getD 0) 0

/-- An integer has to fit into 64 bits with a sign. -/
def integerInRange (n : Int) : Option Value :=
  if -9223372036854775808 ≤ n ∧ n ≤ 9223372036854775807 then some (.integer n) else none

/-- A number in base 16, 8 or 2, whose prefix has been read. -/
def prefixed (base : Nat) (isDigit : Char → Bool) : Reader Value := fun cs => do
  let (ds, rest) ← digitRun isDigit cs
  some (← integerInRange (digitsValue base ds), rest)

/-- A decimal integer part: no zero stands in front of other digits. -/
def decimalPart : Reader (List Char) := fun cs => do
  let (ds, rest) ← digitRun Char.isDigit cs
  match ds with
  | '0' :: _ :: _ => none
  | _ => some (ds, rest)

/-- The exponent of a float whose `e` has been read. -/
def exponent : Reader Int
  | '+' :: rest => do
    let (ds, rest) ← digitRun Char.isDigit rest
    some (digitsValue 10 ds, rest)
  | '-' :: rest => do
    let (ds, rest) ← digitRun Char.isDigit rest
    some (-(digitsValue 10 ds : Int), rest)
  | cs => do
    let (ds, rest) ← digitRun Char.isDigit cs
    some (digitsValue 10 ds, rest)

/-- The float nearest to `mantissa * 10 ^ exponent`. Exponents that are out of all proportion are
brought closer, where the result is zero or infinite all the same. -/
def nearestFloat (mantissa : Nat) (exponent : Int) : Float :=
  let digits := (Nat.toDigits 10 mantissa).length
  if mantissa = 0 then 0.0
  else if exponent + digits > 400 then Float.ofScientific 1 false 400
  else if exponent + digits < -400 then 0.0
  else if exponent < 0 then Float.ofScientific mantissa true exponent.natAbs
  else Float.ofScientific mantissa false exponent.natAbs

/-- A positive float that is too large to be written as one is malformed. -/
def floatValue (negative : Bool) (x : Float) : Option Value :=
  if negative then some (.float (-x))
  else if x == 1.0 / 0.0 then none
  else some (.float x)

/-- A decimal integer or float whose sign has been read. -/
def decimal (negative : Bool) : Reader Value := fun cs => do
  let (whole, rest) ← decimalPart cs
  let finish (fraction : List Char) (exp : Int) (rest : List Char) :
      Option (Value × List Char) := do
    let x := nearestFloat (digitsValue 10 (whole ++ fraction)) (exp - fraction.length)
    some (← floatValue negative x, rest)
  match rest with
  | '.' :: rest => do
    let (fraction, rest) ← digitRun Char.isDigit rest
    match rest with
    | c :: after =>
      if c = 'e' ∨ c = 'E' then do
        let (exp, rest) ← exponent after
        finish fraction exp rest
      else finish fraction 0 rest
    | [] => finish fraction 0 []
  | c :: after =>
    if c = 'e' ∨ c = 'E' then do
      let (exp, rest) ← exponent after
      finish [] exp rest
    else do
      let n : Int := digitsValue 10 whole
      some (← integerInRange (if negative then -n else n), rest)
  | [] => do
    let n : Int := digitsValue 10 whole
    some (← integerInRange (if negative then -n else n), [])

/-- A number with or without a sign. Only unsigned integers may have a base. -/
def number : Reader Value
  | '+' :: 'i' :: 'n' :: 'f' :: rest => some (.float (1.0 / 0.0), rest)
  | '-' :: 'i' :: 'n' :: 'f' :: rest => some (.float (-1.0 / 0.0), rest)
  | '+' :: 'n' :: 'a' :: 'n' :: rest => some (.float (0.0 / 0.0), rest)
  | '-' :: 'n' :: 'a' :: 'n' :: rest => some (.float (0.0 / 0.0), rest)
  | '+' :: rest => decimal false rest
  | '-' :: rest => decimal true rest
  | '0' :: 'x' :: rest => prefixed 16 (fun c => (hexDigit? c).isSome) rest
  | '0' :: 'o' :: rest => prefixed 8 (fun c => '0' ≤ c && c ≤ '7') rest
  | '0' :: 'b' :: rest => prefixed 2 (fun c => c == '0' || c == '1') rest
  | cs => decimal false cs

/-! ## Dates and times -/

/-- Exactly `count` decimal digits. -/
def fixedDigits (count : Nat) : Reader Nat := fun cs =>
  let ds := cs.take count
  if ds.length = count ∧ ds.all Char.isDigit then some (digitsValue 10 ds, cs.drop count) else none

/-- The text after the character `c`. -/
def after? (c : Char) : List Char → Option (List Char)
  | [] => none
  | d :: rest => if c = d then some rest else none

def daysInMonth (year month : Nat) : Nat :=
  if month = 2 then
    if year % 4 = 0 ∧ (year % 100 ≠ 0 ∨ year % 400 = 0) then 29 else 28
  else if month = 4 ∨ month = 6 ∨ month = 9 ∨ month = 11 then 30
  else 31

/-- The text after a date. -/
def afterDate? (cs : List Char) : Option (List Char) := do
  let (year, rest) ← fixedDigits 4 cs
  let (month, rest) ← fixedDigits 2 (← after? '-' rest)
  let (day, rest) ← fixedDigits 2 (← after? '-' rest)
  if 1 ≤ month ∧ month ≤ 12 ∧ 1 ≤ day ∧ day ≤ daysInMonth year month then some rest else none

/-- The text after a time of day. The second may be a leap second and may have a fraction. -/
def afterTime? (cs : List Char) : Option (List Char) := do
  let (hour, rest) ← fixedDigits 2 cs
  let (minute, rest) ← fixedDigits 2 (← after? ':' rest)
  let (second, rest) ← fixedDigits 2 (← after? ':' rest)
  if hour ≤ 23 ∧ minute ≤ 59 ∧ second ≤ 60 then
    match rest with
    | '.' :: rest =>
      match rest.span Char.isDigit with
      | ([], _) => none
      | (_, rest) => some rest
    | rest => some rest
  else none

/-- The text after the offset of a time from universal time, if one is written. -/
def afterOffset? (cs : List Char) : Option (List Char) :=
  let offset (rest : List Char) : Option (List Char) := do
    let (hour, rest) ← fixedDigits 2 rest
    let (minute, rest) ← fixedDigits 2 (← after? ':' rest)
    if hour ≤ 23 ∧ minute ≤ 59 then some rest else none
  match cs with
  | 'Z' :: rest => some rest
  | 'z' :: rest => some rest
  | '+' :: rest => offset rest
  | '-' :: rest => offset rest
  | rest => some rest

/-- The text begins like a date: four digits and a dash. -/
def beginsDate (cs : List Char) : Bool :=
  (fixedDigits 4 cs).any fun (_, rest) => rest.head? == some '-'

/-- The text begins like a time: two digits and a colon. -/
def beginsTime (cs : List Char) : Bool :=
  (fixedDigits 2 cs).any fun (_, rest) => rest.head? == some ':'

/-- The text after a date, a time, or a date with a time. A blank may separate the two, so a date
followed by a blank is a date with a time only if a time follows. -/
def afterDatetime? (cs : List Char) : Option (List Char) :=
  if beginsDate cs then do
    let rest ← afterDate? cs
    match rest with
    | c :: time =>
      if c = 'T' ∨ c = 't' then afterOffset? (← afterTime? time)
      else if c = ' ' ∧ beginsTime time then afterOffset? (← afterTime? time)
      else some rest
    | [] => some []
  else afterTime? cs

/-! ## Values -/

/-- Puts a value under a dotted key of an inline table. -/
def insertInline (path : List String) (key : String) (v : Value)
    (entries : List (String × Value)) : Option (List (String × Value)) :=
  match path with
  | [] => if (entries.lookup key).isSome then none else some (entries ++ [(key, v)])
  | first :: rest =>
    match entries.lookup first with
    | none => do
      let sub ← insertInline rest key v []
      some (entries ++ [(first, .table sub)])
    | some (.table sub) => do
      let sub ← insertInline rest key v sub
      some (entries.map fun e => if e.1 == first then (first, .table sub) else e)
    | some _ => none

mutual

/-- A value. -/
def value : Nat → Nat → Reader Value
  | 0, _, _ => none
  | n + 1, depth, cs =>
    match cs with
    | '"' :: _ => (quoted cs).map fun (s, rest) => (.string s, rest)
    | '\'' :: _ => (quoted cs).map fun (s, rest) => (.string s, rest)
    | '[' :: rest =>
      match depth with
      | 0 => none
      | depth + 1 => (items n depth rest).map fun (vs, rest) => (.array vs, rest)
    | '\x7b' :: rest =>
      match depth with
      | 0 => none
      | depth + 1 =>
        match skipBlanks rest with
        | '\x7d' :: rest => some (.table [], rest)
        | rest => (pairs n depth [] rest).map fun (es, rest) => (.table es, rest)
    | 't' :: 'r' :: 'u' :: 'e' :: rest => some (.boolean true, rest)
    | 'f' :: 'a' :: 'l' :: 's' :: 'e' :: rest => some (.boolean false, rest)
    | 'i' :: 'n' :: 'f' :: rest => some (.float (1.0 / 0.0), rest)
    | 'n' :: 'a' :: 'n' :: rest => some (.float (0.0 / 0.0), rest)
    | _ =>
      if beginsDate cs || beginsTime cs then (afterDatetime? cs).map fun rest => (.datetime, rest)
      else number cs

/-- The rest of an array, whose bracket has been read. A comma may follow the last item. -/
def items : Nat → Nat → Reader (List Value)
  | 0, _, _ => none
  | n + 1, depth, cs => do
    match ← skipLines (cs.length + 1) cs with
    | ']' :: rest => some ([], rest)
    | rest => do
      let (v, rest) ← value n depth rest
      match ← skipLines (rest.length + 1) rest with
      | ',' :: rest => do
        let (vs, rest) ← items n depth rest
        some (v :: vs, rest)
      | ']' :: rest => some ([v], rest)
      | _ => none

/-- The rest of an inline table, which stands on one line. No comma may follow the last pair. -/
def pairs : Nat → Nat → List (String × Value) → Reader (List (String × Value))
  | 0, _, _, _ => none
  | n + 1, depth, entries, cs => do
    let ((path, key), rest) ← dottedKey maxNesting cs
    let rest ← after? '=' rest
    let (v, rest) ← value n depth (skipBlanks rest)
    let entries ← insertInline path key v entries
    match skipBlanks rest with
    | ',' :: rest => pairs n depth entries rest
    | '\x7d' :: rest => some (entries, rest)
    | _ => none

end

/-! ## Documents -/

/-- One line that assigns a value. -/
def assignment (d : Draft) : Reader Draft := fun cs => do
  let ((path, key), rest) ← dottedKey maxNesting cs
  let rest ← after? '=' rest
  let (v, rest) ← value (rest.length + 1) maxNesting (skipBlanks rest)
  let rest ← afterLine? rest
  some (← d.assign path key v, rest)

/-- One line that opens a table, or an element of an array of tables. -/
def header (d : Draft) : Reader Draft := fun cs =>
  match cs with
  | '[' :: '[' :: rest => do
    let ((path, key), rest) ← dottedKey maxNesting rest
    let rest ← after? ']' rest
    let rest ← afterLine? (← after? ']' rest)
    some (← d.openElement path key, rest)
  | '[' :: rest => do
    let ((path, key), rest) ← dottedKey maxNesting rest
    let rest ← afterLine? (← after? ']' rest)
    some (← d.openTable path key, rest)
  | _ => none

/-- The rest of a document. Each line is at least one character, which bounds their number. -/
def lines : Nat → Draft → List Char → Option Draft
  | 0, _, _ => none
  | n + 1, d, cs =>
    match skipBlanks cs with
    | [] => some d
    | '#' :: rest => do lines n d (← afterLine? ('#' :: rest))
    | '[' :: rest => do
      let (d, rest) ← header d ('[' :: rest)
      lines n d rest
    | rest =>
      match afterLineEnd? rest with
      | some rest => lines n d rest
      | none => do
        let (d, rest) ← assignment d rest
        lines n d rest

/-- The document that a text writes, or `none` if the text is malformed. A byte-order mark in
front of it is skipped. -/
def parse (text : String) : Option Document := do
  let cs := match text.toList with
    | '\ufeff' :: rest => rest
    | cs => cs
  (← lines (cs.length + 1) {} cs).finish

end CommandShell.Toml
