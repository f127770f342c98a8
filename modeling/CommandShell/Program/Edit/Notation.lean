import CommandShell.Program.Edit.Rule

/-!
# Notation of rules

How rules for editing are written: one letter each, after the places where they apply. Semicolons or
ends of lines separate them. `readRules` tells where reading has come to if something is wrong, as
the number of characters that have been read.
-/

namespace CommandShell

namespace Edit

/-- What is wrong with rules. -/
inductive Fault
  | unknownCommand (c : Char)
  | missingCommand
  | extraCharacters
  | unterminated (what : String)
  | unterminatedAddress
  | unexpectedComma
  | twoNegations
  | tooManyPlaces
  | lineZero
  | unexpectedBrace
  | unmatchedBrace
  | commentPlaced
  | labelPlaced
  | labelMissing
  | textMissing
  | fileMissing
  | unknownOption
  | optionTwice (c : Char)
  | twoNumbers
  | numberZero
  | unknownReference (n : Nat)
  | lengthsDiffer
  | noPrevious
  | expression (e : Regex.Fault)

/-- The wording of a fault. -/
def Fault.message : Fault → String
  | .unknownCommand c => "unknown command: `" ++ c.toString ++ "'"
  | .missingCommand => "missing command"
  | .extraCharacters => "extra characters after command"
  | .unterminated what => "unterminated `" ++ what ++ "' command"
  | .unterminatedAddress => "unterminated address regex"
  | .unexpectedComma => "unexpected `,'"
  | .twoNegations => "multiple `!'s"
  | .tooManyPlaces => "command only uses one address"
  | .lineZero => "invalid usage of line address 0"
  | .unexpectedBrace => "unexpected `\x7d'"
  | .unmatchedBrace => "unmatched `\x7b'"
  | .commentPlaced => "comments don't accept any addresses"
  | .labelPlaced => ": doesn't want any addresses"
  | .labelMissing => "\":\" lacks a label"
  | .textMissing => "expected \\ after `a', `c' or `i'"
  | .fileMissing => "missing filename in r/R/w/W commands"
  | .unknownOption => "unknown option to `s'"
  | .optionTwice c => "multiple `" ++ c.toString ++ "' options to `s' command"
  | .twoNumbers => "multiple number options to `s' command"
  | .numberZero => "number option to `s' command may not be zero"
  | .unknownReference n => "invalid reference \\" ++ toString n ++ " on `s' command's RHS"
  | .lengthsDiffer => "strings for `y' command are different lengths"
  | .noPrevious => "no previous regular expression"
  | .expression e => e.message

/-- A fault and what had not been read when it was found; nothing if it is a fault of the whole. -/
abbrev Misreading := Fault × Option (List Char)

/-- A result of reading. -/
abbrev Result := Except Misreading

/-- A fault in front of some text. -/
def wrongAt {α : Type} (f : Fault) (rest : List Char) : Result α :=
  .error (f, some rest)

/-- A separator inside a line. -/
def isSpace (c : Char) : Bool :=
  c == ' ' || c == '\t'

/-- A separator of rules. -/
def isGap (c : Char) : Bool :=
  c == ' ' || c == '\t' || c == ';' || c == '\n'

/-- Reads up to a delimiter, which a backslash takes the meaning from. -/
def readUpTo (delimiter : Char) (done : List Char) : List Char → Option (List Char × List Char)
  | [] => none
  | '\\' :: c :: rest =>
    readUpTo delimiter (if c = delimiter then c :: done else c :: '\\' :: done) rest
  | c :: rest =>
    if c = delimiter then some (done.reverse, rest) else readUpTo delimiter (c :: done) rest

/-- Reads a replacement. -/
def readReplacement : List Char → List Piece
  | [] => []
  | '&' :: rest => .fit 0 :: readReplacement rest
  | '\\' :: c :: rest =>
    let piece : Piece :=
      if c.isDigit then .fit (c.toNat - 48)
      else
        match c with
        | 'n' => .text '\n'
        | 't' => .text '\t'
        | 'U' => .case (some .upper)
        | 'L' => .case (some .lower)
        | 'E' => .case none
        | 'u' => .nextCase .upper
        | 'l' => .nextCase .lower
        | c => .text c
    piece :: readReplacement rest
  | c :: rest => .text c :: readReplacement rest

/-- What reading rules has to keep in mind. -/
structure Context where
  written : Regex.Notation
  /-- The expression that was read last, which an empty one stands for. -/
  previous : Option Regex := none

/-- Reads an expression. -/
def readExpression (c : Context) (source : List Char) (ignoreCase : Bool) (rest : List Char) :
    Result Regex :=
  if source.isEmpty then
    match c.previous with
    | some r => .ok r
    | none => .error (.noPrevious, none)
  else
    match Regex.ofText { c.written with ignoreCase } (String.ofList source) with
    | .ok r => .ok r
    | .error e => wrongAt (.expression e) rest

/-- The digits in front as a number, and what follows. -/
def readNumber? (cs : List Char) : Option (Nat × List Char) :=
  let digits := cs.takeWhile Char.isDigit
  (String.ofList digits).toNat?.map fun n => (n, cs.drop digits.length)

/-- Reads a place, if one stands here. -/
def readPlace (c : Context) (cs : List Char) : Result (Option Place × Context × List Char) :=
  let containing (delimiter : Char) (rest : List Char) :
      Result (Option Place × Context × List Char) := do
    match readUpTo delimiter [] rest with
    | none => wrongAt .unterminatedAddress []
    | some (source, rest) =>
      let (ignoreCase, rest) := match rest with
        | 'I' :: rest => (true, rest)
        | rest => (false, rest)
      let r ← readExpression c source ignoreCase rest
      return (some (.containing r), { c with previous := some r }, rest)
  match cs with
  | '$' :: rest => .ok (some .final, c, rest)
  | '/' :: rest => containing '/' rest
  | '\\' :: delimiter :: rest => containing delimiter rest
  | cs =>
    match readNumber? cs with
    | none => .ok (none, c, cs)
    | some (number, rest) =>
      match rest with
      | '~' :: more =>
        let (step, rest) := (readNumber? more).getD (0, more)
        .ok (some (if step = 0 then .line number else .every number step), c, rest)
      | rest => .ok (some (.line number), c, rest)

/-- Reads the second place of a stretch. -/
def readLast (c : Context) (cs : List Char) : Result (Option Place × Context × List Char) :=
  match cs with
  | '+' :: rest =>
    .ok ((readNumber? rest).map (.later ·.1), c, ((readNumber? rest).getD (0, rest)).2)
  | '~' :: rest =>
    .ok ((readNumber? rest).map (.multiple ·.1), c, ((readNumber? rest).getD (0, rest)).2)
  | cs => readPlace c cs

/-- Reads the lines that a rule applies to. -/
def readExtent (c : Context) (cs : List Char) : Result (Extent × Context × List Char) := do
  let (first, c, rest) ← readPlace c cs
  match first with
  | none => return (.all, c, rest)
  | some first =>
    match rest.dropWhile isSpace with
    | ',' :: after => do
      let (last, c, rest) ← readLast c (after.dropWhile isSpace)
      match last with
      | none => wrongAt .unexpectedComma after
      | some last =>
        match first, last with
        | .line 0, .containing _ => return (.stretch first last (.inside none), c, rest)
        | .line 0, _ => wrongAt .lineZero (rest.drop 1)
        | _, _ => return (.stretch first last .outside, c, rest)
    | _ =>
      match first with
      | .line 0 => wrongAt .lineZero (rest.drop 1)
      | first => return (.only first, c, rest)

/-- The flags of a substitution. -/
structure Flags where
  everywhere : Bool := false
  printing : Bool := false
  ignoreCase : Bool := false
  number : Option Nat := none

/-- Reads the flags of a substitution. The count bounds their number. -/
def readFlags (f : Flags) (cs : List Char) : Nat → Result (Flags × List Char)
  | 0 => .ok (f, cs)
  | count + 1 =>
    match cs with
    | [] => .ok (f, [])
    | c :: rest =>
      if c.isDigit then
        match readNumber? cs with
        | some (0, rest) => wrongAt .numberZero rest
        | some (n, rest) =>
          if f.number.isSome then wrongAt .twoNumbers rest
          else readFlags { f with number := some n } rest count
        | none => .ok (f, cs)
      else if c = 'g' then
        if f.everywhere then wrongAt (.optionTwice c) rest
        else readFlags { f with everywhere := true } rest count
      else if c = 'p' then
        if f.printing then wrongAt (.optionTwice c) rest
        else readFlags { f with printing := true } rest count
      else if c = 'i' || c = 'I' then readFlags { f with ignoreCase := true } rest count
      else if isGap c || c = '\x7d' || c = '#' then .ok (f, cs)
      else if c = 'w' then wrongAt .fileMissing rest
      else wrongAt .unknownOption rest

/-- Reads a text that is to be put in, which ends at a newline without a backslash. -/
def readText (cs : List Char) : Nat → List Char × List Char
  | 0 => ([], cs)
  | fuel + 1 =>
    match cs with
    | [] => ([], [])
    | '\n' :: rest => ([], rest)
    | '\\' :: c :: rest =>
      let (text, rest) := readText rest fuel
      (c :: text, rest)
    | c :: rest =>
      let (text, rest) := readText rest fuel
      (c :: text, rest)

/-- Reads the text of a command that puts some in. -/
def readInserted (cs : List Char) : Result (List Char × List Char) :=
  let take (cs : List Char) : List Char × List Char :=
    let (text, rest) := readText cs (cs.length + 1)
    (text ++ ['\n'], rest)
  match cs.dropWhile isSpace with
  | [] => wrongAt .textMissing []
  | '\\' :: rest =>
    match rest.dropWhile isSpace with
    | '\n' :: rest => .ok (take rest)
    | [] => wrongAt .textMissing []
    | rest => .ok (take rest)
  | '\n' :: rest => wrongAt .textMissing rest
  | cs => .ok (take cs)

/-- The characters of an exchange, with their backslashes carried out. -/
def exchanged : List Char → List Char
  | [] => []
  | '\\' :: 'n' :: rest => '\n' :: exchanged rest
  | '\\' :: 't' :: rest => '\t' :: exchanged rest
  | '\\' :: '\\' :: rest => '\\' :: exchanged rest
  | c :: rest => c :: exchanged rest

/-- The text up to a character, and what follows. -/
def readTo (isEnd : Char → Bool) (cs : List Char) : List Char × List Char :=
  (cs.takeWhile (!isEnd ·), cs.dropWhile (!isEnd ·))

/-- Reads what a rule does. -/
def readAction (context : Context) (e : Extent) (cs : List Char) :
    Result (Action × Context × List Char) := do
  let simple (a : Action) (rest : List Char) : Result (Action × Context × List Char) :=
    .ok (a, context, rest)
  let isStretch := match e with
    | .stretch _ _ _ => true
    | _ => false
  match cs with
  | [] => wrongAt .missingCommand []
  | command :: rest =>
    let label : String × List Char :=
      let (name, after) := readTo isGap (rest.dropWhile isSpace)
      (String.ofList name, after)
    let code : Nat × List Char := (readNumber? (rest.dropWhile isSpace)).getD (0, rest)
    let inserted (make : List Char → Action) : Result (Action × Context × List Char) := do
      let (text, rest) ← readInserted rest
      return (make text, context, rest)
    match command with
    | 'p' => simple .print rest
    | 'P' => simple .printFirst rest
    | 'd' => simple .delete rest
    | 'D' => simple .deleteFirst rest
    | '=' => simple .number rest
    | 'n' => simple .next rest
    | 'N' => simple .append rest
    | 'h' => simple (.hold false) rest
    | 'H' => simple (.hold true) rest
    | 'g' => simple (.recall false) rest
    | 'G' => simple (.recall true) rest
    | 'x' => simple .exchange rest
    | 'l' => simple .show rest
    | 'q' => if isStretch then wrongAt .tooManyPlaces rest else simple (.quit code.1 true) code.2
    | 'Q' => if isStretch then wrongAt .tooManyPlaces rest else simple (.quit code.1 false) code.2
    | 'a' => inserted .appendText
    | 'i' => inserted .insert
    | 'c' => inserted .change
    | 'b' => simple (.jump label.1) label.2
    | 't' => simple (.jumpIfChanged label.1) label.2
    | ':' =>
      match e with
      | .all =>
        if label.1.isEmpty then wrongAt .labelMissing label.2 else simple (.label label.1) label.2
      | _ => wrongAt .labelPlaced rest
    | 'r' =>
      let (path, rest) := readTo (· == '\n') (rest.dropWhile isSpace)
      if path.isEmpty then wrongAt .fileMissing rest
      else simple (.appendFile (String.ofList path)) rest
    | 's' =>
      match rest with
      | [] => wrongAt (.unterminated "s") []
      | delimiter :: rest =>
        match readUpTo delimiter [] rest with
        | none => wrongAt (.unterminated "s") []
        | some (source, rest) =>
          match readUpTo delimiter [] rest with
          | none => wrongAt (.unterminated "s") []
          | some (replacement, rest) => do
            let (flags, rest) ← readFlags {} rest (rest.length + 1)
            let r ← readExpression context source flags.ignoreCase rest
            let replacement := readReplacement replacement
            let references := replacement.map fun
              | .fit n => n
              | _ => 0
            match references.find? fun n => n > r.groupCount with
            | some n => wrongAt (.unknownReference n) rest
            | none =>
              let s : Substitution :=
                { expression := r, replacement, number := flags.number.getD 1
                  everywhere := flags.everywhere, printing := flags.printing }
              return (.substitute s, { context with previous := some r }, rest)
    | 'y' =>
      match rest with
      | [] => wrongAt (.unterminated "y") []
      | delimiter :: rest =>
        match readUpTo delimiter [] rest with
        | none => wrongAt (.unterminated "y") []
        | some (source, rest) =>
          match readUpTo delimiter [] rest with
          | none => wrongAt (.unterminated "y") []
          | some (target, rest) =>
            let source := exchanged source
            let target := exchanged target
            if source.length ≠ target.length then wrongAt .lengthsDiffer rest
            else simple (.exchangeLetters (source.zip target)) rest
    | c => wrongAt (.unknownCommand c) rest

/-- Rules that have been read, and the positions of the blocks that are still open. -/
structure Rules where
  list : Array Rule := #[]
  opened : List Nat := []

/-- Reads rules. The count bounds their number. -/
def readFrom (c : Context) (done : Rules) (cs : List Char) : Nat → Result (Array Rule)
  | 0 => .ok done.list
  | count + 1 => do
    let cs := cs.dropWhile isGap
    match cs with
    | [] => if done.opened.isEmpty then return done.list else .error (.unmatchedBrace, none)
    | '#' :: rest => readFrom c done (rest.dropWhile (· != '\n')) count
    | cs =>
      let (extent, c, rest) ← readExtent c cs
      let rest := rest.dropWhile isSpace
      let (negated, rest) ← match rest with
        | '!' :: after =>
          match after.dropWhile isSpace with
          | '!' :: rest => wrongAt .twoNegations rest
          | rest => pure (true, rest)
        | rest => pure (false, rest)
      match rest with
      | '#' :: rest => wrongAt .commentPlaced rest
      | '\x7b' :: rest =>
        let opened := done.list.size :: done.opened
        readFrom c ⟨done.list.push ⟨extent, negated, .block 0⟩, opened⟩ rest count
      | '\x7d' :: rest =>
        match done.opened with
        | [] => wrongAt .unexpectedBrace rest
        | start :: opened =>
          let list := done.list.modify start fun r => { r with action := .block done.list.size }
          readFrom c ⟨list, opened⟩ rest count
      | rest =>
        let (action, c, rest) ← readAction c extent rest
        let done := { done with list := done.list.push ⟨extent, negated, action⟩ }
        let takesLine := match action with
          | .insert _ | .appendText _ | .change _ | .label _ | .appendFile _ => true
          | _ => false
        match rest.dropWhile isSpace with
        | [] => readFrom c done [] count
        | d :: more =>
          if takesLine || isGap d || d = '#' || d = '\x7d' then readFrom c done (d :: more) count
          else wrongAt .extraCharacters more

/-- Reads rules. What is wrong comes with the number of characters that had been read. -/
def readRules (n : Regex.Notation) (source : List Char) : Except (Fault × Nat) (Array Rule) :=
  match readFrom { written := n } {} source (2 * source.length + 2) with
  | .ok rules => .ok rules
  | .error (f, some rest) => .error (f, source.length - rest.length)
  | .error (f, none) => .error (f, 0)

end Edit

end CommandShell
