/-!
# Regular expressions

Expressions that lines are searched for. `Regex.ways` gives every way in which an expression can use
up the beginning of a text, the preferred one first; of all ways from the first place where there is
one, a search takes the longest. Two notations are read: the basic one, where braces, bars and
parentheses are operators after a backslash, and the extended one, where they are without.
-/

namespace CommandShell

/-- A regular expression. -/
inductive Regex
  | empty
  | one (c : Char)
  | any
  /-- One character that a test is true of. -/
  | among (test : Char → Bool)
  | lineStart
  | lineEnd
  | wordStart
  | wordEnd
  /-- A place that is, or is not, at the beginning or the end of a word. -/
  | wordEdge (wanted : Bool)
  /-- A place with no character of a word in front, or behind. -/
  | afterNoWord
  | beforeNoWord
  | sequence (a b : Regex)
  | either (a b : Regex)
  | star (r : Regex)
  /-- What fits is remembered by a number. -/
  | group (number : Nat) (r : Regex)
  /-- The same again that has fitted a group. -/
  | again (number : Nat)

namespace Regex

/-- A character of a word. -/
def isWordChar (c : Char) : Bool :=
  c.isAlphanum || c == '_'

/-- How many groups an expression has. -/
def groupCount : Regex → Nat
  | .group n r => max n r.groupCount
  | .sequence a b | .either a b => max a.groupCount b.groupCount
  | .star r => r.groupCount
  | _ => 0

/-! ## Searching -/

/-- A place in a text. -/
structure Place where
  /-- The character in front. -/
  before : Option Char := none
  rest : List Char
  /-- How many characters have been used up. -/
  position : Nat := 0
  /-- What has fitted the groups, the last one first. -/
  groups : List (Nat × List Char) := []

namespace Place

/-- A word begins here. -/
def isWordStart (p : Place) : Bool :=
  !p.before.any isWordChar && p.rest.head?.any isWordChar

/-- A word ends here. -/
def isWordEnd (p : Place) : Bool :=
  p.before.any isWordChar && !p.rest.head?.any isWordChar

/-- The place behind the next character, if a test is true of it. -/
def next (p : Place) (test : Char → Bool) : List Place :=
  match p.rest with
  | c :: rest =>
    if test c then [{ p with before := some c, rest, position := p.position + 1 }] else []
  | [] => []

/-- The place behind a text, if it stands here. -/
def past (p : Place) : List Char → List Place
  | [] => [p]
  | c :: cs => (p.next (· == c)).flatMap (·.past cs)

end Place

/-- The places that can be reached by any number of rounds, each of which uses up something. -/
def repeated (once : Place → List Place) (p : Place) : Nat → List Place
  | 0 => [p]
  | rounds + 1 =>
    ((once p).filter fun q => p.position < q.position).flatMap (repeated once · rounds) ++ [p]

/-- The places that an expression leads to. -/
def ways : Regex → Place → List Place
  | .empty, p => [p]
  | .one c, p => p.next (· == c)
  | .any, p => p.next fun _ => true
  | .among test, p => p.next test
  | .lineStart, p => if p.before.isNone then [p] else []
  | .lineEnd, p => if p.rest.isEmpty then [p] else []
  | .wordStart, p => if p.isWordStart then [p] else []
  | .wordEnd, p => if p.isWordEnd then [p] else []
  | .wordEdge wanted, p => if (p.isWordStart || p.isWordEnd) == wanted then [p] else []
  | .afterNoWord, p => if p.before.any isWordChar then [] else [p]
  | .beforeNoWord, p => if p.rest.head?.any isWordChar then [] else [p]
  | .sequence a b, p => (a.ways p).flatMap b.ways
  | .either a b, p => a.ways p ++ b.ways p
  | .star r, p => repeated r.ways p p.rest.length
  | .group number r, p =>
    (r.ways p).map fun q =>
      { q with groups := (number, p.rest.take (q.position - p.position)) :: q.groups }
  | .again number, p =>
    match p.groups.lookup number with
    | some text => p.past text
    | none => []

/-- The longest of some ways, the first one of several. -/
def longest? (places : List Place) : Option Place :=
  places.foldl (fun best q =>
    match best with
    | some b => if b.position < q.position then some q else best
    | none => some q) none

/-- Where an expression fits: what stands before, what fits, and the place behind. -/
structure Fit where
  before : List Char
  found : List Char
  after : Place

/-- The first place from here on where the expression fits, and there for the longest stretch. -/
def findFrom (r : Regex) (before : Option Char) : List Char → Option Fit
  | [] => (longest? (r.ways { before, rest := [] })).map fun q => ⟨[], [], q⟩
  | c :: rest =>
    match longest? (r.ways { before, rest := c :: rest }) with
    | some q => some ⟨[], (c :: rest).take q.position, q⟩
    | none => (r.findFrom (some c) rest).map fun f => { f with before := c :: f.before }

/-- Where an expression fits in a text. -/
def find? (r : Regex) (cs : List Char) : Option Fit :=
  r.findFrom none cs

/-- An expression fits somewhere in a text. -/
def occursIn (r : Regex) (cs : List Char) : Bool :=
  (r.find? cs).isSome

/-! ## Notation -/

/-- How expressions are written. -/
structure Notation where
  /-- Operators have no backslash in front. -/
  extended : Bool := true
  /-- Letters fit their other case, too. -/
  ignoreCase : Bool := false
  /-- After a backslash an `n` is the end of a line, a `t` a tab, and a `d` any digit. -/
  letters : Bool := false

/-- Why a text is no expression. -/
inductive Fault
  | openBracket
  | openParenthesis
  | closedParenthesis
  | openBrace
  | badCount
  | nothingBefore
  | trailingBackslash
  | unknownGroup
  | unknownClass
  | decreasing
  deriving DecidableEq

/-- The wording of a fault. -/
def Fault.message : Fault → String
  | .openBracket => "Unmatched [, [^, [:, [., or [="
  | .openParenthesis => "Unmatched ( or \\("
  | .closedParenthesis => "Unmatched ) or \\)"
  | .openBrace => "Unmatched \\\x7b"
  | .badCount => "Invalid content of \\\x7b\\\x7d"
  | .nothingBefore => "Invalid preceding regular expression"
  | .trailingBackslash => "Trailing backslash"
  | .unknownGroup => "Invalid back reference"
  | .unknownClass => "Invalid character class name"
  | .decreasing => "Invalid range end"

/-- A class of characters after a backslash. -/
def class? (n : Notation) : Char → Option (Char → Bool)
  | 'w' => some isWordChar
  | 'W' => some fun c => !isWordChar c
  | 's' => some Char.isWhitespace
  | 'S' => some fun c => !c.isWhitespace
  | 'd' => if n.letters then some Char.isDigit else none
  | 'D' => if n.letters then some fun c => !c.isDigit else none
  | _ => none

/-- A named class in brackets. -/
def named? (name : String) : Option (Char → Bool) :=
  let isShown (c : Char) : Bool := 32 < c.toNat && c.toNat < 127
  match name with
  | "alpha" => some Char.isAlpha
  | "digit" => some Char.isDigit
  | "alnum" => some Char.isAlphanum
  | "upper" => some Char.isUpper
  | "lower" => some Char.isLower
  | "space" => some fun c => c == ' ' || (9 ≤ c.toNat && c.toNat ≤ 13)
  | "blank" => some fun c => c == ' ' || c == '\t'
  | "punct" => some fun c => isShown c && !c.isAlphanum
  | "graph" => some isShown
  | "print" => some fun c => isShown c || c == ' '
  | "cntrl" => some fun c => c.toNat < 32 || c.toNat == 127
  | "xdigit" => some fun c => c.isDigit || ('a' ≤ c.toLower && c.toLower ≤ 'f')
  | _ => none

/-- What stands between a bracket with a sign and the same the other way round. -/
def readInner (sign : Char) (done : List Char) : List Char → Option (List Char × List Char)
  | [] => none
  | [_] => none
  | a :: b :: rest =>
    if a = sign && b = ']' then some (done.reverse, rest)
    else readInner sign (a :: done) (b :: rest)

/-- Reads one end of a range: a character, which may be in brackets of its own. -/
def readEnd (cs : List Char) : Option (Char × List Char) :=
  match cs with
  | '[' :: sign :: rest =>
    if sign = '.' || sign = '=' then
      match readInner sign [] rest with
      | some ([c], rest) => some (c, rest)
      | _ => none
    else some ('[', sign :: rest)
  | c :: rest => some (c, rest)
  | [] => none

/-- The members of a set, up to the closing bracket, and what follows it. -/
def readMembers (n : Notation) (isFirst : Bool) (test : Char → Bool) (cs : List Char) :
    Nat → Except Fault ((Char → Bool) × List Char)
  | 0 => .error .openBracket
  | fuel + 1 =>
    let single (c : Char) (rest : List Char) : Except Fault ((Char → Bool) × List Char) :=
      readMembers n false (fun d => d == c || test d) rest fuel
    match cs with
    | [] => .error .openBracket
    | '[' :: ':' :: rest =>
      match readInner ':' [] rest with
      | none => single '[' (':' :: rest)
      | some (name, rest) =>
        match named? (String.ofList name) with
        | some t => readMembers n false (fun c => t c || test c) rest fuel
        | none => .error .unknownClass
    | c :: rest =>
      if c = ']' && !isFirst then .ok (test, rest)
      else if c = '\\' && n.letters && rest.head? = some 'n' then single '\n' (rest.drop 1)
      else if c = '\\' && n.letters && rest.head? = some 't' then single '\t' (rest.drop 1)
      else
        match readEnd cs with
        | none => .error .openBracket
        | some (a, '-' :: b :: more) =>
          if b = ']' then single a ('-' :: b :: more)
          else
            match readEnd (b :: more) with
            | none => .error .openBracket
            | some (z, rest) =>
              if z < a then .error .decreasing
              else readMembers n false (fun d => (a ≤ d && d ≤ z) || test d) rest fuel
        | some (a, rest) => single a rest

/-- An operator of an expression, or what stands for itself. -/
inductive Symbol
  | literal (c : Char)
  | operator (c : Char)
  | item (r : Regex)
  | group (number : Nat)

/-- The symbol that a character after a backslash is. -/
def escapedSymbol (n : Notation) (c : Char) : Symbol :=
  match class? n c with
  | some t => .item (.among t)
  | none =>
    if !n.extended && "()|+?\x7b\x7d".contains c then .operator c
    else if '1' ≤ c && c ≤ '9' then .group (c.toNat - 48)
    else if c = '<' then .item .wordStart
    else if c = '>' then .item .wordEnd
    else if c = 'b' then .item (.wordEdge true)
    else if c = 'B' then .item (.wordEdge false)
    else if n.letters && c = 'n' then .literal '\n'
    else if n.letters && c = 't' then .literal '\t'
    else .literal c

/-- The next symbol of an expression. -/
def nextSymbol (n : Notation) : List Char → Option (Symbol × List Char)
  | [] => none
  | '\\' :: c :: rest => some (escapedSymbol n c, rest)
  | c :: rest =>
    let isOperator := "*.[^$\\".contains c || (n.extended && "()|+?\x7b".contains c)
    some (if isOperator then .operator c else .literal c, rest)

/-- The expression that a character stands for. -/
def literal (n : Notation) (c : Char) : Regex :=
  if n.ignoreCase then .among fun d => c.toLower == d.toLower else .one c

/-- The expression that fits a text alone. -/
def ofLiteral (n : Notation) (text : String) : Regex :=
  text.toList.foldl (fun r c => .sequence r (literal n c)) .empty

/-- An expression so many times and no more than so many times. -/
def times (r : Regex) (least : Nat) (most : Option Nat) : Regex :=
  let more := match most with
    | none => .star r
    | some most =>
      (List.range (most - least)).foldl (fun rest _ => .either (.sequence r rest) .empty) .empty
  (List.range least).foldl (fun rest _ => .sequence r rest) more

/-- Reads how often something is to be repeated, after a brace: `2`, `2,`, `2,4` or `,4`, and a
brace that closes. -/
def readTimes (n : Notation) (cs : List Char) : Except Fault ((Nat × Option Nat) × List Char) :=
  let number (cs : List Char) : Option Nat × List Char :=
    let digits := cs.takeWhile Char.isDigit
    ((String.ofList digits).toNat?, cs.drop digits.length)
  let (least, rest) := number cs
  let (most, rest) := match rest with
    | ',' :: rest => number rest
    | rest => (least, rest)
  let hasComma := cs.contains ','
  let close : Option (List Char) := match n.extended, rest with
    | true, '\x7d' :: rest => some rest
    | false, '\\' :: '\x7d' :: rest => some rest
    | _, _ => none
  match close with
  | none => .error (if rest.isEmpty then .openBrace else .badCount)
  | some rest =>
    if least.isNone && !hasComma then .error .badCount
    else if most.any fun m => m < least.getD 0 || 255 < m then .error .badCount
    else .ok ((least.getD 0, most), rest)

/-- What has been read of an expression. -/
structure Progress where
  /-- What stands in front of the last item. -/
  done : Regex := .empty
  /-- The item that a repetition would apply to. -/
  last : Option Regex := none
  /-- Nothing but the beginning of a line stands in front. -/
  atStart : Bool := true
  /-- How many groups have been opened, and the numbers of those that have been closed. -/
  opened : Nat := 0
  closed : List Nat := []

namespace Progress

/-- All that has been read. -/
def whole (p : Progress) : Regex :=
  match p.last with
  | some r => .sequence p.done r
  | none => p.done

/-- Adds an item. -/
def add (p : Progress) (r : Regex) : Progress :=
  { p with done := p.whole, last := some r, atStart := false }

end Progress

/-- Reads alternatives, up to a closing parenthesis or the end. -/
def readAlternatives (n : Notation) (opened : Nat) (closed : List Nat) (depth : Nat)
    (cs : List Char) : Nat → Except Fault (Progress × List Char)
  | 0 => .error .badCount
  | fuel + 1 => do
    let (first, rest) ← readSequence n depth { opened, closed } cs fuel
    match nextSymbol n rest with
    | some (.operator '|', rest) =>
      let (second, rest) ← readAlternatives n first.opened first.closed depth rest fuel
      return ({ second with done := .either first.whole second.whole, last := none }, rest)
    | _ => return (first, rest)
where
  /-- Reads a sequence. -/
  readSequence (n : Notation) (depth : Nat) (p : Progress) (cs : List Char) :
      Nat → Except Fault (Progress × List Char)
    | 0 => .error .badCount
    | fuel + 1 =>
      let item (r : Regex) (rest : List Char) : Except Fault (Progress × List Char) :=
        readSequence n depth (p.add r) rest fuel
      let again (f : Regex → Regex) (c : Char) (rest : List Char) :
          Except Fault (Progress × List Char) :=
        match p.last with
        | some r => readSequence n depth { p with last := some (f r) } rest fuel
        | none =>
          if n.extended then readSequence n depth p rest fuel else item (literal n c) rest
      match nextSymbol n cs with
      | none => .ok (p, [])
      | some (.literal c, rest) => item (literal n c) rest
      | some (.item r, rest) => item r rest
      | some (.group number, rest) =>
        if p.closed.contains number then item (.again number) rest else .error .unknownGroup
      | some (.operator c, rest) =>
        match c with
        | '\\' => .error .trailingBackslash
        | '.' => item .any rest
        | '^' =>
          if n.extended || p.atStart then
            let p := { p with done := .sequence p.whole .lineStart, last := none }
            readSequence n depth p rest fuel
          else item (literal n c) rest
        | '$' =>
          let isLast := match nextSymbol n rest with
            | none | some (.operator ')', _) | some (.operator '|', _) => true
            | _ => false
          if n.extended || isLast then item .lineEnd rest else item (literal n c) rest
        | '*' => again .star c rest
        | '+' => again (fun r => .sequence r (.star r)) c rest
        | '?' => again (fun r => .either r .empty) c rest
        | '\x7b' =>
          match readTimes n rest with
          | .ok ((least, most), rest) =>
            if p.last.isNone && !n.extended then .error .nothingBefore
            else again (·.times least most) c rest
          | .error e => if n.extended then item (literal n c) rest else .error e
        | '(' => do
          let number := p.opened + 1
          let (inner, rest) ← readAlternatives n number p.closed (depth + 1) rest fuel
          match nextSymbol n rest with
          | some (.operator ')', rest) =>
            let p := { p with opened := inner.opened, closed := number :: inner.closed }
            readSequence n depth (p.add (.group number inner.whole)) rest fuel
          | _ => .error .openParenthesis
        | ')' =>
          if depth > 0 then .ok (p, cs)
          else if n.extended then item (literal n c) rest
          else .error .closedParenthesis
        | '[' => do
          let (outside, members) := match rest with
            | '^' :: members => (true, members)
            | members => (false, members)
          let (test, rest) ← readMembers n true (fun _ => false) members (members.length + 1)
          let test := if n.ignoreCase then fun c => test c.toLower || test c.toUpper else test
          item (.among fun c => test c != outside) rest
        | '|' => .ok (p, cs)
        | _ => item (literal n c) rest

/-- The expression that a text is the notation of. -/
def ofText (n : Notation) (text : String) : Except Fault Regex := do
  let (p, _) ← readAlternatives n 0 [] 0 text.toList (4 * text.length + 4)
  return p.whole

end Regex

end CommandShell
