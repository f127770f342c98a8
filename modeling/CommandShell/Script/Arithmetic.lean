import CommandShell.Text.Numeral

/-!
# Arithmetic expressions

The expressions of a script, whose numbers are words of 64 bits that wrap around. `Expression.read`
reads one from a text and `Expression.value` computes it; a variable that it names holds a numeral,
and the value of an assignment is kept for those who want to carry it out. What an operator does not
need is not computed.

A text is computed as it is read, so of two mistakes in it the first one counts, whether it lies in
a value or in the text. Reading therefore gives an expression for every text: where the text makes
no sense any more the expression is `broken`, and `Expression.flaw?` finds that in it.
-/

namespace CommandShell

namespace Script

open Numeral

/-! ## Variables -/

/-- The number that the value of a variable stands for. Nothing stands for zero. -/
def variableNumber? (value : String) : Option Int64 :=
  match readSigned? value.toList with
  | none => if value.toList.all isBlank then some 0 else none
  | some (n, rest) =>
    if rest.all isBlank && least ≤ n && n ≤ greatest then some (Int64.ofInt n) else none

/-! ## Expressions -/

/-- An operator between two numbers. -/
inductive Operator
  | times | dividedBy | modulo | plus | minus | shiftLeft | shiftRight
  | less | lessEqual | greater | greaterEqual | equal | unequal
  | bitAnd | bitXor | bitOr
  deriving DecidableEq, Repr

namespace Operator

/-- How tightly an operator binds; the least number binds the tightest. -/
def rank : Operator → Nat
  | .times | .dividedBy | .modulo => 0
  | .plus | .minus => 1
  | .shiftLeft | .shiftRight => 2
  | .less | .lessEqual | .greater | .greaterEqual => 3
  | .equal | .unequal => 4
  | .bitAnd => 5
  | .bitXor => 6
  | .bitOr => 7

/-- A truth value as a number. -/
def ofBool (b : Bool) : Int64 :=
  if b then 1 else 0

/-- What an operator makes of two numbers. There is no quotient by zero. -/
def result? : Operator → Int64 → Int64 → Option Int64
  | .times, a, b => some (a * b)
  | .dividedBy, a, b => if b = 0 then none else some (a / b)
  | .modulo, a, b => if b = 0 then none else some (a % b)
  | .plus, a, b => some (a + b)
  | .minus, a, b => some (a - b)
  | .shiftLeft, a, b => some (a <<< b)
  | .shiftRight, a, b => some (a >>> b)
  | .less, a, b => some (ofBool (a < b))
  | .lessEqual, a, b => some (ofBool (a ≤ b))
  | .greater, a, b => some (ofBool (b < a))
  | .greaterEqual, a, b => some (ofBool (b ≤ a))
  | .equal, a, b => some (ofBool (a == b))
  | .unequal, a, b => some (ofBool (a != b))
  | .bitAnd, a, b => some (a &&& b)
  | .bitXor, a, b => some (a ^^^ b)
  | .bitOr, a, b => some (a ||| b)

end Operator

/-- What is wrong with an expression. -/
inductive ArithmeticError
  | expectingPrimary
  | expectingEnd
  | expectingClosing
  | expectingColon
  | divisionByZero
  /-- The value of a variable is no number. -/
  | badNumber (value : String)

/-- An arithmetic expression. -/
inductive Expression
  | number (n : Int64)
  | named (name : String)
  | negative (e : Expression)
  | not (e : Expression)
  | complement (e : Expression)
  | binary (operator : Operator) (a b : Expression)
  | and (a b : Expression)
  | or (a b : Expression)
  | choice (condition yes no : Expression)
  /-- A variable gets a value, which an operator may have joined to the one it has. -/
  | assign (name : String) (operator : Option Operator) (e : Expression)
  /-- The text makes no sense behind `e`. -/
  | broken (e : Expression) (reason : ArithmeticError)

/-- The wording of an error in the expression `source`. -/
def ArithmeticError.message (source : String) : ArithmeticError → String
  | .expectingPrimary => about "expecting primary"
  | .expectingEnd => about "expecting EOF"
  | .expectingClosing => about "expecting ')'"
  | .expectingColon => about "expecting ':'"
  | .divisionByZero => about "division by zero"
  | .badNumber value => "Illegal number: " ++ value
where
  /-- The wording with the expression that it is about. -/
  about (reason : String) : String :=
    "arithmetic expression: " ++ reason ++ ": \"" ++ source ++ "\""

namespace Expression

/-! ## Reading -/

/-- The signs of the operators. Longer ones come before those that they begin with. -/
def signs : List (String × Operator) :=
  [("<<", .shiftLeft), (">>", .shiftRight), ("<=", .lessEqual), (">=", .greaterEqual),
   ("==", .equal), ("!=", .unequal), ("<", .less), (">", .greater), ("*", .times),
   ("/", .dividedBy), ("%", .modulo), ("+", .plus), ("-", .minus), ("&", .bitAnd), ("^", .bitXor),
   ("|", .bitOr)]

/-- What comes after a sign at the beginning of a text. -/
def after? (sign : String) (cs : List Char) : Option (List Char) :=
  if sign.toList.isPrefixOf cs then some (cs.drop sign.length) else none

/-- A text without the blanks at its beginning. -/
def trim (cs : List Char) : List Char :=
  cs.dropWhile fun c => c == ' ' || c == '\t' || c == '\n'

/-- The operator at the beginning of a text, and what comes after it. Assignments and the operators
on truth values are none. -/
def readOperator? (cs : List Char) : Option (Operator × List Char) :=
  if (after? "&&" cs).isSome || (after? "||" cs).isSome then none
  else signs.findSome? fun (sign, operator) => (after? sign cs).map fun rest => (operator, rest)

/-- The operator of an assignment, if it has one, and what comes after the sign. -/
def readAssignment? (cs : List Char) : Option (Option Operator × List Char) :=
  match cs with
  | '=' :: '=' :: _ => none
  | '=' :: rest => some (none, rest)
  | _ => do
    let (operator, rest) ← readOperator? cs
    if operator.rank = 3 || operator.rank = 4 then none
    else
      match rest with
      | '=' :: rest => some (some operator, rest)
      | _ => none

/-- A character of the name of a variable. -/
def isNameChar (c : Char) : Bool :=
  c.isAlphanum || c == '_'

/-- What has been read, and what is left of the text. -/
abbrev Reading := Expression × List Char

/-- The text makes no sense behind what has been read, so the rest of it is not looked at. -/
def giveUp (e : Expression) (reason : ArithmeticError) : Reading :=
  (.broken e reason, [])

mutual

/-- Reads an expression that may assign. -/
def readAny (cs : List Char) : Nat → Reading
  | 0 => giveUp (.number 0) .expectingPrimary
  | fuel + 1 =>
    let cs := trim cs
    let name := cs.takeWhile isNameChar
    let isName := cs.head?.any fun c => isNameChar c && !c.isDigit
    match if isName then readAssignment? (trim (cs.drop name.length)) else none with
    | some (operator, rest) =>
      let (e, rest) := readAny rest fuel
      (.assign (String.ofList name) operator e, rest)
    | none => readChoice cs fuel

/-- Reads an expression that does not assign, except in its parentheses and between the signs of a
choice. -/
def readChoice (cs : List Char) : Nat → Reading
  | 0 => giveUp (.number 0) .expectingPrimary
  | fuel + 1 =>
    let (condition, rest) := readOr cs fuel
    match trim rest with
    | '?' :: rest =>
      let (yes, rest) := readAny rest fuel
      match trim rest with
      | ':' :: rest =>
        let (no, rest) := readChoice rest fuel
        (.choice condition yes no, rest)
      | _ => giveUp (.choice condition yes (.number 0)) .expectingColon
    | rest => (condition, rest)

/-- Reads alternatives. -/
def readOr (cs : List Char) : Nat → Reading
  | 0 => giveUp (.number 0) .expectingPrimary
  | fuel + 1 =>
    let (a, rest) := readAnd cs fuel
    match after? "||" (trim rest) with
    | some rest =>
      let (b, rest) := readOr rest fuel
      (.or a b, rest)
    | none => (a, rest)

/-- Reads conjunctions. -/
def readAnd (cs : List Char) : Nat → Reading
  | 0 => giveUp (.number 0) .expectingPrimary
  | fuel + 1 =>
    let (first, rest) := readPrimary cs fuel
    let (a, rest) := readBinary first 8 rest fuel
    match after? "&&" (trim rest) with
    | some rest =>
      let (b, rest) := readAnd rest fuel
      (.and a b, rest)
    | none => (a, rest)

/-- Goes on behind `a` with operators that bind more tightly than `rank`. -/
def readBinary (a : Expression) (rank : Nat) (cs : List Char) : Nat → Reading
  | 0 => giveUp a .expectingPrimary
  | fuel + 1 =>
    let cs := trim cs
    match readOperator? cs with
    | some (operator, rest) =>
      if (readAssignment? cs).isSome || operator.rank ≥ rank then (a, cs)
      else
        let (b, rest) := readPrimary rest fuel
        let (b, rest) := readBinary b operator.rank rest fuel
        readBinary (.binary operator a b) rank rest fuel
    | none => (a, cs)

/-- Reads a number, a variable, an expression in parentheses, or one of these behind signs. -/
def readPrimary (cs : List Char) : Nat → Reading
  | 0 => giveUp (.number 0) .expectingPrimary
  | fuel + 1 =>
    match trim cs with
    | '(' :: rest =>
      let (e, rest) := readAny rest fuel
      match trim rest with
      | ')' :: rest => (e, rest)
      | _ => giveUp e .expectingClosing
    | '+' :: rest => readPrimary rest fuel
    | '-' :: rest =>
      let (e, rest) := readPrimary rest fuel
      (.negative e, rest)
    | '!' :: rest =>
      let (e, rest) := readPrimary rest fuel
      (.not e, rest)
    | '~' :: rest =>
      let (e, rest) := readPrimary rest fuel
      (.complement e, rest)
    | cs =>
      match readUnsigned? cs with
      | some (n, rest) => (.number (Int64.ofInt (min (n : Int) greatest)), rest)
      | none =>
        let name := cs.takeWhile isNameChar
        if name.isEmpty then giveUp (.number 0) .expectingPrimary
        else (.named (String.ofList name), cs.drop name.length)

end

/-- Reads the expression that a text is. -/
def read (source : String) : Expression :=
  let (e, rest) := readAny source.toList (8 * source.length + 16)
  if (trim rest).isEmpty then e else .broken e .expectingEnd

/-- Why the text of an expression makes no sense from some place on. -/
def flaw? : Expression → Option ArithmeticError
  | .number _ | .named _ => none
  | .negative e | .not e | .complement e | .assign _ _ e => e.flaw?
  | .binary _ a b | .and a b | .or a b => a.flaw? <|> b.flaw?
  | .choice condition yes no => condition.flaw? <|> yes.flaw? <|> no.flaw?
  | .broken e reason => e.flaw? <|> some reason

/-! ## Computing -/

/-- The values that variables have got, the last first. -/
abbrev Assigned := List (String × Int64)

/-- Computes an expression. `lookup` gives the values that variables have to begin with. -/
def value (lookup : String → String) : Expression →
    StateT Assigned (Except ArithmeticError) Int64
  | .number n => pure n
  | .named name => current name
  | .negative e => do return -(← e.value lookup)
  | .not e => do return Operator.ofBool ((← e.value lookup) == 0)
  | .complement e => do return ~~~(← e.value lookup)
  | .binary operator a b => do
    let x ← a.value lookup
    let y ← b.value lookup
    combine operator x y
  | .and a b => do
    if (← a.value lookup) == 0 then passOver b 0
    else return Operator.ofBool ((← b.value lookup) != 0)
  | .or a b => do
    if (← a.value lookup) != 0 then passOver b 1
    else return Operator.ofBool ((← b.value lookup) != 0)
  | .choice condition yes no => do
    if (← condition.value lookup) != 0 then passOver no (← yes.value lookup)
    else
      let _ ← passOver yes 0
      no.value lookup
  | .assign name operator e => do
    let n ← e.value lookup
    let n ← match operator with
      | some operator => do combine operator (← current name) n
      | none => pure n
    modify ((name, n) :: ·)
    return n
  | .broken e reason => do
    let _ ← e.value lookup
    throw reason
where
  /-- The number that a variable holds. -/
  current (name : String) : StateT Assigned (Except ArithmeticError) Int64 := do
    match (← get).lookup name with
    | some n => return n
    | none =>
      match variableNumber? (lookup name) with
      | some n => return n
      | none => throw (.badNumber (lookup name))
  /-- What an operator makes of two numbers. -/
  combine (operator : Operator) (x y : Int64) : StateT Assigned (Except ArithmeticError) Int64 :=
    match operator.result? x y with
    | some n => return n
    | none => throw .divisionByZero
  /-- The value of an expression of which the part `e` is not needed. -/
  passOver (e : Expression) (n : Int64) : StateT Assigned (Except ArithmeticError) Int64 :=
    match e.flaw? with
    | some reason => throw reason
    | none => return n

end Expression

end Script

end CommandShell
