import CommandShell.Program.Condition
import CommandShell.Script.Env

/-!
# Tests

The built-in commands `test` and `[`. A word is an operator or an operand depending on the words
after it, and both sides of every operator are looked at, from the left, so that what is wrong with
one of them shows in any case. With three words, of which the middle one compares, the others are
operands whatever they look like.
-/

namespace CommandShell

namespace Script

open Numeral

namespace Test

/-- The questions about one word. -/
def unaryOperators : List String :=
  ["-r", "-w", "-x", "-e", "-f", "-d", "-c", "-b", "-p", "-u", "-g", "-k", "-s", "-t", "-z", "-n",
   "-h", "-O", "-G", "-L", "-S"]

/-- The comparisons of two words. -/
def binaryOperators : List String :=
  ["=", "!=", "<", ">", "-eq", "-ne", "-ge", "-gt", "-le", "-lt", "-nt", "-ot", "-ef"]

/-- What a word is. -/
inductive Kind
  | unary (operator : String)
  | binary (operator : String)
  | not | and | or | opening | closing | operand | ending
  deriving DecidableEq

/-- The word after a question is what it is about. -/
def hasOperand : List String → Bool
  | [] | [_] => false
  | [_, _] => true
  | _ :: next :: _ :: _ => !binaryOperators.contains next

/-- What the first of these words is. -/
def kindOf (words : List String) : Kind :=
  match words with
  | [] => .ending
  | word :: rest =>
    if unaryOperators.contains word then if hasOperand words then .unary word else .operand
    else if binaryOperators.contains word then .binary word
    else
      match word with
      | "!" => .not
      | "-a" => .and
      | "-o" => .or
      | "(" => if rest.isEmpty then .operand else .opening
      | ")" => .closing
      | _ => .operand

/-- A part of a test, which reads words from the left. -/
abbrev Testing := StateT (List String) Run

/-- Reports a word that is out of place, and gives up. -/
def wrong {α : Type} (word reason : String) : Testing α :=
  fault (if word.isEmpty then reason else word ++ ": " ++ reason)

/-- A word as a number. -/
def number (word : String) : Testing Int :=
  match decimalNumber? word with
  | some n => return n
  | none => fault ("Illegal number: " ++ word)

/-- Answers a question about a word. -/
def unary (operator word : String) : Testing Bool := do
  if operator = "-t" then
    let _ ← number word
    return false
  else
    let answer ← (liftM (Program.askUnary operator (pathOf word) : Dialogue Syscalls _) : Run _)
    return match answer with
      | .ok holds => holds
      | .error _ => false

/-- Compares two words. -/
def binary (operator a b : String) : Testing Bool := do
  let numbers (compare : Int → Int → Bool) : Testing Bool := do
    let m ← number a
    let n ← number b
    return compare m n
  match operator with
  | "=" => return a == b
  | "!=" => return a != b
  | "<" => return a < b
  | ">" => return b < a
  | "-eq" => numbers (· == ·)
  | "-ne" => numbers (· != ·)
  | "-ge" => numbers (· ≥ ·)
  | "-gt" => numbers (· > ·)
  | "-le" => numbers (· ≤ ·)
  | "-lt" => numbers (· < ·)
  | "-ef" =>
    let inspect (path : String) : Run (Except Errno FileKind) := ask (.inspect (pathOf path) true)
    match ← inspect a, ← inspect b with
    | .ok m, .ok n => return m.node == n.node
    | _, _ => return false
  | _ => return false

/-- Goes on behind so many words. -/
def skip (n : Nat) : Testing Unit :=
  modify (·.drop n)

mutual

/-- Reads alternatives. The first word is of a kind, and the last one is not passed over. -/
def alternatives (first : Kind) (sofar : Bool) : Nat → Testing Bool
  | 0 => return sofar
  | fuel + 1 => do
    let holds ← conjunction first true fuel
    if kindOf ((← get).drop 1) = .or then
      skip 2
      alternatives (kindOf (← get)) (sofar || holds) fuel
    else return sofar || holds

/-- Reads conjunctions. -/
def conjunction (first : Kind) (sofar : Bool) : Nat → Testing Bool
  | 0 => return sofar
  | fuel + 1 => do
    let holds ← negation first fuel
    if kindOf ((← get).drop 1) = .and then
      skip 2
      conjunction (kindOf (← get)) (sofar && holds) fuel
    else return sofar && holds

/-- Reads something that may be negated. -/
def negation (first : Kind) : Nat → Testing Bool
  | 0 => return false
  | fuel + 1 => do
    if first = .not then
      let next := kindOf ((← get).drop 1)
      if next ≠ .ending then skip 1
      return !(← negation next fuel)
    else primary first fuel

/-- Reads a question, a comparison, a word, or something in parentheses. -/
def primary (first : Kind) : Nat → Testing Bool
  | 0 => return false
  | fuel + 1 => do
    match first with
    | .ending => return false
    | .opening =>
      skip 1
      match kindOf (← get) with
      | .closing => return false
      | next =>
        let holds ← alternatives next false fuel
        skip 1
        if kindOf (← get) = .closing then return holds
        else wrong "" "closing paren expected"
    | .unary operator =>
      skip 1
      match (← get).head? with
      | some word => unary operator word
      | none => wrong operator "argument expected"
    | _ =>
      match ← get with
      | [] => return false
      | word :: rest =>
        match kindOf rest with
        | .binary operator =>
          skip 2
          match (← get).head? with
          | some other => binary operator word other
          | none => wrong operator "argument expected"
        | _ => return !word.isEmpty

end

/-- Answers a test of some words. -/
def answer (words : List String) : Run Bool := do
  let depth := 4 * words.length + 8
  let evaluate (words : List String) (first : Kind) : Run Bool := do
    let (holds, rest) ← (alternatives first false depth).run words
    match rest with
    | word :: _ :: _ => fault (word ++ ": unexpected operator")
    | _ => return holds
  let stripped (words : List String) : Run Bool := do
    match words with
    | "!" :: rest => return !(← evaluate rest (kindOf rest))
    | _ =>
      if words.head? = some "(" && words.getLast? = some ")" then
        let inner := (words.drop 1).dropLast
        evaluate inner (kindOf inner)
      else evaluate words (kindOf words)
  match words with
  | [] => return false
  | [_, operator, _] =>
    if binaryOperators.contains operator then evaluate words .operand else stripped words
  | [_, _, _, _] => stripped words
  | _ => evaluate words (kindOf words)

end Test

/-- Answers a test. After a bracket the last word has to close it. -/
def test (bracket : Bool) (words : List String) : Run Nat := do
  if bracket && words.getLast? ≠ some "]" then fault "missing ]"
  return if ← Test.answer (if bracket then words.dropLast else words) then 0 else 1

end Script

end CommandShell
