import CommandShell.Program.Basic

/-!
# Conditions

The conditions of `test` and `[`, which a script can also use without starting a process. A
`Condition` is one comparison or one question about a file, or made of others by `!`, `-a`, `-o` and
parentheses. What a list of words means depends on how many there are: with up to four, an operator
in its place is an operator even if the words around it look like one too.
-/

namespace CommandShell

namespace Program

/-- A question about one word. -/
def unaryOperators : List String :=
  ["-n", "-z", "-e", "-f", "-d", "-h", "-L", "-s", "-r", "-w", "-x", "-t", "-b", "-c", "-p", "-S",
   "-u", "-g", "-k", "-O", "-G"]

/-- A comparison of two words. -/
def binaryOperators : List String :=
  ["=", "==", "!=", "-eq", "-ne", "-lt", "-le", "-gt", "-ge", "-nt", "-ot", "-ef"]

/-- A condition. -/
inductive Condition
  | nonempty (word : String)
  | unary (operator word : String)
  | binary (left operator right : String)
  | negation (c : Condition)
  | both (a b : Condition)
  | either (a b : Condition)
  | never

/-- What is wrong with a condition. -/
inductive ConditionError
  | badNumber (word : String)
  | extra (word : String)
  | missingAfter (word : String)
  | notUnary (word : String)
  | notBinary (word : String)
  | expected (word : String)
  | expectedInstead (word found : String)
  | missingBracket

/-- The wording of a wrong condition. -/
def ConditionError.message : ConditionError → String
  | .badNumber word => "invalid integer " ++ cite word
  | .extra word => "extra argument " ++ cite word
  | .missingAfter word => "missing argument after " ++ cite word
  | .notUnary word => cite word ++ ": unary operator expected"
  | .notBinary word => cite word ++ ": binary operator expected"
  | .expected word => cite word ++ " expected"
  | .expectedInstead word found => cite word ++ " expected, found " ++ cite found
  | .missingBracket => "missing ']'"

/-- A condition that has been read, and the words after it. -/
abbrev ConditionResult := Except ConditionError (Condition × List String)

/-- A word looks like a question: a hyphen and one character. -/
def looksUnary (word : String) : Bool :=
  word.length = 2 && word.startsWith "-"

/-- Reads a question about a word. -/
def readUnary (final : String) (words : List String) : ConditionResult :=
  match words with
  | operator :: rest =>
    if !unaryOperators.contains operator then .error (.notUnary operator)
    else
      match rest with
      | [] => .error (.missingAfter final)
      | word :: rest => .ok (.unary operator word, rest)
  | [] => .error (.missingAfter final)

/-- Reads the condition of so few words that their number alone tells what they mean, or else the
whole of a condition by `read`. `final` is the last word of all. -/
def readShort (final : String) (read : List String → ConditionResult) (words : List String)
    (count : Nat) : ConditionResult :=
  let one (words : List String) : ConditionResult :=
    match words with
    | word :: rest => .ok (.nonempty word, rest)
    | [] => .error (.missingAfter final)
  let two (words : List String) : ConditionResult :=
    match words with
    | "!" :: word :: rest => .ok (.negation (.nonempty word), rest)
    | a :: _ => if looksUnary a then readUnary final words else .error (.missingAfter final)
    | [] => .error (.missingAfter final)
  let three (words : List String) : ConditionResult :=
    match words with
    | a :: operator :: b :: rest =>
      if binaryOperators.contains operator then .ok (.binary a operator b, rest)
      else if a = "!" then do
        let (c, rest) ← two (operator :: b :: rest)
        return (.negation c, rest)
      else if a = "(" && b = ")" then .ok (.nonempty operator, rest)
      else if operator = "-a" || operator = "-o" then read words
      else .error (.notBinary operator)
    | _ => .error (.missingAfter final)
  match count, words with
  | 0, _ => .ok (.never, words)
  | 1, _ => one words
  | 2, _ => two words
  | 3, _ => three words
  | 4, "!" :: rest => do
    let (c, rest) ← three rest
    return (.negation c, rest)
  | 4, ["(", a, b, ")"] => do
    let (c, _) ← two [a, b]
    return (c, [])
  | _, _ => read words

/-- The grammar of conditions: alternatives of conjunctions of possibly negated questions. -/
inductive ConditionLevel
  | either
  | both
  | single

/-- Reads a condition. -/
def readLevel (final : String) (level : ConditionLevel) (words : List String) :
    Nat → ConditionResult
  | 0 => .error (.missingAfter final)
  | fuel + 1 =>
    match level with
    | .either => do
      let (a, rest) ← readLevel final .both words fuel
      match rest with
      | "-o" :: rest =>
        let (b, rest) ← readLevel final .either rest fuel
        return (.either a b, rest)
      | rest => return (a, rest)
    | .both => do
      let (a, rest) ← readLevel final .single words fuel
      match rest with
      | "-a" :: rest =>
        let (b, rest) ← readLevel final .both rest fuel
        return (.both a b, rest)
      | rest => return (a, rest)
    | .single =>
      match words with
      | [] => .error (.missingAfter final)
      | "!" :: rest => do
        let (c, rest) ← readLevel final .single rest fuel
        return (.negation c, rest)
      | "(" :: rest => do
        if rest.isEmpty then .error (.missingAfter final)
        let inner := (rest.takeWhile (· != ")")).length
        let count := if inner = 0 then 1 else if inner > 4 then rest.length else inner
        let (c, rest) ← readShort final (readLevel final .either · fuel) rest count
        match rest with
        | ")" :: rest => return (c, rest)
        | word :: _ => .error (.expectedInstead ")" word)
        | [] => .error (.expected ")")
      | a :: operator :: b :: rest =>
        if binaryOperators.contains operator then .ok (.binary a operator b, rest)
        else if looksUnary a then readUnary final words
        else .ok (.nonempty a, operator :: b :: rest)
      | a :: rest => if looksUnary a then readUnary final words else .ok (.nonempty a, rest)

/-- The condition that words stand for. -/
def readCondition (words : List String) : Except ConditionError Condition := do
  let final := words.getLast?.getD ""
  let read (words : List String) : ConditionResult :=
    readLevel final .either words (4 * words.length + 4)
  let (c, rest) ← readShort final read words words.length
  match rest with
  | [] => return c
  | word :: _ => .error (.extra word)

/-- A number in a condition. -/
def conditionNumber (word : String) : Except ConditionError Int :=
  let trimmed := word.trimAscii.toString
  let unsigned := if trimmed.startsWith "+" then (trimmed.drop 1).toString else trimmed
  match unsigned.toInt? with
  | some n => .ok n
  | none => .error (.badNumber word)

/-- What an operator asks whether it can be done with a file. -/
def accessRight? : String → Option Disk.Right
  | "-r" => some .read
  | "-w" => some .write
  | "-x" => some .execute
  | _ => none

/-- Answers a question about a file or a word. -/
def askUnary (operator word : String) : Step (Except ConditionError Bool) := do
  if operator = "-n" then return .ok !word.isEmpty
  else if operator = "-z" then return .ok word.isEmpty
  else if operator = "-t" then return (conditionNumber word).map fun _ => false
  else if let some right := accessRight? operator then
    return .ok (← call (.access word [right])).toBool
  else
    match ← call (.inspect word (operator ≠ "-h" && operator ≠ "-L")) with
    | .error _ => return .ok false
    | .ok kind =>
      let answer := match operator, kind with
        | "-e", _ | "-O", _ | "-G", _ => true
        | "-f", .regular _ _ _ => true
        | "-d", .directory _ _ => true
        | "-h", .link _ | "-L", .link _ => true
        | "-s", .regular _ size _ => size > 0
        | "-s", .directory _ _ => true
        | "-p", .pipe _ => true
        | "-c", .device _ => true
        | _, _ => false
      return .ok answer

/-- Answers a comparison. -/
def askBinary (left operator right : String) : Step (Except ConditionError Bool) := do
  let numbers (test : Int → Int → Bool) : Except ConditionError Bool := do
    return test (← conditionNumber left) (← conditionNumber right)
  match operator with
  | "=" | "==" => return .ok (left == right)
  | "!=" => return .ok (left != right)
  | "-eq" => return numbers (· == ·)
  | "-ne" => return numbers (· != ·)
  | "-lt" => return numbers (· < ·)
  | "-le" => return numbers (· ≤ ·)
  | "-gt" => return numbers (· > ·)
  | "-ge" => return numbers (· ≥ ·)
  | "-ef" => do
    match ← call (.inspect left true), ← call (.inspect right true) with
    | .ok a, .ok b => return .ok (a.node == b.node)
    | _, _ => return .ok false
  | _ => return .ok false

/-- Finds out whether a condition holds. -/
def Condition.holds : Condition → Step (Except ConditionError Bool)
  | .never => .done (.ok false)
  | .nonempty word => .done (.ok !word.isEmpty)
  | .unary operator word => askUnary operator word
  | .binary left operator right => askBinary left operator right
  | .negation c => do return (← c.holds).map (!·)
  | .both a b => do
    match ← a.holds with
    | .ok true => b.holds
    | result => return result
  | .either a b => do
    match ← a.holds with
    | .ok false => b.holds
    | result => return result

/-- Finds out whether the words of a condition hold. The last word has to be a `]` if the program
was called by `[`. -/
def decideCondition (bracket : Bool) (words : List String) : Step (Except ConditionError Bool) := do
  if bracket && words.getLast? ≠ some "]" then return .error .missingBracket
  else
    match readCondition (if bracket then words.dropLast else words) with
    | .error e => return .error e
    | .ok c => c.holds

/-- Tells whether a condition holds. -/
def test : Program := fun argv _ => do
  let name := argv.headD "test"
  match ← decideCondition (baseName name == "[") (argv.drop 1) with
  | .ok true => return 0
  | .ok false => return 1
  | .error e =>
    complain (name ++ ": " ++ e.message ++ "\n")
    return 2

end Program

end CommandShell
