import CommandShell.Text.Regex

/-!
# Procedures

A procedure is a program of statements and expressions, in the notation that the machine's `perl`
understands: scalar variables, tests, loops, file handles for reading and making files, and calls of
the system. `Procedure.readProgram` reads a program from its tokens; whatever lies outside this
notation is not read at all.
-/

namespace CommandShell

namespace Procedure

/-- An expression. -/
inductive Expr
  | text (s : String)
  /-- Texts with the values of expressions put in between. -/
  | joined (parts : List Expr)
  | variable (name : String)
  /-- An argument of the program. -/
  | argument (index : Expr)
  /-- The next line from a file handle. -/
  | line (handle : String)
  | negation (e : Expr)
  /-- A question about the file of a name. -/
  | fileTest (letter : Char) (e : Expr)
  | binary (operator : String) (a b : Expr)
  | fits (e : Expr) (r : Regex)
  | assign (name : String) (e : Expr)
  | call (name : String) (arguments : List Expr)

/-- A statement. -/
inductive Statement
  | run (e : Expr)
  | choice (condition : Expr) (yes no : List Statement)
  /-- The body runs for as long as the condition is true, or false. -/
  | loop (whileFalse : Bool) (condition : Expr) (body : List Statement)
  | leave
  | again

/-! ## Tokens -/

/-- A token. -/
inductive Token
  | name (s : String)
  | variable (s : String)
  | number (s : String)
  /-- A text in which variables are replaced. -/
  | template (s : String)
  /-- A text as it stands. -/
  | verbatim (s : String)
  | pattern (s : String)
  | handle (s : String)
  | sign (s : String)
  deriving DecidableEq

/-- A character of a name. -/
def isNameChar (c : Char) : Bool :=
  c.isAlphanum || c == '_'

/-- The characters up to a closing one, in which a backslash hides the next character, and those
after it. -/
def readUpTo (closing : Char) : List Char → Option (List Char × List Char)
  | [] => none
  | '\\' :: c :: rest => (readUpTo closing rest).map fun (s, rest) => ('\\' :: c :: s, rest)
  | c :: rest =>
    if c = closing then some ([], rest)
    else (readUpTo closing rest).map fun (s, rest) => (c :: s, rest)

/-- The signs of more than one character. -/
def longSigns : List String :=
  ["=~", "!~", "==", "!=", "<=", ">=", "&&", "||", "++", "+=", "-=", ".="]

/-- The tokens of a text. -/
def tokens (cs : List Char) (done : List Token) : Nat → Option (List Token)
  | 0 => none
  | fuel + 1 =>
    let go (rest : List Char) (t : Token) := tokens rest (t :: done) fuel
    match cs with
    | [] => some done.reverse
    | '#' :: rest => tokens (rest.dropWhile (· != '\n')) done fuel
    | '"' :: rest => do
      let (s, rest) ← readUpTo '"' rest
      go rest (.template (String.ofList s))
    | '\'' :: rest => do
      let (s, rest) ← readUpTo '\'' rest
      go rest (.verbatim (String.ofList s))
    | '$' :: '$' :: rest => go rest (.variable "$")
    | '$' :: rest =>
      let name := rest.takeWhile isNameChar
      if name.isEmpty then go (rest.drop 1) (.variable (String.ofList (rest.take 1)))
      else go (rest.drop name.length) (.variable (String.ofList name))
    | '/' :: rest => do
      -- a slash after the sign for fitting opens a pattern
      match done with
      | .sign "=~" :: _ | .sign "!~" :: _ =>
        let (s, rest) ← readUpTo '/' rest
        go rest (.pattern (String.ofList s))
      | _ => go rest (.sign "/")
    | c :: rest =>
      if c.isWhitespace then tokens rest done fuel
      else if c.isDigit then
        let digits := cs.takeWhile fun d => d.isDigit || d == '.'
        go (cs.drop digits.length) (.number (String.ofList digits))
      else if isNameChar c then
        let name := cs.takeWhile isNameChar
        go (cs.drop name.length) (.name (String.ofList name))
      else
        let two := String.ofList (cs.take 2)
        if longSigns.contains two then go (cs.drop 2) (.sign two)
        else
          let inside := rest.takeWhile isNameChar
          if c = '<' && !inside.isEmpty && (rest.drop inside.length).head? = some '>' then
            go (rest.drop (inside.length + 1)) (.handle (String.ofList inside))
          else go rest (.sign c.toString)

/-! ## Reading -/

/-- The parts of a text in which variables are replaced. -/
def templateParts (plain : List Char) (cs : List Char) : Nat → List Expr
  | 0 => []
  | fuel + 1 =>
    let closed : List Expr := if plain.isEmpty then [] else [.text (String.ofList plain.reverse)]
    match cs with
    | [] => closed
    | '\\' :: 'n' :: rest => templateParts ('\n' :: plain) rest fuel
    | '\\' :: 't' :: rest => templateParts ('\t' :: plain) rest fuel
    | '\\' :: c :: rest => templateParts (c :: plain) rest fuel
    | '$' :: '$' :: rest => closed ++ .variable "$" :: templateParts [] rest fuel
    | '$' :: rest =>
      let name := rest.takeWhile isNameChar
      if name.isEmpty then templateParts ('$' :: plain) rest fuel
      else
        closed ++ .variable (String.ofList name) :: templateParts [] (rest.drop name.length) fuel
    | c :: rest => templateParts (c :: plain) rest fuel

/-- The functions that take no arguments. -/
def nullary : List String := ["fork", "wait", "getppid", "undef", "time"]

/-- The words that end the arguments of a function. -/
def closers : List String := ["if", "unless", "while", "until", "and", "or", "eq", "ne", "x"]

/-- The operators of each level, those that bind most loosely first. -/
def levels : List (List String) :=
  [["or"], ["and"], ["||"], ["&&"], ["==", "!=", "eq", "ne"], ["<", ">", "<=", ">="],
   ["+", "-", "."], ["*", "/", "%"]]

/-- The operator that a token is, if it is one. -/
def operator? : Token → Option String
  | .sign s => some s
  | .name s => if ["or", "and", "eq", "ne"].contains s then some s else none
  | _ => none

/-- The arguments of a function end before this token. -/
def endsArguments : Token → Bool
  | .sign s => s == ";" || s == ")" || s == "\x7d" || s == "]"
  | .name s => closers.contains s
  | _ => false

mutual

/-- Reads an expression of the given levels. -/
def readExpr (operators : List (List String)) (ts : List Token) :
    Nat → Option (Expr × List Token)
  | 0 => none
  | fuel + 1 =>
    match operators with
    | [] => readUnary ts fuel
    | level :: tighter => do
      let (first, rest) ← readExpr tighter ts fuel
      readFurther level tighter first rest fuel

/-- Reads the further operands of a level. -/
def readFurther (level : List String) (tighter : List (List String)) (first : Expr)
    (ts : List Token) : Nat → Option (Expr × List Token)
  | 0 => none
  | fuel + 1 =>
    match ts with
    | t :: rest =>
      match operator? t with
      | some s =>
        if level.contains s then do
          let (second, rest) ← readExpr tighter rest fuel
          readFurther level tighter (.binary s first second) rest fuel
        else some (first, ts)
      | none => some (first, ts)
    | [] => some (first, [])

/-- Reads an operand and what it is held against. -/
def readUnary (ts : List Token) : Nat → Option (Expr × List Token)
  | 0 => none
  | fuel + 1 => do
    match ts with
    | .sign "!" :: rest =>
      let (e, rest) ← readUnary rest fuel
      return (.negation e, rest)
    | .sign "-" :: .name letter :: rest =>
      let (e, rest) ← readUnary rest fuel
      return (.fileTest (letter.toList.headD 'e') e, rest)
    | .sign "-" :: rest =>
      let (e, rest) ← readUnary rest fuel
      return (.binary "-" (.text "0") e, rest)
    | _ =>
      let (e, rest) ← readPrimary ts fuel
      match rest with
      | .sign "=~" :: .pattern p :: rest =>
        return (.fits e (← (Regex.ofText { letters := true } p).toOption), rest)
      | .sign "!~" :: .pattern p :: rest =>
        return (.negation (.fits e (← (Regex.ofText { letters := true } p).toOption)), rest)
      | _ => return (e, rest)

/-- Reads what stands for a value by itself. -/
def readPrimary (ts : List Token) : Nat → Option (Expr × List Token)
  | 0 => none
  | fuel + 1 =>
    match ts with
    | .number s :: rest | .verbatim s :: rest => some (.text s, rest)
    | .template s :: rest => some (.joined (templateParts [] s.toList (s.length + 1)), rest)
    | .handle s :: rest => some (.line s, rest)
    | .name "my" :: rest => readPrimary rest fuel
    | .variable "ARGV" :: .sign "[" :: rest => do
      let (index, rest) ← readExpr levels rest fuel
      match rest with
      | .sign "]" :: rest => return (.argument index, rest)
      | _ => none
    | .variable s :: .sign "=" :: rest => do
      let (e, rest) ← readExpr levels rest fuel
      return (.assign s e, rest)
    | .variable s :: .sign "++" :: rest =>
      some (.assign s (.binary "+" (.variable s) (.text "1")), rest)
    | .variable s :: rest => some (.variable s, rest)
    | .sign "(" :: rest => do
      let (e, rest) ← readExpr levels rest fuel
      match rest with
      | .sign ")" :: rest => return (e, rest)
      | _ => none
    | .name s :: .sign "(" :: rest => do
      let (arguments, rest) ← readArguments rest fuel
      match rest with
      | .sign ")" :: rest => return (.call s arguments, rest)
      | _ => none
    | .name s :: rest =>
      if nullary.contains s then some (.call s [], rest)
      else if (s.toList.headD 'a').isUpper then some (.text s, rest)
      else do
        let (arguments, rest) ← readArguments rest fuel
        return (.call s arguments, rest)
    | _ => none

/-- Reads the arguments of a function. -/
def readArguments (ts : List Token) : Nat → Option (List Expr × List Token)
  | 0 => none
  | fuel + 1 =>
    match ts with
    | [] => some ([], [])
    | t :: _ =>
      if endsArguments t then some ([], ts)
      else do
        let (first, rest) ← readExpr (levels.drop 2) ts fuel
        match rest with
        | .sign "," :: rest =>
          let (others, rest) ← readArguments rest fuel
          return (first :: others, rest)
        | _ => return ([first], rest)

end

/-- Reads the condition in parentheses. -/
def readCondition (ts : List Token) (fuel : Nat) : Option (Expr × List Token) :=
  match ts with
  | .sign "(" :: rest => do
    let (e, rest) ← readExpr levels rest fuel
    match rest with
    | .sign ")" :: rest => return (e, rest)
    | _ => none
  | _ => none

/-- A statement under a condition that follows it. -/
def underCondition (s : Statement) (word : String) (condition : Expr) : Option Statement :=
  match word with
  | "if" => some (.choice condition [s] [])
  | "unless" => some (.choice condition [] [s])
  | "while" => some (.loop false condition [s])
  | "until" => some (.loop true condition [s])
  | _ => none

/-- Reads the end of a statement, and the condition before it if there is one. -/
def readEnd (s : Statement) (ts : List Token) (fuel : Nat) : Option (Statement × List Token) := do
  let (s, rest) ← match ts with
    | .name word :: rest => do
      let (condition, rest) ← readExpr levels rest fuel
      pure (← underCondition s word condition, rest)
    | _ => pure (s, ts)
  match rest with
  | .sign ";" :: rest => return (s, rest)
  | [] => return (s, [])
  | .sign "\x7d" :: _ => return (s, rest)
  | _ => none

mutual

/-- Reads a statement. -/
def readStatement (ts : List Token) : Nat → Option (Statement × List Token)
  | 0 => none
  | fuel + 1 => do
    match ts with
    | .name "if" :: rest | .name "elsif" :: rest =>
      let (condition, rest) ← readCondition rest fuel
      let (yes, rest) ← readBlock rest fuel
      match rest with
      | .name "else" :: rest =>
        let (no, rest) ← readBlock rest fuel
        return (.choice condition yes no, rest)
      | .name "elsif" :: _ =>
        let (no, rest) ← readStatement rest fuel
        return (.choice condition yes [no], rest)
      | _ => return (.choice condition yes [], rest)
    | .name "unless" :: rest =>
      let (condition, rest) ← readCondition rest fuel
      let (no, rest) ← readBlock rest fuel
      return (.choice condition [] no, rest)
    | .name "while" :: rest =>
      let (condition, rest) ← readCondition rest fuel
      let (body, rest) ← readBlock rest fuel
      return (.loop false condition body, rest)
    | .name "until" :: rest =>
      let (condition, rest) ← readCondition rest fuel
      let (body, rest) ← readBlock rest fuel
      return (.loop true condition body, rest)
    | .name "last" :: rest => readEnd .leave rest fuel
    | .name "next" :: rest => readEnd .again rest fuel
    | _ =>
      let (e, rest) ← readExpr levels ts fuel
      readEnd (.run e) rest fuel

/-- Reads statements in braces. -/
def readBlock (ts : List Token) : Nat → Option (List Statement × List Token)
  | 0 => none
  | fuel + 1 =>
    match ts with
    | .sign "\x7b" :: rest => do
      let (body, rest) ← readStatements rest fuel
      match rest with
      | .sign "\x7d" :: rest => return (body, rest)
      | _ => none
    | _ => none

/-- Reads statements up to a closing brace or the end. -/
def readStatements (ts : List Token) : Nat → Option (List Statement × List Token)
  | 0 => none
  | fuel + 1 =>
    match ts with
    | [] => some ([], [])
    | .sign "\x7d" :: _ => some ([], ts)
    | .sign ";" :: rest => readStatements rest fuel
    | _ => do
      let (first, rest) ← readStatement ts fuel
      let (others, rest) ← readStatements rest fuel
      return (first :: others, rest)

end

/-- Reads a program. -/
def readProgram (text : String) : Option (List Statement) := do
  let ts ← tokens text.toList [] (text.length + 1)
  match readStatements ts (20 * ts.length + 20) with
  | some (statements, []) => some statements
  | _ => none

end Procedure

end CommandShell
