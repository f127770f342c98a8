import CommandShell.Program.Basic
import CommandShell.Text.Bytewise
import CommandShell.Text.Regex

/-!
# Expressions in words

`expr`, whose words are the operands and operators of an expression. It is evaluated while it is
read; what does not matter for the value any more is read without being evaluated.
-/

namespace CommandShell

namespace Program

namespace Expression

/-- Why an expression has no value. -/
inductive Fault
  | unexpected (word : String)
  | missing (after : String)
  | openParenthesis (after : String)
  | closedBy (word : String)
  | unexpectedClosing
  | notANumber
  | divisionByZero
  | pattern (f : Regex.Fault)

/-- The wording of a fault. -/
def Fault.message : Fault → String
  | .unexpected word => "syntax error: unexpected argument " ++ cite word
  | .missing after => "syntax error: missing argument after " ++ cite after
  | .openParenthesis after => "syntax error: expecting ')' after " ++ cite after
  | .closedBy word => "syntax error: expecting ')' instead of " ++ cite word
  | .unexpectedClosing => "syntax error: unexpected ')'"
  | .notANumber => "non-integer argument"
  | .divisionByZero => "division by zero"
  | .pattern f => f.message

/-- The words that are left, and the one in front of them. -/
structure Words where
  last : String
  rest : List String

/-- A value, and the words after it. -/
abbrev Result := Except Fault (String × Words)

/-- The whole number that a word is. -/
def integer? (word : String) : Option Int :=
  let (sign, digits) : Int × List Char := match word.toList with
    | '-' :: rest => (-1, rest)
    | cs => (1, cs)
  if digits.isEmpty || !digits.all Char.isDigit then none
  else some (sign * (digits.foldl (fun n c => n * 10 + (c.toNat - 48)) 0 : Nat))

/-- A value that counts as false. -/
def isNull (v : String) : Bool :=
  v.isEmpty || integer? v == some 0

/-- A word by its bytes. -/
def bytesOf (word : String) : List Char :=
  (Bytewise.encode word).toList

/-- A word from its bytes. -/
def ofBytes (cs : List Char) : String :=
  Bytewise.decode (String.ofList cs)

/-- What a pattern fits at the beginning of a word: its first group if it has one, or how long it
is. -/
def fit (word pattern : String) : Except Fault String :=
  match Regex.ofText { extended := false } (Bytewise.encode pattern) with
  | .error f => .error (.pattern f)
  | .ok r =>
    match Regex.longest? (r.ways { rest := bytesOf word }) with
    | some q =>
      .ok (if r.groupCount = 0 then toString q.position else ofBytes ((q.groups.lookup 1).getD []))
    | none => .ok (if r.groupCount = 0 then "0" else "")

/-- So many characters of a word from a position on. -/
def part (word position length : String) : String :=
  match integer? position, integer? length with
  | some p, some n =>
    if p ≤ 0 || n ≤ 0 then "" else ofBytes (((bytesOf word).drop (p.toNat - 1)).take n.toNat)
  | _, _ => ""

/-- The first position in a word of one of some characters. -/
def firstOf (word characters : String) : String :=
  let cs := bytesOf characters
  match (bytesOf word).findIdx? cs.contains with
  | some i => toString (i + 1)
  | none => "0"

/-- The value of an arithmetic operation. -/
def arithmetic (a operator b : String) : Except Fault String :=
  match integer? a, integer? b with
  | some x, some y =>
    if operator = "+" then .ok (toString (x + y))
    else if operator = "-" then .ok (toString (x - y))
    else if operator = "*" then .ok (toString (x * y))
    else if y = 0 then .error .divisionByZero
    else .ok (toString (if operator = "/" then x.tdiv y else x.tmod y))
  | _, _ => .error .notANumber

/-- The value of a comparison, of numbers if both are numbers. -/
def comparison (a operator b : String) : String :=
  let order : Ordering := match integer? a, integer? b with
    | some x, some y => compare x y
    | _, _ => compare (Text.bytes a).toList (Text.bytes b).toList
  let holds : Bool := match operator with
    | "<" => order == .lt
    | "<=" => order != .gt
    | "=" | "==" => order == .eq
    | "!=" => order != .eq
    | ">=" => order != .lt
    | _ => order == .gt
  if holds then "1" else "0"

/-- How tightly operators bind. -/
inductive Level
  | either
  | both
  | comparing
  | adding
  | multiplying
  | fitting
  deriving DecidableEq

/-- The level that binds more tightly by one. -/
def Level.tighter? : Level → Option Level
  | .either => some .both
  | .both => some .comparing
  | .comparing => some .adding
  | .adding => some .multiplying
  | .multiplying => some .fitting
  | .fitting => none

/-- The operators of a level. -/
def Level.operators : Level → List String
  | .either => ["|"]
  | .both => ["&"]
  | .comparing => ["<", "<=", "=", "==", "!=", ">=", ">"]
  | .adding => ["+", "-"]
  | .multiplying => ["*", "/", "%"]
  | .fitting => [":"]

/-- The value of one operation. -/
def Level.operate (l : Level) (a operator b : String) : Except Fault String :=
  match l with
  | .either => .ok (if !isNull a then a else if isNull b then "0" else b)
  | .both => .ok (if isNull a || isNull b then "0" else a)
  | .comparing => .ok (comparison a operator b)
  | .adding | .multiplying => arithmetic a operator b
  | .fitting => fit a b

/-- The right operand still matters after a left one. -/
def Level.matters (l : Level) (a : String) : Bool :=
  match l with
  | .either => isNull a
  | .both => !isNull a
  | _ => true

/-- Reads an expression of a level; none for a single operand. It is evaluated if it is `live`. -/
def read (live : Bool) (level : Option Level) (w : Words) : Nat → Result
  | 0 => .error (.missing w.last)
  | fuel + 1 =>
    match level with
    | some l => do
      let (v, w) ← read live l.tighter? w fuel
      goOn live l v w fuel
    | none =>
      match w.rest with
      | [] => .error (.missing w.last)
      | word :: rest =>
        let w : Words := ⟨word, rest⟩
        let operand (w : Words) : Result := read live none w fuel
        match word with
        | "+" =>
          match rest with
          | [] => .error (.missing word)
          | next :: rest => .ok (next, ⟨next, rest⟩)
        | "length" => do
          let (v, w) ← operand w
          return (toString (Text.size v), w)
        | "match" => do
          let (v, w) ← operand w
          let (p, w) ← operand w
          return (← if live then fit v p else .ok v, w)
        | "index" => do
          let (v, w) ← operand w
          let (cs, w) ← operand w
          return (firstOf v cs, w)
        | "substr" => do
          let (v, w) ← operand w
          let (p, w) ← operand w
          let (n, w) ← operand w
          return (part v p n, w)
        | "(" => do
          let (v, w) ← read live (some .either) w fuel
          match w.rest with
          | ")" :: rest => return (v, ⟨")", rest⟩)
          | word :: _ => .error (.closedBy word)
          | [] => .error (.openParenthesis w.last)
        | ")" => .error .unexpectedClosing
        | word => .ok (word, w)
where
  /-- Takes in the further operands of a level. -/
  goOn (live : Bool) (l : Level) (v : String) (w : Words) : Nat → Result
    | 0 => .ok (v, w)
    | fuel + 1 =>
      match w.rest with
      | operator :: rest =>
        if l.operators.contains operator then do
          let live' := live && l.matters v
          let (b, w) ← read live' l.tighter? ⟨operator, rest⟩ fuel
          let counts := live' || (live && (l = .either || l = .both))
          let v ← if counts then l.operate v operator b else .ok v
          goOn live l v w fuel
        else .ok (v, w)
      | [] => .ok (v, w)

/-- The value of the words of an expression. -/
def value (words : List String) : Except Fault String := do
  let (v, w) ← read true (some .either) ⟨"", words⟩ (words.length * 8 + 8)
  match w.rest with
  | [] => .ok v
  | ")" :: _ => .error .unexpectedClosing
  | word :: _ => .error (.unexpected word)

end Expression

/-- Writes the value of an expression. -/
def expr : Program := fun argv _ =>
  let name := argv.headD ""
  let words := match argv.drop 1 with
    | "--" :: rest => rest
    | words => words
  if words.isEmpty then misuse name "missing operand" 2
  else
    match Expression.value words with
    | .ok v => finish name (Text.bytes (v ++ "\n")) (if Expression.isNull v then 1 else 0)
    | .error f => do
      complain (name ++ ": " ++ f.message ++ "\n")
      return 2

end Program

end CommandShell
