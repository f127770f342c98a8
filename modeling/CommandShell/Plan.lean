import CommandShell.Token

/-!
# Execution plans

What a command line asks for once its operators have been interpreted. A plan holds one
`Segment`, or two when the line has a pipe; a segment is a program with its arguments and the
redirections that were written on its side. `Plan.scan?` builds a plan from tokens in one pass:
the first `|` splits the line, a redirection operator takes the word after it, the last
redirection of each direction wins, and a `&` left at the end puts the job into the background.

A side of the line is first gathered into a `Draft`, whose word list may be empty. A `Segment`
always names a program, so every later use of it can.
-/

namespace CommandShell

/-- How an output file is opened. -/
inductive OutputMode
  /-- Old contents are discarded. -/
  | truncate
  /-- Old contents are kept, and writes go after them. -/
  | append
  deriving DecidableEq, Repr

/-- Where the standard output of a program is sent. -/
structure OutputTarget where
  path : String
  mode : OutputMode
  deriving DecidableEq, Repr

/-- One program to run: its name, its further arguments, and its redirections. -/
structure Segment where
  program : String
  arguments : List String := []
  input : Option String := none
  output : Option OutputTarget := none
  deriving DecidableEq, Repr

/-- The argument vector, which begins with the name of the program. -/
def Segment.argv (s : Segment) : List String :=
  s.program :: s.arguments

/-- What a command line asks for. -/
structure Plan where
  left : Segment
  right : Option Segment := none
  background : Bool := false
  deriving DecidableEq, Repr

/-- Two programs are to be joined by a pipe. -/
def Plan.isPipeline (p : Plan) : Bool :=
  p.right.isSome

/-! ## What can be wrong with a line -/

/-- An operator that takes a file name. -/
inductive Redirection
  | read
  | write
  | append
  deriving DecidableEq, Repr

/-- The operator as it is typed. -/
def Redirection.text : Redirection → String
  | .read => "<"
  | .write => ">"
  | .append => ">>"

/-- The redirection a token stands for, if it stands for one. -/
def Token.redirection? : Token → Option Redirection
  | .read => some .read
  | .write => some .write
  | .append => some .append
  | _ => none

/-- A side of a pipe. -/
inductive Side
  | left
  | right
  deriving DecidableEq, Repr

/-- The side as it is named in messages. -/
def Side.text : Side → String
  | .left => "left"
  | .right => "right"

/-- Why a line has no plan. -/
inductive PlanError
  /-- The token after a redirection operator is missing or is an operator. -/
  | missingTarget (operator : Redirection)
  /-- A side of the pipe holds no words. -/
  | emptySide (side : Side)
  /-- A line with a pipe ends in `&`. -/
  | backgroundPipeline
  /-- Only redirections or a `&` were typed. -/
  | emptyCommand
  deriving DecidableEq, Repr

/-- The wording of a refused line. -/
def PlanError.message : PlanError → String
  | .missingTarget operator => "missing file name after `" ++ operator.text ++ "`"
  | .emptySide side => "missing command on the " ++ side.text ++ " side of `|`"
  | .backgroundPipeline => "background pipelines are not supported"
  | .emptyCommand => "empty command"

/-! ## One side of a line -/

/-- One side of a line with its redirections taken out: what is left of the words, and the last
redirection of each direction. -/
structure Draft where
  words : List String := []
  input : Option String := none
  output : Option OutputTarget := none
  deriving DecidableEq, Repr

namespace Draft

/-- Puts a word in front. -/
def push (d : Draft) (w : String) : Draft :=
  { d with words := w :: d.words }

/-- Notes a redirection that stands in front of all those noted so far, so one that is already
noted wins. -/
def redirect (d : Draft) (operator : Redirection) (path : String) : Draft :=
  match operator with
  | .read => { d with input := d.input <|> some path }
  | .write => { d with output := d.output <|> some ⟨path, .truncate⟩ }
  | .append => { d with output := d.output <|> some ⟨path, .append⟩ }

/-- Gathers one side of a line. A pipe that reaches this point is past the split and is an
ordinary word, as is a `&`. -/
def ofTokens : List Token → Except PlanError Draft
  | [] => .ok {}
  | token :: rest =>
    match token.redirection? with
    | none => do .ok ((← ofTokens rest).push token.text)
    | some operator =>
      match rest with
      | .word path :: rest' => do .ok ((← ofTokens rest').redirect operator path)
      | _ => .error (.missingTarget operator)

/-- Whether the last word is a `&`. -/
def endsInAmpersand (d : Draft) : Bool :=
  d.words.getLast? == some Token.background.text

/-- Removes the last word. -/
def dropLast (d : Draft) : Draft :=
  { d with words := d.words.dropLast }

/-- The segment of a side that has a word to name the program. -/
def toSegment? (d : Draft) : Option Segment :=
  match d.words with
  | [] => none
  | program :: arguments => some ⟨program, arguments, d.input, d.output⟩

end Draft

/-! ## The whole line -/

namespace Plan

/-- The plan of a line without a pipe. -/
def ofSingle (tokens : List Token) : Except PlanError Plan := do
  let draft ← Draft.ofTokens tokens
  let background := draft.endsInAmpersand
  match (if background then draft.dropLast else draft).toSegment? with
  | none => .error .emptyCommand
  | some left => .ok { left, background }

/-- The plan of a line whose first pipe stands between `before` and `after`. The left side is
judged as a whole before the right side is looked at. -/
def ofPipeline (before after : List Token) : Except PlanError Plan := do
  match (← Draft.ofTokens before).toSegment? with
  | none => .error (.emptySide .left)
  | some left =>
    let draft ← Draft.ofTokens after
    if draft.endsInAmpersand then .error .backgroundPipeline
    else
      match draft.toSegment? with
      | none => .error (.emptySide .right)
      | some right => .ok { left, right := some right }

/-- The plan of a line, `none` for a blank one. -/
def scan? (tokens : List Token) : Except PlanError (Option Plan) :=
  match tokens with
  | [] => .ok none
  | _ =>
    match tokens.dropWhile (· != .pipe) with
    | [] => do .ok (some (← ofSingle tokens))
    | _ :: after => do .ok (some (← ofPipeline (tokens.takeWhile (· != .pipe)) after))

end Plan

end CommandShell
