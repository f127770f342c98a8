/-!
# Tokens of a command line

A command line is cut into words at runs of separators. A word that is exactly one of `|`, `<`,
`>`, `>>` and `&` is an operator; every other word stands for itself, so `a>b` is one word and
there is no quoting. `lexer` finds this out by a few rules, of which the one that matches most is
applied at every place, and `tokenize` takes over what it finds as long as there is room for it. A
line over the cap is refused as a whole, because a line cut short could lose a redirection target
or a trailing `&` without anyone noticing.
-/

namespace CommandShell

/-- One word of a command line. -/
inductive Token
  /-- `|` -/
  | pipe
  /-- `<` -/
  | read
  /-- `>` -/
  | write
  /-- `>>` -/
  | append
  /-- `&` -/
  | background
  /-- Any other word. -/
  | word (text : String)
  deriving DecidableEq, Repr

/-- Words end at a blank, a tab, a carriage return, a line feed or a bell. -/
def isSeparator (c : Char) : Bool :=
  c == ' ' || c == '\t' || c == '\r' || c == '\n' || c == '\x07'

namespace Token

/-- The token as it was typed. -/
def text : Token → String
  | .pipe => "|"
  | .read => "<"
  | .write => ">"
  | .append => ">>"
  | .background => "&"
  | .word w => w

end Token

/-! ## Cutting a line -/

/-- What the lexer looks for. -/
inductive LexRule
  /-- A run of separators, which makes no token. -/
  | gap
  /-- The spelling of an operator. -/
  | operator (token : Token)
  /-- A run of other characters. -/
  | word
  deriving DecidableEq, Repr

namespace LexRule

/-- The operators that have a rule. -/
def operators : List Token := [.pipe, .read, .write, .append, .background]

/-- How many characters at the beginning of a text the rule matches, at most. -/
def reach : LexRule → List Char → Nat
  | gap, cs => (cs.takeWhile isSeparator).length
  | operator token, cs => if token.text.toList.isPrefixOf cs then token.text.toList.length else 0
  | word, cs => (cs.takeWhile (!isSeparator ·)).length

/-- The first of some rules that matches most of a text, unless `rule` matches as much. -/
def furthest (cs : List Char) (rule : LexRule) : List LexRule → LexRule
  | [] => rule
  | other :: rules => furthest cs (if rule.reach cs < other.reach cs then other else rule) rules

/-- The rule that is applied to a text, which is the one that matches most. A fixed spelling goes
before a class of characters. -/
def best (cs : List Char) : LexRule :=
  furthest cs gap (operators.map operator ++ [word])

/-- The token that a rule makes of what it has matched. -/
def token? : LexRule → List Char → Option Token
  | gap, _ => none
  | operator token, _ => some token
  | word, text => some (.word (String.ofList text))

end LexRule

/-- Why a text cannot be cut. -/
inductive LexerError
  /-- No rule matches. -/
  | unknownToken
  deriving DecidableEq, Repr

/-- The wording of a text that cannot be cut. -/
def LexerError.message : LexerError → String
  | .unknownToken => "unknown token"

/-- What the rules make of a text. A character at which none of them matches is passed over with an
error. -/
def lexer : List Char → List (Except LexerError Token)
  | [] => []
  | c :: rest =>
    let rule := LexRule.best (c :: rest)
    match rule.reach (c :: rest) with
    | 0 => .error .unknownToken :: lexer rest
    | more + 1 =>
      (rule.token? (c :: rest.take more)).toList.map .ok ++ lexer (rest.drop more)
termination_by cs => cs.length
decreasing_by
  · simp
  · simp only [List.length_drop, List.length_cons]
    omega

/-- The tokens of a line. -/
def lex (line : String) : List Token :=
  (lexer line.toList).filterMap Except.toOption

/-! ## The cap -/

/-- Why a line has no list of tokens. -/
inductive ParseError
  | lexer (error : LexerError)
  /-- The line has more tokens than the shell accepts; `max` is how many it accepts. -/
  | tooManyArguments (max : Nat)
  deriving DecidableEq, Repr

/-- The wording of a refused line. -/
def ParseError.message : ParseError → String
  | .lexer error => "failed to tokenize command: " ++ error.message
  | .tooManyArguments max => "too many arguments (at most " ++ toString max ++ ")"

/-- The line without its final line feed, if it has one. -/
def dropFinalNewline (cs : List Char) : List Char :=
  if cs.getLast? = some '\n' then cs.dropLast else cs

/-- Takes over tokens behind those that have been taken, one by one and `max` of them in all. An
error ends this at once, and so does a token for which there is no room. -/
def takeTokens (max : Nat) (taken : Array Token) :
    List (Except LexerError Token) → Except ParseError (List Token)
  | [] => .ok taken.toList
  | .error e :: _ => .error (.lexer e)
  | .ok token :: rest =>
    if taken.size = max then .error (.tooManyArguments max)
    else takeTokens max (taken.push token) rest

/-- The tokens of a line, or a refusal. The capacity counts the slot after the last argument, so
`maxArgs - 1` tokens fit. -/
def tokenize (line : String) (maxArgs : Nat) : Except ParseError (List Token) :=
  takeTokens (maxArgs - 1) #[] (lexer (dropFinalNewline line.toList))

/-- The capacity of an argument list unless the configuration says otherwise. -/
def defaultMaxArgs : Nat := 64

end CommandShell
