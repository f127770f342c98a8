import CommandShell.Text.Alphanumeric
import CommandShell.Text.Blank

/-!
# Filters of the log

Which messages the shell writes to its log is chosen by a variable of its environment, a list of
directives such as `info`, `launch=debug` or `[wait{pid}]=trace`. The messages themselves are
nobody's business here. A directive that makes no sense is passed over, and `LogFilter.complaints`
are the lines in which the shell says so.
-/

namespace CommandShell

namespace LogFilter

/-- The variable that holds the directives. -/
def variableName : String := "RUST_LOG"

/-- What is wrong with a directive. -/
inductive DirectiveError
  | malformed
  | unknownLevel
  deriving DecidableEq, Repr

/-- The wording of a wrong directive. -/
def DirectiveError.message : DirectiveError → String
  | .malformed => "invalid filter directive"
  | .unknownLevel =>
    "error parsing level filter: expected one of \"off\", \"error\", \"warn\", \"info\", " ++
      "\"debug\", \"trace\", or a number 0-5"

/-- The names of the levels. -/
def levels : List String := ["off", "error", "warn", "info", "debug", "trace"]

/-- A level, by its name or by its number. An empty text stands for a level too. -/
def isLevel (text : String) : Bool :=
  let digits := if text.startsWith "+" then (text.toList.drop 1) else text.toList
  let isNumber := !digits.isEmpty && digits.all Char.isDigit &&
    ((String.ofList digits).toNat?).any (· ≤ 5)
  text.isEmpty || isNumber || levels.contains text.toLower

/-- How far a directive has been read. -/
inductive Place
  | start
  /-- In the name of a level or of a part of the program. -/
  | target
  /-- In the name of a span. -/
  | span
  /-- In a field of a span, which is empty so far if that is so. -/
  | field (isEmpty : Bool)
  /-- After the fields of a span. -/
  | fields
  /-- After a span. -/
  | closed
  /-- In the level after an equals sign. It begins with this character of the directive. -/
  | level (first : Nat)
  deriving DecidableEq, Repr

/-- Where a directive goes on after its character number `index`. -/
def Place.next (p : Place) (index : Nat) (c : Char) : Option Place :=
  match p with
  | .start =>
    if c = '[' then some .span
    else if c = '-' || c = ':' || c = '_' || Text.isAlphanumeric c then some .target
    else none
  | .target =>
    some (if c = '=' then .level (index + 1) else if c = '[' then .span else .target)
  | .span => some (if c = ']' then .closed else if c = '\x7b' then .field true else .span)
  | .field isEmpty =>
    if c = '\x7d' then if isEmpty then none else some .fields else some (.field false)
  | .fields => if c = ']' then some .closed else none
  | .closed => if c = '=' then some (.level (index + 1)) else none
  | .level first => some (.level first)

/-- Where a directive ends whose characters from number `index` on are these. -/
def finalPlace (p : Place) (index : Nat) : List Char → Option Place
  | [] => some p
  | c :: rest => (p.next index c).bind fun p => finalPlace p (index + 1) rest

/-- What is wrong with a directive, if anything is. Blanks around it do not count when it is read,
though its level is looked for as if they did. -/
def error? (directive : String) : Option DirectiveError :=
  let cs := directive.toList
  let inner := ((cs.dropWhile Text.isBlank).reverse.dropWhile Text.isBlank).reverse
  match finalPlace .start 0 inner with
  | some .target | some .closed => none
  | some (.level first) =>
    if isLevel (String.ofList (cs.drop first)) then none else some .unknownLevel
  | _ => some .malformed

/-- The lines about wrong directives in a list of them. -/
def complaints (directives : String) : List String :=
  ((directives.splitOn ",").filter (· ≠ "")).filterMap fun directive =>
    (error? directive).map fun e => "ignoring `" ++ directive ++ "`: " ++ e.message ++ "\n"

end LogFilter

end CommandShell
