import CommandShell.Text.Bytewise
import CommandShell.Text.Regex

/-!
# Rules for editing lines

What `sed` carries out. A rule applies to all lines, to the lines that a place stands for, or to the
lines from one place to another; whether such a stretch has been entered is kept with the rule from
line to line. Rules stand in one array, and a block is a rule that tells where it ends.
-/

namespace CommandShell

namespace Edit

/-- The case that letters of a replacement are given. -/
inductive LetterCase
  | upper
  | lower
  deriving DecidableEq

/-- A piece of a replacement. -/
inductive Piece
  | text (c : Char)
  /-- What has fitted a group, or all that is replaced for zero. -/
  | fit (group : Nat)
  /-- From here on letters get a case, or keep their own. -/
  | case (wanted : Option LetterCase)
  /-- The next letter gets a case. -/
  | nextCase (wanted : LetterCase)

/-- A place among the lines. -/
inductive Place
  | line (number : Nat)
  | final
  /-- Where an expression occurs. -/
  | containing (r : Regex)
  /-- Every so many lines, from some line on. -/
  | every (first step : Nat)
  /-- So many lines after the first place. -/
  | later (count : Nat)
  /-- The next line whose number is a multiple. -/
  | multiple (factor : Nat)

/-- Where a rule is in a stretch of lines. -/
inductive Phase
  | outside
  /-- The stretch has been entered. It ends at this line, if that is known. -/
  | inside (last : Option Nat)

/-- The lines that a rule applies to. -/
inductive Extent
  | all
  | only (p : Place)
  | stretch (first last : Place) (phase : Phase)

/-- How something is replaced. -/
structure Substitution where
  expression : Regex
  replacement : List Piece
  /-- Which of the places that fit is the first to be replaced. -/
  number : Nat := 1
  /-- All places after that one are replaced as well. -/
  everywhere : Bool := false
  printing : Bool := false

/-- What a rule does to a line. -/
inductive Action
  /-- The rules up to a position belong to this one. -/
  | block (stop : Nat)
  | label (name : String)
  | jump (label : String)
  /-- Jumps if something has been replaced. -/
  | jumpIfChanged (label : String)
  | print
  | printFirst
  | delete
  | deleteFirst
  | quit (code : Nat) (printing : Bool)
  | number
  | next
  | append
  | hold (appending : Bool)
  | recall (appending : Bool)
  | exchange
  | insert (text : List Char)
  | appendText (text : List Char)
  | change (text : List Char)
  | appendFile (path : String)
  | substitute (s : Substitution)
  | exchangeLetters (table : List (Char × Char))
  | show

/-- A rule. -/
structure Rule where
  extent : Extent
  /-- It applies to all lines but these. -/
  negated : Bool
  action : Action

/-- The rule is a label with this name. -/
def Rule.isLabel (r : Rule) (name : String) : Bool :=
  match r.action with
  | .label other => other == name
  | _ => false

/-- The label that a rule jumps to, if it does. -/
def Rule.jump? (r : Rule) : Option String :=
  match r.action with
  | .jump label | .jumpIfChanged label => if label.isEmpty then none else some label
  | _ => none

/-- A label that a rule jumps to and that there is not. -/
def missingLabel? (rules : Array Rule) : Option String :=
  (rules.toList.filterMap Rule.jump?).find? fun label => !rules.any (·.isLabel label)

end Edit

end CommandShell
