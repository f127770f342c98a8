/-!
# Scripts

The commands that a script is made of. A word is kept in `Part`s, since characters, parameters and
the output of commands are treated differently when the word is expanded, and each of them in
another way if it stands in quotes. Parts and commands contain each other.

A script deals in bytes. Every text in it is a `String` in which a byte is the character of its
number; `CommandShell.Text.Bytewise` leads there and back.
-/

namespace CommandShell

namespace Script

/-! ## Names -/

/-- The first character of a name. -/
def startsName (c : Char) : Bool :=
  c.isAlpha || c == '_'

/-- A character of a name. -/
def isNameChar (c : Char) : Bool :=
  c.isAlphanum || c == '_'

/-- A name of a variable. -/
def isName (s : String) : Bool :=
  (s.toList.head?.any startsName) && s.toList.all isNameChar

/-- The built-in commands whose failures end a script, and whose names no function can have. -/
def specialBuiltins : List String :=
  [".", ":", "break", "continue", "eval", "exec", "exit", "export", "local", "readonly", "return",
   "set", "shift", "times", "trap", "unset"]

/-! ## Commands -/

/-- What a redirection to a file opens it for. -/
inductive RedirectKind
  | read
  | write
  | append
  /-- For writing, even if files are otherwise kept from being overwritten. -/
  | overwrite
  | readWrite
  deriving DecidableEq, Repr

mutual

/-- A part of a word. -/
inductive Part
  /-- Characters as they stand. In quotes there may be none of them, which is still something. -/
  | text (text : String) (quoted : Bool)
  | parameter (name : String) (use : Use) (quoted : Bool)
  /-- What a command writes. -/
  | output (command : Option Command) (quoted : Bool)
  /-- The value of an arithmetic expression. -/
  | arithmetic (expression : List Part) (quoted : Bool)

/-- What is made of the value of a parameter. -/
inductive Use
  /-- The value itself. -/
  | value
  /-- The number of its bytes. -/
  | length
  /-- The value, or a word if there is none. `orEmpty` counts an empty value as none. -/
  | orElse (orEmpty : Bool) (word : List Part)
  /-- The same, and the parameter takes the word as its value. -/
  | orAssign (orEmpty : Bool) (word : List Part)
  /-- A word, if there is a value. -/
  | ifSet (orEmpty : Bool) (word : List Part)
  /-- The value, or the end of the script if there is none. -/
  | orFail (orEmpty : Bool) (word : List Part)
  /-- The value without a beginning that fits a pattern. -/
  | dropFront (longest : Bool) (pattern : List Part)
  /-- The value without an end that fits a pattern. -/
  | dropBack (longest : Bool) (pattern : List Part)
  /-- Something that has no meaning. -/
  | unknown

/-- A redirection. -/
inductive Redirect
  | file (fd : Nat) (kind : RedirectKind) (target : List Part)
  /-- The descriptor becomes another name for one that is open, or is closed for `-`. -/
  | copy (fd : Nat) (source : List Part)
  /-- The descriptor reads a text that the script itself holds, further down. The texts of a script
  are numbered. -/
  | here (fd : Nat) (number : Nat)

/-- A command. `line` is the line of the script that it is on. -/
inductive Command
  /-- Assignments, and a program or a built-in command with its arguments. -/
  | simple (line : Nat) (assignments : List (String × List Part)) (words : List (List Part))
      (redirects : List Redirect)
  | pipeline (commands : List Command) (background : Bool)
  | negation (c : Command)
  | both (a b : Command)
  | either (a b : Command)
  | sequence (a b : Command)
  | subshell (line : Nat) (c : Command) (redirects : List Redirect)
  /-- It is started and not waited for. -/
  | background (line : Nat) (c : Command) (redirects : List Redirect)
  | redirected (line : Nat) (c : Command) (redirects : List Redirect)
  /-- The body runs for as long as the condition succeeds, or fails. -/
  | loop (whileFails : Bool) (condition body : Command)
  /-- The body runs once for each word. -/
  | each (line : Nat) (name : String) (words : List (List Part)) (body : Command)
  | choice (condition yes : Command) (no : Option Command)
  | select (line : Nat) (word : List Part)
      (branches : List (List (List Part) × Option Command))
  /-- A name is given to a command. -/
  | define (line : Nat) (name : String) (body : Command)

end

/-- A word before it is expanded. -/
abbrev Word := List Part

instance : Inhabited Part := ⟨.text "" false⟩

instance : Inhabited Command := ⟨.simple 0 [] [] []⟩

end Script

end CommandShell
