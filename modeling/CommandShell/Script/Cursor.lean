import CommandShell.Script.Syntax

/-!
# Places in a script

What a reader of scripts keeps in mind: the text that is left, the aliases that it is inside of, and
the texts of redirections that are still to come. `Token` is what a script is made of, and `Reading`
a step that goes on in a `Cursor` or gives up with a `SyntaxError`.

Ends of lines that are hidden by a backslash are passed over by `peek`, so all that is read with it
does not see them.
-/

namespace CommandShell

namespace Script

/-! ## Tokens -/

/-- What the signs of a redirection say. -/
inductive RedirectSign
  | file (kind : RedirectKind)
  | copy
  /-- The text follows further down. `stripTabs` takes the tabs from the beginning of its lines. -/
  | here (stripTabs : Bool)

/-- A token of a script. -/
inductive Token
  | ending
  | newline
  | semicolon
  | ampersand
  | and
  | or
  | pipe
  | opening
  | closing
  | endBranch
  | redirect (fd : Nat) (sign : RedirectSign)
  | word (w : Word)
  /-- A word that stands for a part of a construct. -/
  | reserved (name : String)

/-- What is made of the next token. -/
structure Look where
  /-- A word that stands for a part of a construct is a token of its own. -/
  reserved : Bool := false
  /-- Ends of lines are passed over. -/
  newlines : Bool := false
  /-- The text of an alias takes the place of its name. -/
  aliases : Bool := false

namespace Look

/-- A word stands for itself. -/
def plain : Look := {}

/-- A construct may go on here. -/
def construct : Look := { reserved := true, aliases := true }

/-- A construct may go on here or further down. -/
def below : Look := { reserved := true, newlines := true, aliases := true }

end Look

/-- The words that stand for a part of a construct where a command can begin. -/
def reservedWords : List String :=
  ["!", "case", "do", "done", "elif", "else", "esac", "fi", "for", "if", "in", "then", "until",
   "while", "\x7b", "\x7d"]

namespace Token

/-- A token as messages show it. -/
def shown : Token → String
  | .ending => "end of file"
  | .newline => "newline"
  | .semicolon => "\";\""
  | .ampersand => "\"&\""
  | .and => "\"&&\""
  | .or => "\"||\""
  | .pipe => "\"|\""
  | .opening => "\"(\""
  | .closing => "\")\""
  | .endBranch => "\";;\""
  | .redirect _ _ => "redirection"
  | .word _ => "word"
  | .reserved name => "\"" ++ name ++ "\""

/-- A list of commands can end here. -/
def endsList : Token → Bool
  | .ending | .closing | .endBranch => true
  | .reserved name => ["do", "done", "elif", "else", "esac", "fi", "then", "\x7d"].contains name
  | _ => false

end Token

/-! ## Places -/

/-- A text that is still to be found further down. -/
structure Pending where
  number : Nat
  /-- The line that ends it. -/
  mark : String
  stripTabs : Bool
  /-- It is taken as it stands. -/
  verbatim : Bool

/-- An alias whose text is being read. -/
structure AliasUse where
  name : String
  /-- How much is left of the text when that of the alias ends. -/
  left : Nat
  /-- The word after it may be an alias as well. -/
  goesOn : Bool

/-- A place in a script, with what has been read ahead. -/
structure Cursor where
  rest : List Char
  /-- What stands after the text of a redirection, once its end mark has been read. -/
  beyond : List Char := []
  line : Nat := 1
  /-- What names stand for. -/
  aliases : List (String × String) := []
  aliasUses : List AliasUse := []
  /-- A token that has been put back. -/
  pushed : Option Token := none
  pending : List Pending := []
  /-- The texts of redirections that have been found, by their numbers. -/
  texts : List (Nat × Word) := []
  /-- How many such texts there are. -/
  textCount : Nat := 0

/-- Why a script cannot be read. -/
structure SyntaxError where
  line : Nat
  reason : String

/-- The wording of a script that cannot be read. -/
def SyntaxError.message (e : SyntaxError) : String :=
  "Syntax error: " ++ e.reason

/-- A part of reading. -/
abbrev Reading := StateT Cursor (Except SyntaxError)

/-- Gives up. -/
def refuse {α : Type} (reason : String) : Reading α := do
  throw ⟨(← get).line, reason⟩

/-- Gives up over a token in a place where it cannot be. -/
def unexpected {α : Type} (t : Token) (wanted : Option Token := none) : Reading α :=
  refuse (t.shown ++ " unexpected" ++ match wanted with
    | some w => " (expecting " ++ w.shown ++ ")"
    | none => "")

/-- Goes on behind a number of characters. -/
def skip (n : Nat) : Reading Unit :=
  modify fun c =>
    { c with rest := c.rest.drop n, line := c.line + (c.rest.take n).count '\n' }

/-- Goes on behind ends of lines that are hidden by a backslash. -/
def skipJoins : Nat → Reading Unit
  | 0 => return
  | fuel + 1 => do
    match (← get).rest with
    | '\\' :: '\n' :: _ =>
      skip 2
      skipJoins fuel
    | _ => return

/-- The next character, which is not read yet. Hidden ends of lines before it are passed over. -/
def peek : Reading (Option Char) := do
  skipJoins (← get).rest.length
  return (← get).rest.head?

/-- Reads a character if it comes next. -/
def accept (wanted : Char) : Reading Bool := do
  if (← peek) = some wanted then
    skip 1
    return true
  else return false

/-- Leaves the aliases whose text has been read, and tells whether the word after it, which has just
been read, may be an alias as well. -/
def leaveAliases : Reading Bool := do
  let c ← get
  let (ended, inside) := c.aliasUses.partition fun u => c.rest.length ≤ u.left
  modify ({ · with aliasUses := inside })
  return ended.any (·.goesOn)

/-- Puts the text of an alias in the place of its name, which has just been read. It is no alias
within its own text. -/
def enterAlias (name : String) : Reading Bool := do
  let c ← get
  match if c.aliasUses.any (·.name = name) then none else c.aliases.lookup name with
  | none => return false
  | some text =>
    if !text.isEmpty then
      let goesOn := text.endsWith " " || text.endsWith "\t"
      modify ({ · with
        rest := text.toList ++ (if goesOn then [] else [' ']) ++ c.rest
        aliasUses := ⟨name, c.rest.length, goesOn⟩ :: c.aliasUses })
    return true

/-! ## Characters -/

/-- A character that ends a word. -/
def endsWord (c : Char) : Bool :=
  c == ' ' || c == '\t' || c == '\n' || c == ';' || c == '&' || c == '|' || c == '<' || c == '>' ||
    c == '(' || c == ')'

/-- A character that names a parameter all by itself. -/
def isSpecialName (c : Char) : Bool :=
  c == '@' || c == '*' || c == '#' || c == '?' || c == '$' || c == '!' || c == '-' || c.isDigit

/-- The character that encloses a command whose output is wanted, besides parentheses. -/
def backquote : Char := Char.ofNat 96

/-- The word as it is written, if nothing in it is quoted or expanded. -/
def plainText? : Word → Option String
  | [] => some ""
  | .text t false :: rest => (plainText? rest).map (t ++ ·)
  | _ => none

/-- Something in the word is quoted. -/
def hasQuotes (w : Word) : Bool :=
  w.any fun
    | .text _ quoted => quoted
    | _ => false

/-- The characters of a word without its quotes. -/
def bareText (w : Word) : String :=
  "".intercalate (w.map fun
    | .text t _ => t
    | _ => "")

/-- Adds a part to a word that is kept backwards, joining text to text. -/
def addPart (done : List Part) (p : Part) : List Part :=
  match p, done with
  | .text b q, .text a r :: rest =>
    if q == r && !a.isEmpty && !b.isEmpty then .text (a ++ b) q :: rest else p :: done
  | _, _ => p :: done

/-- The name and the value of an assignment. -/
def assignment? (w : Word) : Option (String × Word) :=
  match w with
  | .text text false :: rest =>
    let name := text.toList.takeWhile (· != '=')
    match text.toList.drop name.length with
    | '=' :: value =>
      if isName (String.ofList name) then
        some (String.ofList name,
          if value.isEmpty then rest else .text (String.ofList value) false :: rest)
      else none
    | _ => none
  | _ => none

end Script

end CommandShell
