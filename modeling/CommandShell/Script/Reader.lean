import CommandShell.Script.Cursor

/-!
# Reading scripts

A script is read one line of commands at a time, and each is carried out before the next is read,
so a mistake further down does not keep the commands before it from running. `Script.nextCommand`
reads the next line of commands from a `Cursor`.

Words and commands are read by functions that call one another, since a word can hold commands. A
`Token` that turns out to belong to what comes next is put back. Every function takes a bound on the
depth of its recursion, which is chosen larger than the text is long.
-/

namespace CommandShell

namespace Script

/-! ## Words -/

/-- In what surroundings the characters of a word stand. -/
inductive Surroundings
  | plain
  | doubleQuotes
  /-- A text that a redirection reads. -/
  | hereText
  /-- An arithmetic expression. -/
  | arithmetic
  deriving DecidableEq

/-- How the parts of a word are read. -/
structure Scope where
  surroundings : Surroundings := .plain
  /-- They stand in the braces of a parameter. -/
  braced : Bool := false
  /-- Double quotes inside these braces are open. -/
  innerQuotes : Bool := false
  /-- Dollar signs and backquotes stand for themselves. -/
  verbatim : Bool := false
  /-- How many parentheses of an arithmetic expression are open. -/
  parentheses : Nat := 0
  /-- The text of a redirection that it is a part of. -/
  text : Option Pending := none

namespace Scope

/-- What is put in here counts as quoted. -/
def quotes (s : Scope) : Bool :=
  s.surroundings != .plain && !s.innerQuotes

/-- A backslash takes the meaning from this character, and is not kept. -/
def escapes (s : Scope) (c : Char) : Bool :=
  s.surroundings == .plain || c == '\\' || c == '$' || c == backquote ||
    (c == '"' && (s.braced || s.surroundings == .doubleQuotes)) || (c == '\x7d' && s.braced)

end Scope

/-- The text of a command in backquotes, up to the closing one. -/
def readBackquoted (quoted : Bool) (done : List Char) : Nat → Reading (List Char)
  | 0 => refuse "EOF in backquote substitution"
  | fuel + 1 => do
    match ← peek with
    | none => refuse "EOF in backquote substitution"
    | some c =>
      skip 1
      if c == backquote then return done.reverse
      else if c = '\\' then
        match (← get).rest with
        | [] => refuse "EOF in backquote substitution"
        | d :: _ =>
          skip 1
          let hides := d == '\\' || d == backquote || d == '$' || (quoted && d == '"')
          readBackquoted quoted (if hides then d :: done else d :: '\\' :: done) fuel
      else readBackquoted quoted (c :: done) fuel

/-- Reads characters for as long as they are wanted. -/
def readWhile (wanted : Char → Bool) (done : List Char) : Nat → Reading (List Char)
  | 0 => return done.reverse
  | fuel + 1 => do
    match ← peek with
    | some c =>
      if wanted c then
        skip 1
        readWhile wanted (c :: done) fuel
      else return done.reverse
    | none => return done.reverse

/-- The lines of a text that is taken as it stands, up to its end mark. -/
def verbatimLines (p : Pending) (done : List Char) : Nat → Reading (List Char)
  | 0 => return done.reverse
  | fuel + 1 => do
    let rest := (← get).rest
    let line := rest.takeWhile (· != '\n')
    skip (line.length + 1)
    let content := if p.stripTabs then line.dropWhile (· == '\t') else line
    if content = p.mark.toList then return done.reverse
    else if line.length = rest.length then return (content.reverse ++ done).reverse
    else verbatimLines p ('\n' :: content.reverse ++ done) fuel

/--
Begins a line of a text that a redirection reads. Its tabs are taken off if the redirection says so.
If it is the end mark, the text is over: nothing is left of it, and what stands after it is set
aside. After tabs a backslash does not hide the end of the line, and the two of them are returned.
-/
def beginLine (p : Pending) : Reading (List Char) := do
  let _ ← peek
  let tabs := (← get).rest.takeWhile fun c => p.stripTabs && c == '\t'
  skip tabs.length
  let rest := (← get).rest
  let line := rest.takeWhile (· != '\n')
  if line = p.mark.toList then
    skip (line.length + 1)
    modify fun c => { c with rest := [], beyond := c.rest }
    return []
  else if !tabs.isEmpty && line = ['\\'] && line.length < rest.length then
    skip 2
    return ['\\', '\n']
  else return []

/-- What the inside of a braced parameter asks for, apart from its word. -/
inductive UseSign
  | value
  | word (make : Word → Use) (isPattern : Bool)
  | unknown

/-- Reads what follows the name in braces, up to the word. -/
def readUseSign : Reading UseSign := do
  let colon ← accept ':'
  if ← accept '-' then return .word (.orElse colon) false
  else if ← accept '=' then return .word (.orAssign colon) false
  else if ← accept '+' then return .word (.ifSet colon) false
  else if ← accept '?' then return .word (.orFail colon) false
  else if ← accept '\x7d' then return .value
  else if colon then return .unknown
  else if ← accept '#' then return .word (.dropFront (← accept '#')) true
  else if ← accept '%' then return .word (.dropBack (← accept '%')) true
  else return .unknown

/-- Reads the name of a parameter in braces. -/
def readName : Reading (Option String) := do
  match ← peek with
  | none => return none
  | some c =>
    let fuel := (← get).rest.length
    if startsName c then return some (String.ofList (← readWhile isNameChar [] fuel))
    else if c.isDigit then return some (String.ofList (← readWhile Char.isDigit [] fuel))
    else if isSpecialName c then
      skip 1
      return some c.toString
    else return none

/-- Reads the name of a parameter in braces, and whether its length is asked for. The sign for that
is also a name. -/
def readBracedName : Reading (Option String × Bool) := do
  let _ ← peek
  match (← get).rest with
  | '#' :: c :: rest =>
    let isLength := startsName c || c.isDigit || (c ≠ '\x7d' && rest.head? = some '\x7d')
    if isLength then
      skip 1
      return (← readName, true)
    else
      skip 1
      return (some "#", false)
  | _ => return (← readName, false)

/-- Reads the signs of a redirection, of which the first is next. -/
def readSign (input : Bool) : Reading RedirectSign := do
  skip 1
  if input then
    if ← accept '<' then return .here (← accept '-')
    else if ← accept '&' then return .copy
    else if ← accept '>' then return .file .readWrite
    else return .file .read
  else if ← accept '>' then return .file .append
  else if ← accept '|' then return .file .overwrite
  else if ← accept '&' then return .copy
  else return .file .write

/-- Goes on behind blanks. -/
def skipBlanks : Nat → Reading Unit
  | 0 => return
  | fuel + 1 => do
    if (← accept ' ') || (← accept '\t') then skipBlanks fuel

mutual

/-- Reads the parts of a word up to what ends them, which is not read. -/
def readParts (s : Scope) (done : List Part) : Nat → Reading Word
  | 0 => refuse "Unterminated quoted string"
  | fuel + 1 => do
    let plain := s.surroundings == .plain
    match ← peek with
    | none => return done.reverse
    | some c =>
      let literal : Reading Word := do
        skip 1
        let kept ← match s.text with
          | some p => if c = '\n' then beginLine p else pure []
          | none => pure []
        readParts s (addPart done (.text (String.ofList (c :: kept)) (!plain))) fuel
      if c = '\\' then
        match (← get).rest.drop 1 with
        | [] => literal
        | d :: _ =>
          skip 2
          let part := if s.escapes d then Part.text d.toString true
            else .text (String.ofList ['\\', d]) true
          readParts s (addPart done part) fuel
      else if c = '\'' && plain then
        skip 1
        let inside := (← get).rest.takeWhile (· != '\'')
        if inside.length = (← get).rest.length then
          skip inside.length
          refuse "Unterminated quoted string"
        skip (inside.length + 1)
        readParts s (addPart done (.text (String.ofList inside) true)) fuel
      else if c = '"' && plain then
        skip 1
        let parts ← readParts
          { surroundings := .doubleQuotes, verbatim := s.verbatim, text := s.text }
          [.text "" true] fuel
        if !(← accept '"') then refuse "Unterminated quoted string"
        readParts s (parts.reverse ++ done) fuel
      else if c = '"' && s.surroundings == .doubleQuotes && !s.braced then return done.reverse
      else if c = '"' && s.braced && s.surroundings != .arithmetic then
        skip 1
        readParts { s with innerQuotes := !s.innerQuotes } (.text "" true :: done) fuel
      else if c = '$' && !s.verbatim then
        match ← readDollar s fuel with
        | some p => readParts s (addPart done p) fuel
        | none => readParts s (addPart done (.text "$" (!plain))) fuel
      else if c == backquote && !s.verbatim then
        skip 1
        let inside ← readBackquoted (!plain) [] fuel
        let c ← get
        let (command, inner) ←
          match (readList true false none fuel).run
              { rest := inside, aliases := c.aliases, textCount := c.textCount
                texts := c.texts } with
          | .ok found => pure found
          | .error e => throw e
        modify ({ · with textCount := inner.textCount, texts := inner.texts })
        readParts s (.output command s.quotes :: done) fuel
      else if c = '\x7d' && s.braced && !s.innerQuotes then return done.reverse
      else if s.surroundings == .arithmetic && !s.braced && c = '(' then
        skip 1
        readParts { s with parentheses := s.parentheses + 1 } (addPart done (.text "(" true)) fuel
      else if s.surroundings == .arithmetic && !s.braced && c = ')' then
        if s.parentheses > 0 then
          skip 1
          readParts { s with parentheses := s.parentheses - 1 } (addPart done (.text ")" true)) fuel
        else if (← get).rest.drop 1 |>.head?.all (· = ')') then return done.reverse
        else literal
      else if plain && !s.braced && endsWord c then return done.reverse
      else literal

/-- Reads what a dollar sign stands in front of, `none` if it stands for itself. -/
def readDollar (s : Scope) : Nat → Reading (Option Part)
  | 0 => refuse "Unterminated quoted string"
  | fuel + 1 => do
    skip 1
    match ← peek with
    | none => return none
    | some c =>
      if c = '(' then
        skip 1
        if ← accept '(' then
          let expression ← readParts { surroundings := .arithmetic, text := s.text } [] fuel
          if (← accept ')') && (← accept ')') then
            return some (.arithmetic expression s.quotes)
          else refuse "Missing '))'"
        else
          let before := (← get).pending
          modify ({ · with pending := [] })
          let command ← readList true false none fuel
          match ← nextToken .plain fuel with
          | .closing => pure ()
          | t => unexpected t (some .closing)
          modify ({ · with pending := before, pushed := none })
          return some (.output command s.quotes)
      else if c = '\x7b' then
        skip 1
        let inner : Scope :=
          { surroundings := if s.surroundings == .arithmetic then .doubleQuotes else s.surroundings
            braced := true, text := s.text }
        match ← readBracedName with
        | (none, _) => readUnknown inner fuel
        | (some name, counted) =>
          if counted then
            if ← accept '\x7d' then return some (.parameter name .length s.quotes)
            else readUnknown inner fuel
          else
            match ← readUseSign with
            | .value => return some (.parameter name .value s.quotes)
            | .unknown =>
              -- the character is passed over, even if a line ends with it
              modify fun c => { c with rest := c.rest.drop 1 }
              readUnknown inner fuel
            | .word make isPattern =>
              let inner := if isPattern then { inner with surroundings := .plain } else inner
              let inner := if s.innerQuotes then { inner with innerQuotes := false } else inner
              let word ← readParts inner [] fuel
              if ← accept '\x7d' then return some (.parameter name (make word) s.quotes)
              else refuse "Missing '\x7d'"
      else if startsName c then
        let name ← readWhile isNameChar [] fuel
        return some (.parameter (String.ofList name) .value s.quotes)
      else if isSpecialName c then
        skip 1
        return some (.parameter c.toString .value s.quotes)
      else return none

/-- Reads on to the end of braces in which something has no meaning. -/
def readUnknown (inner : Scope) : Nat → Reading (Option Part)
  | 0 => refuse "Missing '\x7d'"
  | fuel + 1 => do
    let _ ← readParts inner [] fuel
    if ← accept '\x7d' then return some (.parameter "" .unknown false)
    else refuse "Missing '\x7d'"

/-- Reads the texts that redirections have announced. They begin on the next line. -/
def readTexts : Nat → Reading Unit
  | 0 => return
  | fuel + 1 => do
    match (← get).pending with
    | [] => return
    | p :: more =>
      let word ← if p.verbatim then do
          let content ← verbatimLines p [] ((← get).rest.length + 1)
          pure [Part.text (String.ofList content) true]
        else do
          let beyond := (← get).beyond
          modify ({ · with beyond := [] })
          let first ← beginLine p
          let word ← readParts { surroundings := .hereText, text := some p }
            [.text (String.ofList first) true] fuel
          modify fun c => { c with rest := c.beyond, beyond }
          pure word
      modify fun c => { c with pending := more, texts := (p.number, word) :: c.texts }
      readTexts fuel

/-- Reads the next token. -/
def nextToken (look : Look) : Nat → Reading Token
  | 0 => return .ending
  | fuel + 1 => do
    let pushed := (← get).pushed
    let t ← match pushed with
      | some t => do
        modify ({ · with pushed := none })
        pure t
      | none => readToken fuel
    match t with
    | .newline =>
      if look.newlines then
        readTexts fuel
        nextToken look fuel
      else return t
    | .word w =>
      match plainText? w with
      | some text =>
        if look.reserved && reservedWords.contains text then return .reserved text
        else if pushed.isSome then return t
        else
          let isAlias ← if (← leaveAliases) || look.aliases then enterAlias text else pure false
          if isAlias then nextToken { look with aliases := true } fuel else return t
      | none => return t
    | _ => return t

/-- Reads a token from the text. -/
def readToken : Nat → Reading Token
  | 0 => return .ending
  | fuel + 1 => do
    let orDouble (c : Char) (double single : Token) : Reading Token := do
      skip 1
      return if ← accept c then double else single
    match ← peek with
    | none => return .ending
    | some ' ' | some '\t' =>
      skip 1
      readToken fuel
    | some '#' =>
      skip ((← get).rest.takeWhile (· != '\n')).length
      readToken fuel
    | some '\n' =>
      skip 1
      return .newline
    | some '&' => orDouble '&' .and .ampersand
    | some '|' => orDouble '|' .or .pipe
    | some ';' => orDouble ';' .endBranch .semicolon
    | some '(' =>
      skip 1
      return .opening
    | some ')' =>
      skip 1
      return .closing
    | some '<' => return .redirect 0 (← readSign true)
    | some '>' => return .redirect 1 (← readSign false)
    | some c =>
      match c.isDigit, (← get).rest.drop 1 with
      | true, '<' :: _ =>
        skip 1
        return .redirect (c.toNat - 48) (← readSign true)
      | true, '>' :: _ =>
        skip 1
        return .redirect (c.toNat - 48) (← readSign false)
      | _, _ => return .word (← readParts {} [] fuel)

/-- Reads what follows the signs of a redirection. -/
def readTarget (fd : Nat) (sign : RedirectSign) : Nat → Reading Redirect
  | 0 => unexpected .ending
  | fuel + 1 => do
    match sign with
    | .here stripTabs =>
      skipBlanks ((← get).rest.length + 1)
      let mark ← readParts { verbatim := true } [] fuel
      if mark.isEmpty then unexpected (← readToken fuel)
      let number := (← get).textCount
      let p : Pending := { number, mark := bareText mark, stripTabs, verbatim := hasQuotes mark }
      modify fun c => { c with pending := c.pending ++ [p], textCount := number + 1 }
      return .here fd number
    | _ =>
      match ← nextToken .plain fuel with
      | .word w =>
        match sign with
        | .file kind => return .file fd kind w
        | _ => return .copy fd w
      | t => unexpected t

/-- Reads the rest of a simple command. -/
def readSimple (line : Nat) (assignments : List (String × Word)) (words : List Word)
    (redirects : List Redirect) : Nat → Reading Command
  | 0 => unexpected .ending
  | fuel + 1 => do
    let finished : Command :=
      .simple line assignments.reverse words.reverse redirects.reverse
    match ← nextToken { aliases := words.isEmpty } fuel with
    | .word w =>
      match if words.isEmpty then assignment? w else none with
      | some a => readSimple line (a :: assignments) words redirects fuel
      | none => readSimple line assignments (w :: words) redirects fuel
    | .redirect fd sign => do
      let r ← readTarget fd sign fuel
      readSimple line assignments words (r :: redirects) fuel
    | .opening =>
      match words, assignments, redirects with
      | [name], [], [] =>
        match ← nextToken .plain fuel with
        | .closing => pure ()
        | t => unexpected t (some .closing)
        match plainText? name with
        | some name =>
          if !isName name || specialBuiltins.contains name then refuse "Bad function name"
          let line := (← get).line
          let t ← nextToken .below fuel
          modify ({ · with pushed := some t })
          return .define line name (← readCommand fuel)
        | none => refuse "Bad function name"
      | _, _, _ =>
        modify ({ · with pushed := some .opening })
        return finished
    | t =>
      modify ({ · with pushed := some t })
      return finished

/-- Reads the redirections that follow a construct. -/
def readRedirects (done : List Redirect) : Nat → Reading (List Redirect)
  | 0 => return done.reverse
  | fuel + 1 => do
    match ← nextToken .construct fuel with
    | .redirect fd sign => readRedirects ((← readTarget fd sign fuel) :: done) fuel
    | t =>
      modify ({ · with pushed := some t })
      return done.reverse

/-- Demands a token. -/
def expect (wanted : String) : Nat → Reading Unit
  | 0 => unexpected .ending (some (.reserved wanted))
  | fuel + 1 => do
    match ← nextToken .construct fuel with
    | .reserved name => if name ≠ wanted then unexpected (.reserved name) (some (.reserved wanted))
    | t => unexpected t (some (.reserved wanted))

/-- Reads commands that have to be there. If there are none, what has to follow them is missing
too. -/
def readBody : Nat → Reading Command
  | 0 => unexpected .ending
  | fuel + 1 => do
    return (← readList false false none fuel).getD default

/-- Reads one command. -/
def readCommand : Nat → Reading Command
  | 0 => unexpected .ending
  | fuel + 1 => do
    let t ← nextToken .plain fuel
    let line := (← get).line
    let finish (c : Command) : Reading Command := do
      match ← readRedirects [] fuel with
      | [] => return c
      | redirects => return .redirected line c redirects
    match t with
    | .reserved "if" => finish (← readChoice fuel)
    | .reserved "while" | .reserved "until" =>
      let condition ← readBody fuel
      expect "do" fuel
      let body ← readBody fuel
      expect "done" fuel
      finish (.loop (t.shown == "\"until\"") condition body)
    | .reserved "for" =>
      let name ← match ← nextToken .plain fuel with
        | .word w =>
          match plainText? w with
          | some name => if isName name then pure name else refuse "Bad for loop variable"
          | none => refuse "Bad for loop variable"
        | _ => refuse "Bad for loop variable"
      let words ← match ← nextToken .below fuel with
        | .reserved "in" => readForWords [] fuel
        | .semicolon => pure [[.parameter "@" .value true]]
        | t => do
          modify ({ · with pushed := some t })
          pure [[.parameter "@" .value true]]
      match ← nextToken .below fuel with
      | .reserved "do" => pure ()
      | t => unexpected t (some (.reserved "do"))
      let body ← readBody fuel
      expect "done" fuel
      finish (.each line name words body)
    | .reserved "case" =>
      match ← nextToken .plain fuel with
      | .word subject =>
        match ← nextToken .below fuel with
        | .reserved "in" => pure ()
        | t => unexpected t (some (.reserved "in"))
        let branches ← readBranches [] fuel
        finish (.select line subject branches)
      | t => unexpected t (some (.word []))
    | .opening =>
      let body ← readBody fuel
      match ← nextToken .construct fuel with
      | .closing => pure ()
      | t => unexpected t (some .closing)
      return .subshell line body (← readRedirects [] fuel)
    | .reserved "\x7b" =>
      let body ← readBody fuel
      expect "\x7d" fuel
      finish body
    | .word _ | .redirect _ _ =>
      modify ({ · with pushed := some t })
      readSimple line [] [] [] fuel
    | t => unexpected t

/-- Reads what follows an `if`. -/
def readChoice : Nat → Reading Command
  | 0 => unexpected .ending
  | fuel + 1 => do
    let condition ← readBody fuel
    expect "then" fuel
    let yes ← readBody fuel
    match ← nextToken .construct fuel with
    | .reserved "elif" => return .choice condition yes (some (← readChoice fuel))
    | .reserved "else" =>
      let no ← readBody fuel
      expect "fi" fuel
      return .choice condition yes (some no)
    | t =>
      modify ({ · with pushed := some t })
      expect "fi" fuel
      return .choice condition yes none

/-- Reads the words that a `for` goes through. -/
def readForWords (done : List Word) : Nat → Reading (List Word)
  | 0 => unexpected .ending
  | fuel + 1 => do
    match ← nextToken .plain fuel with
    | .word w => readForWords (w :: done) fuel
    | .newline =>
      readTexts fuel
      return done.reverse
    | .semicolon => return done.reverse
    | t => unexpected t

/-- Reads the branches of a `case`. -/
def readBranches (done : List (List Word × Option Command)) :
    Nat → Reading (List (List Word × Option Command))
  | 0 => unexpected .ending
  | fuel + 1 => do
    match ← nextToken .below fuel with
    | .reserved "esac" => return done.reverse
    | t =>
      let t ← match t with
        | .opening => nextToken .plain fuel
        | t => pure t
      let patterns ← readPatterns t [] fuel
      let body ← readList true false none fuel
      let done := (patterns, body) :: done
      match ← nextToken .below fuel with
      | .reserved "esac" => return done.reverse
      | .endBranch => readBranches done fuel
      | t => unexpected t (some .endBranch)

/-- Reads the patterns of a branch, of which the first token has been read. -/
def readPatterns (first : Token) (done : List Word) : Nat → Reading (List Word)
  | 0 => unexpected .ending
  | fuel + 1 => do
    let pattern ← match first with
      | .word w => pure w
      | .reserved name => pure [Part.text name false]
      | t => unexpected t (some .closing)
    match ← nextToken .plain fuel with
    | .pipe => readPatterns (← nextToken .plain fuel) (pattern :: done) fuel
    | .closing => return (pattern :: done).reverse
    | t => unexpected t (some .closing)

/-- Reads commands joined by pipes. -/
def readPipeline : Nat → Reading Command
  | 0 => unexpected .ending
  | fuel + 1 => do
    match ← nextToken .construct fuel with
    | .reserved "!" => do
      let t ← nextToken .construct fuel
      modify ({ · with pushed := some t })
      return .negation (← readPipes [] fuel)
    | t =>
      modify ({ · with pushed := some t })
      readPipes [] fuel

/-- Goes on with commands joined by pipes. -/
def readPipes (done : List Command) : Nat → Reading Command
  | 0 => unexpected .ending
  | fuel + 1 => do
    let c ← readCommand fuel
    match ← nextToken .plain fuel with
    | .pipe =>
      let t ← nextToken .below fuel
      modify ({ · with pushed := some t })
      readPipes (c :: done) fuel
    | t =>
      modify ({ · with pushed := some t })
      return if done.isEmpty then c else .pipeline (c :: done).reverse false

/-- Reads pipelines joined by `&&` and `||`, which are carried out from the left. -/
def readChain (first : Option Command) : Nat → Reading Command
  | 0 => unexpected .ending
  | fuel + 1 => do
    match first with
    | none => readChain (some (← readPipeline fuel)) fuel
    | some a =>
      match ← nextToken .plain fuel with
      | .and =>
        let t ← nextToken .below fuel
        modify ({ · with pushed := some t })
        readChain (some (.both a (← readPipeline fuel))) fuel
      | .or =>
        let t ← nextToken .below fuel
        modify ({ · with pushed := some t })
        readChain (some (.either a (← readPipeline fuel))) fuel
      | t =>
        modify ({ · with pushed := some t })
        return a

/-- Reads commands up to the end of the construct they stand in, or with `oneLine` up to the end of
the line. Unless `canEnd`, there has to be one. -/
def readList (canEnd oneLine : Bool) (before : Option Command) :
    Nat → Reading (Option Command)
  | 0 => unexpected .ending
  | fuel + 1 => do
    match ← nextToken { Look.construct with newlines := !oneLine } fuel with
    | .newline =>
      readTexts fuel
      return before
    | .ending =>
      readTexts fuel
      modify ({ · with pushed := some .ending })
      return before
    | t =>
      modify ({ · with pushed := some t })
      if canEnd && !oneLine && t.endsList then return before
      let c ← readChain none fuel
      let t ← nextToken .plain fuel
      let c := match t, c with
        | .ampersand, .pipeline commands _ => .pipeline commands true
        | .ampersand, .redirected line c redirects => .background line c redirects
        | .ampersand, c => .background 0 c []
        | _, c => c
      let c := match before with
        | some b => Command.sequence b c
        | none => c
      match t with
      | .newline | .ending =>
        modify ({ · with pushed := some t })
        readList true oneLine (some c) fuel
      | .ampersand | .semicolon => readList true oneLine (some c) fuel
      | t =>
        if oneLine then unexpected t
        modify ({ · with pushed := some t })
        return some c

end

/-- The word that a text is, if it is read like one in double quotes. -/
def quotedWord? (text : String) : Except SyntaxError Word := do
  let (word, _) ← (readParts { surroundings := .hereText } [] (16 * text.length + 64)).run
    { rest := text.toList }
  return word

/-- Reads the next line of commands, which may hold none. The flag tells that there is nothing more
to read. -/
def nextCommand (c : Cursor) : Except SyntaxError (Option Command × Bool × Cursor) := do
  let (command, c) ← (readList true true none (16 * c.rest.length + 64)).run
    { c with pushed := none, pending := [] }
  let ended := match c.pushed with
    | some .ending => true
    | _ => false
  return (command, ended, { c with pushed := none })

end Script

end CommandShell
