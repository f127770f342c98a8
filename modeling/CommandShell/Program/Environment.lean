import CommandShell.Program.Basic

/-!
# The environment of programs

The programs that show variables and change them for another program: `printenv` and `env`.

The first line of a script can give its interpreter one argument only, so `env` can be told to take
several words from one. `Split.words` cuts such a text into words, in which blanks can be quoted and
variables can be referred to.
-/

namespace CommandShell

namespace Program

/-! ## Showing variables -/

/-- Variables as they are written. -/
def environmentText (ending : String) (env : List (String × String)) : ByteArray :=
  Text.bytes ("".intercalate (env.map fun (n, v) => n ++ "=" ++ v ++ ending))

/-- Writes variables of its environment. -/
def printenv : Program := fun argv env =>
  let name := argv.headD ""
  withOptions name { flags := "0", leading := true, long := [("null", '0')] } argv 2 fun o =>
    let ending := if o.has '0' then "\x00" else "\n"
    match o.operands with
    | [] => finish name (environmentText ending env) 0
    | names =>
      let found := names.filterMap fun name => env.lookup name
      finish name (Text.bytes ("".intercalate (found.map (· ++ ending))))
        (if found.length = names.length then 0 else 1)

/-! ## Words in one argument -/

namespace Split

/-- The words that have been cut off, the last one first, and what of the next one has been read. -/
structure Progress where
  done : List String := []
  word : Option (List Char) := none

/-- Adds characters to the word that is being read. -/
def Progress.push (p : Progress) (cs : List Char) : Progress :=
  { p with word := some (cs.reverse ++ p.word.getD []) }

/-- Ends the word that is being read. -/
def Progress.cut (p : Progress) : Progress :=
  match p.word with
  | some cs => ⟨String.ofList cs.reverse :: p.done, none⟩
  | none => p

/-- Which quotes stand open. -/
inductive Quotes
  | none
  | single
  | double
  deriving DecidableEq

/-- The character that a letter after a backslash stands for. -/
def control? (c : Char) : Option Char :=
  match c with
  | 'f' => some '\x0c'
  | 'n' => some '\n'
  | 'r' => some '\r'
  | 't' => some '\t'
  | 'v' => some '\x0b'
  | _ => Option.none

/-- The name in a reference to a variable, which begins at its brace. -/
def variableName? (cs : List Char) : Option (List Char × List Char) :=
  match cs with
  | '\x7b' :: rest =>
    let name := rest.takeWhile fun c => c.isAlphanum || c == '_'
    match name, rest.drop name.length with
    | first :: _, '\x7d' :: rest => if first.isDigit then none else some (name, rest)
    | _, _ => none
  | _ => none

/-- Reads on to the end of a text. A step can pass over several characters, so the count bounds the
steps. -/
def read (env : List (String × String)) (quotes : Quotes) (p : Progress) :
    Nat → List Char → Except String (List String)
  | 0, _ | _, [] =>
    if quotes = .none then .ok p.cut.done.reverse else .error "no terminating quote in -S string"
  | n + 1, c :: rest =>
    if c = '\'' && quotes ≠ .double then
      read env (if quotes = .single then .none else .single) (p.push []) n rest
    else if c = '"' && quotes ≠ .single then
      read env (if quotes = .double then .none else .double) (p.push []) n rest
    else if (c = ' ' || (9 ≤ c.toNat && c.toNat ≤ 13)) && quotes = .none then
      read env quotes p.cut n rest
    else if c = '#' && quotes = .none && p.word.isNone then .ok p.done.reverse
    else if c = '\\' && !(quotes = .single && rest.head? ≠ some '\\' && rest.head? ≠ some '\'') then
      match rest with
      | [] => .error "invalid backslash at end of string in -S"
      | d :: rest =>
        if "\"#$'\\".contains d then read env quotes (p.push [d]) n rest
        else if d = '_' then
          read env quotes (if quotes = .double then p.push [' '] else p.cut) n rest
        else if d = 'c' then
          if quotes = .double then .error "'\\c' must not appear in double-quoted -S string"
          else .ok p.cut.done.reverse
        else
          match control? d with
          | some control => read env quotes (p.push [control]) n rest
          | Option.none => .error ("invalid sequence '\\" ++ d.toString ++ "' in -S")
    else if c = '$' && quotes ≠ .single then
      match variableName? rest with
      | Option.none =>
        .error ("only $\x7bVARNAME\x7d expansion is supported, error at: " ++
          String.ofList (c :: rest))
      | some (name, rest) =>
        match env.lookup (String.ofList name) with
        | some value => read env quotes (p.push value.toList) n rest
        | Option.none => read env quotes p n rest
    else read env quotes (p.push [c]) n rest

/-- The words of a text. -/
def words (env : List (String × String)) (text : String) : Except String (List String) :=
  read env .none {} (text.length + 1) text.toList

/-- The text that a word gives to be cut into words: the options before it, if it holds some more,
the text, and the words behind it. -/
def text? (word : String) (rest : List String) :
    Option (List String × String × List String) :=
  let long := "--split-string"
  if word = long then rest.head?.map fun text => ([], text, rest.drop 1)
  else if word.startsWith (long ++ "=") then
    some ([], (word.drop (long.length + 1)).toString, rest)
  else
    match word.toList with
    | '-' :: cs =>
      let others := cs.takeWhile fun c => "i0v".contains c
      let before := if others.isEmpty then [] else [String.ofList ('-' :: others)]
      match cs.drop others.length with
      | ['S'] => rest.head?.map fun text => (before, text, rest.drop 1)
      | 'S' :: text => some (before, String.ofList text, rest)
      | _ => none
    | _ => none

/-- The option in a word takes the next word as its value. -/
def takesNext (word : String) : Bool :=
  word = "--unset" || word = "--chdir" ||
    (!word.startsWith "--" && (word.endsWith "u" || word.endsWith "C") &&
      ((word.toList.drop 1).dropLast.all fun c => "i0v".contains c))

/-- Puts the words of a text in place of the option that gives it, wherever that stands among the
options. The count bounds the steps. -/
def expand (env : List (String × String)) : Nat → List String → Except String (List String)
  | 0, words => .ok words
  | _, [] => .ok []
  | n + 1, word :: rest =>
    match text? word rest with
    | some (before, text, rest) => do
      return before ++ (← expand env n ((← words env text) ++ rest))
    | none =>
      if !word.startsWith "-" || word = "-" || word = "--" then .ok (word :: rest)
      else
        match rest with
        | value :: later => do
          if takesNext word then return word :: value :: (← expand env n later)
          else return word :: (← expand env n rest)
        | [] => .ok [word]

end Split

/-! ## Changing variables -/

/-- The variables after the assignments in front of other words, and those words. -/
def assign (env : List (String × String)) : List String → List (String × String) × List String
  | word :: rest =>
    let name := (word.splitOn "=").headD ""
    if name = word then (env, word :: rest)
    else
      let value := (word.drop (name.length + 1)).toString
      let known := env.any (·.1 == name)
      assign
        (if known then env.map fun (n, v) => (n, if n = name then value else v)
          else env ++ [(name, value)]) rest
  | [] => (env, [])

/-- There is a blank in a text. -/
def hasBlank (text : String) : Bool :=
  text.any fun c => c = ' ' || (9 ≤ c.toNat && c.toNat ≤ 13)

/-- What is said to somebody who seems to have meant several words by one. -/
def splitHint : String := "use -[v]S to pass options in shebang lines"

/-- Turns into a program with other variables. -/
def runWith (name : String) (env : List (String × String)) (program : String)
    (arguments : List String) : Step Nat := do
  call (.setEnvironment env)
  match ← call (.exec program (program :: arguments)) with
  | none => return 0
  | some e =>
    complain (name ++ ": " ++ cite program ++ ": " ++ e.text ++ "\n")
    if e = .ENOENT then
      if hasBlank program then
        complain (name ++ ": " ++ splitHint ++ "\n")
      return 127
    else return 126

/-- Writes its environment, or turns into another program, after adjustments. -/
def env : Program := fun argv env =>
  let name := argv.headD ""
  let known : OptionSet :=
    { flags := "i0v", valued := "uC", leading := true
      long := [("ignore-environment", 'i'), ("null", '0'), ("unset", 'u'), ("chdir", 'C')] }
  match Split.expand env (wordCount argv) (argv.drop 1) with
  | .error reason => do
    complain (name ++ ": " ++ reason ++ "\n")
    return 125
  | .ok words =>
    match known.read words with
    | .error e =>
      let hint := match e with
        | .unknown c => if hasBlank c.toString then "\n" ++ name ++ ": " ++ splitHint else ""
        | _ => ""
      misuse name (e.message ++ hint) 125
    | .ok o => do
      let (clears, words) := match o.operands with
        | "-" :: rest => (true, rest)
        | words => (o.has 'i', words)
      let env := if clears then [] else env.filter fun (n, _) => !(o.values 'u').contains n
      let (env, words) := assign env words
      match words with
      | [] =>
        if (o.value? 'C').isSome then misuse name "must specify command with --chdir (-C)" 125
        else finish name (environmentText (if o.has '0' then "\x00" else "\n") env) 0
      | program :: arguments =>
        let entered ← match o.value? 'C' with
          | some path => call (.enter path)
          | none => .done (.ok ())
        match entered with
        | .error e =>
          let path := (o.value? 'C').getD ""
          complain (name ++ ": cannot change directory to " ++ quoteAlways path ++ ": " ++ e.text ++
            "\n")
          return 125
        | .ok _ =>
          if o.has '0' then misuse name "cannot specify --null (-0) with command" 125
          else runWith name env program arguments
where
  /-- How many characters there are in all words. -/
  wordCount (argv : List String) : Nat :=
    argv.foldl (fun sum word => sum + word.length + 1) 0

end Program

end CommandShell
