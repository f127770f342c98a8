import CommandShell.Script.Env
import CommandShell.Script.Fields

/-!
# What scripts read

The options of built-in commands, and the built-in commands that read: `read` takes a line from the
standard input and splits it into variables, and `getopts` takes the next option from the arguments
of the script.
-/

namespace CommandShell

namespace Script

/-! ## Options of built-in commands -/

/-- Options with their values, and the words after them. -/
abbrev Given := List (Char × String) × List String

/-- Reads the options in one word. A letter that a colon follows in `allowed` takes a value: the
rest of its word, or the next word. -/
def readFlagWord (allowed : List Char) (letters : List Char) (words : List String) : Run Given := do
  match letters with
  | [] => return ([], words)
  | c :: rest =>
    match if c = ':' then [] else allowed.dropWhile (· ≠ c) with
    | _ :: ':' :: _ =>
      match rest, words with
      | [], [] => fault ("No arg for -" ++ c.toString ++ " option")
      | [], value :: words => return ([(c, value)], words)
      | rest, words => return ([(c, String.ofList rest)], words)
    | _ :: _ =>
      let (given, words) ← readFlagWord allowed rest words
      return ((c, "") :: given, words)
    | [] => fault ("Illegal option -" ++ c.toString)

/-- Reads the options in front of the words of a built-in command. -/
def readFlags (allowed : String) (words : List String) : Nat → Run Given
  | 0 => return ([], words)
  | fuel + 1 => do
    match words with
    | [] => return ([], [])
    | word :: rest =>
      match word.toList with
      | ['-', '-'] => return ([], rest)
      | '-' :: c :: letters =>
        let (given, rest) ← readFlagWord allowed.toList (c :: letters) rest
        let (more, rest) ← readFlags allowed rest fuel
        return (given ++ more, rest)
      | _ => return ([], words)

/-- The options of a built-in command and its other words. -/
def flagsOf (allowed : String) (words : List String) : Run Given :=
  readFlags allowed words (words.length + 1)

/-- The words of a built-in command that has no options. -/
def operandsOf (words : List String) : Run (List String) := do
  return (← flagsOf "" words).2

/-! ## Lines -/

/-- Reads one line, byte by byte, so that nothing after it is used up. Unless `raw`, a backslash
joins lines and keeps the character after it from separating. Tells whether the line had an end. -/
def readInputLine (raw : Bool) (done : List Stretch) (current : List Atom) :
    Nat → Run (List Stretch × Bool)
  | 0 => return ([], false)
  | fuel + 1 => do
    let finish (ended : Bool) : Run (List Stretch × Bool) :=
      return ((⟨.separable, current.reverse⟩ :: done).reverse, ended)
    let next : Run (Option Char) := do
      match ← ask (.read Fd.stdin 1) with
      | .error _ => return none
      | .ok bytes => return if bytes.isEmpty then none else some (Bytewise.ofByte (bytes.get! 0))
    match ← next with
    | none => finish false
    | some '\n' => finish true
    | some '\x00' => readInputLine raw done current fuel
    | some '\\' =>
      if raw then readInputLine raw done (.char '\\' false :: current) fuel
      else
        match ← next with
        | none => finish false
        | some '\n' => readInputLine raw (⟨.separable, current.reverse⟩ :: done) [] fuel
        | some c =>
          let done := ⟨.whole, [.char c true]⟩ :: ⟨.separable, current.reverse⟩ :: done
          readInputLine raw done [] fuel
    | some c => readInputLine raw done (.char c false :: current) fuel

/-- Gives fields to variables. Those that are left get nothing. -/
def assignFields (fields : List (List Atom)) : List String → Run Unit
  | [] => return
  | name :: rest => do
    setVariable name (some (Atom.text (fields.headD [])))
    assignFields (fields.drop 1) rest

/-- Reads a line into variables, of which the last takes all that is left. -/
def read (words : List String) : Run Nat := do
  let (given, names) ← flagsOf "p:r" words
  if names.isEmpty then fault "arg count"
  let raw := given.any (·.1 = 'r')
  let (stretches, ended) ← readInputLine raw [] [] Program.patience
  assignFields (Fields.split (← get).separators (some names.length) stretches) names
  return if ended then 0 else 1

/-! ## Options of the script -/

/-- Takes the next option from words. -/
def takeOption (allowed name : String) (words : List String) : Run Nat := do
  let (index, offset) := (← get).optionPlace
  let finish (option : Char) (index : Nat) (offset : Option Nat) (code : Nat) : Run Nat := do
    setVariable "OPTIND" (some (toString index))
    modify ({ · with optionPlace := (index, offset) })
    setVariable name (some option.toString)
    return code
  let inside : List Char := match offset with
    | some n => if index ≤ 1 then [] else ((words.getD (index - 2) "").toList).drop n
    | none => []
  let found : Option (List Char × Nat) :=
    if !inside.isEmpty then some (inside, index)
    else
      match (words.getD (index - 1) "").toList with
      | '-' :: c :: rest => some (c :: rest, index + 1)
      | _ => none
  match found with
  | none => finish '?' index none 1
  | some (['-'], index) =>
    if inside.isEmpty then finish '?' index none 1 else takeLetter finish ['-'] index
  | some (letters, index) => takeLetter finish letters index
where
  /-- Takes the first of the letters of a word, of which `index` words have been used up. -/
  takeLetter (finish : Char → Nat → Option Nat → Nat → Run Nat) (letters : List Char)
      (index : Nat) : Run Nat := do
    let silent := allowed.startsWith ":"
    let c := letters.headD '?'
    let rest := letters.drop 1
    let word := (words.getD (index - 2) "").toList
    let offset : Option Nat := some (word.length - rest.length)
    let object (reason : String) : Run Unit := do
      if silent then setVariable "OPTARG" (some c.toString)
      else
        complain (reason ++ "\n")
        unsetVariable "OPTARG"
    match if c = ':' then [] else allowed.toList.dropWhile (· ≠ c) with
    | [] =>
      object ("Illegal option -" ++ c.toString)
      finish '?' index offset 0
    | _ :: ':' :: _ =>
      if !rest.isEmpty then
        setVariable "OPTARG" (some (String.ofList rest))
        finish c index none 0
      else
        match words[index - 1]? with
        | some value =>
          setVariable "OPTARG" (some value)
          finish c (index + 1) none 0
        | none =>
          object ("No arg for -" ++ c.toString ++ " option")
          finish (if silent then ':' else '?') index none 0
    | _ :: _ =>
      setVariable "OPTARG" (some "")
      finish c index offset 0

/-- Takes the next option from the arguments of the script, or from other words. -/
def getopts (words : List String) : Run Nat := do
  match words with
  | [allowed, name] => search allowed name (← get).arguments
  | allowed :: name :: rest => search allowed name rest
  | _ => fault "Usage: getopts optstring var [arg...]"
where
  /-- Begins at the first word if the place is behind the last. -/
  search (allowed name : String) (words : List String) : Run Nat := do
    if (← get).optionPlace.1 > words.length + 1 then
      modify ({ · with optionPlace := (1, none) })
    takeOption allowed name words

end Script

end CommandShell
