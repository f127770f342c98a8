import CommandShell.Script.Input
import CommandShell.Script.Output

/-!
# What scripts settle for themselves

The built-in commands that change what a script knows and what its process is like: variables,
arguments, options, aliases, the working directory, the permissions of new files and the limit on
descriptors.
-/

namespace CommandShell

namespace Script

open Numeral

/-! ## Variables -/

/-- Variables as a script would set them, in the order of their names. -/
def listVariables (lead : String) (chosen : Variable → Bool) : Run String := do
  let shown := ((← get).bindings.filter fun v => chosen v.2).mergeSort fun a b => a.1 ≤ b.1
  return String.join (shown.map fun (name, v) =>
    lead ++ name ++ (match v.value with
      | some value => "=" ++ quoteText value
      | none => "") ++ "\n")

/-- The name and the value in a word, if it has both. -/
def splitAssignment (word : String) : String × Option String :=
  let name := word.toList.takeWhile (· ≠ '=')
  (String.ofList name,
    if name.length < word.length then some (String.ofList (word.toList.drop (name.length + 1)))
    else none)

/-- Marks variables, which may get values on the way. -/
def declare (exported readOnly : Bool) (words : List String) : Run Nat := do
  let (given, words) ← flagsOf "p" words
  if !given.isEmpty || words.isEmpty then
    let lead := if readOnly then "readonly " else "export "
    emit (← listVariables lead fun v => if readOnly then v.readOnly else v.exported) 0
  else
    for word in words do
      match splitAssignment word with
      | (name, some value) => setVariable name (some value) exported readOnly
      | (name, none) => markVariable name exported readOnly
    return 0

/-- Gives variables values of their own in the present function. -/
def makeLocal (words : List String) : Run Nat := do
  if (← get).depth = 0 then fault "not in a function"
  for word in words do
    if word = "-" then setOptionsLocal
    else
      let (name, value) := splitAssignment word
      setLocal name value false
  return 0

/-- Takes variables or functions away. -/
def unset (words : List String) : Run Nat := do
  let (given, names) ← flagsOf "vf" words
  let functions := given.getLast?.any (·.1 = 'f')
  for name in names do
    if functions then
      modify fun e => { e with functions := e.functions.filter (·.1 ≠ name) }
    else
      if !isName name then fault (name ++ ": bad variable name")
      unsetVariable name
  return 0

/-! ## Arguments and options -/

/-- Leaves out the first arguments. -/
def shift (words : List String) : Run Nat := do
  let count ← match words with
    | [] => pure 1
    | word :: _ => needNumber word
  if count > (← get).arguments.length then fault "can't shift that many"
  modify fun e => { e with arguments := e.arguments.drop count, optionPlace := (1, none) }
  return 0

/-- The options and whether they are on, as a table or as commands that would set them. -/
def listOptions (asTable : Bool) : Run Unit := do
  let e ← get
  let lines := optionTable.map fun (name, _) =>
    if asTable then
      name ++ String.ofList (List.replicate (16 - name.length) ' ') ++
        if e.has name then "on\n" else "off\n"
    else "set " ++ (if e.has name then "-o " else "+o ") ++ name ++ "\n"
  let _ ← emit ((if asTable then "Current option settings\n" else "") ++ String.join lines) 0

/-- Turns the option of a letter on or off. -/
def setLetter (on : Bool) (letter : Char) : Run Unit := do
  match optionTable.find? (·.2 = some letter) with
  | some (name, _) => modify (·.setOption name on)
  | none => fault ("Illegal option -" ++ letter.toString)

/-- Turns options on and off by the letters of a word, and passes over the words that its letters
take: the names of options, one for each `o`. With `forCommand`, a `c` announces a command. Tells
what words are left and whether there was a `c`. -/
def setLetters (forCommand on : Bool) (words : List String) (announced : Bool) :
    List Char → Run (List String × Bool)
  | [] => return (words, announced)
  | c :: rest => do
    if c = 'c' && forCommand then setLetters forCommand on words true rest
    else if c = 'l' && forCommand then setLetters forCommand on words announced rest
    else if c = 'o' then
      match words with
      | [] => listOptions on
      | name :: _ =>
        if optionTable.any (·.1 = name) then modify (·.setOption name on)
        else fault ("Illegal option -o " ++ name)
      setLetters forCommand on (words.drop 1) announced rest
    else
      setLetter on c
      setLetters forCommand on words announced rest

/-- Turns options on and off by the words in front, and tells what words are left. -/
def setOptions (forCommand announced : Bool) (words : List String) :
    Nat → Run (List String × Bool)
  | 0 => return (words, announced)
  | fuel + 1 => do
    match words with
    | [] => return ([], announced)
    | word :: rest =>
      match word.toList with
      | ['-'] =>
        if !forCommand then modify fun e => (e.setOption "xtrace" false).setOption "verbose" false
        return (rest, announced)
      | ['-', '-'] =>
        if !forCommand && rest.isEmpty then
          modify ({ · with arguments := [], optionPlace := (1, none) })
        return (rest, announced)
      | '-' :: letters =>
        let (rest, announced) ← setLetters forCommand true rest announced letters
        setOptions forCommand announced rest fuel
      | '+' :: letters =>
        let (rest, announced) ← setLetters forCommand false rest announced letters
        setOptions forCommand announced rest fuel
      | _ => return (words, announced)

/-- Turns options on and off and gives the script its arguments. -/
def adjust (words : List String) : Run Nat := do
  if words.isEmpty then
    let text ← listVariables "" fun v => v.value.isSome
    emit text 0
  else
    let (rest, _) ← setOptions false false words (words.length + 1)
    if !rest.isEmpty then modify ({ · with arguments := rest, optionPlace := (1, none) })
    return 0

/-! ## Aliases -/

/-- Tells what names stand for, and lets names stand for something. -/
def nameAlias (words : List String) : Run Nat := do
  let shown (name value : String) : String := name ++ "=" ++ quoteText value ++ "\n"
  if words.isEmpty then
    let aliases := Env.inRows Env.rows (← get).aliases
    emit (String.join (aliases.map fun (name, value) => shown name value)) 0
  else
    let mut text := ""
    let mut code := 0
    for word in words do
      match splitAssignment word with
      | (name, some value) =>
        modify (·.setAlias name value)
      | (name, none) =>
        match (← get).aliases.lookup name with
        | some value => text := text ++ shown name value
        | none =>
          complain ("alias: " ++ name ++ " not found\n")
          code := 1
    emit text code

/-- Lets names stand for nothing but themselves. -/
def dropAlias (words : List String) : Run Nat := do
  let (given, names) ← flagsOf "a" words
  if !given.isEmpty then
    modify ({ · with aliases := [] })
    return 0
  else
    let mut code := 0
    for name in names do
      if ((← get).aliases.lookup name).isSome then
        modify fun e => { e with aliases := e.aliases.filter (·.1 ≠ name) }
      else
        complain ("unalias: " ++ name ++ " not found\n")
        code := 1
    return code

/-! ## The working directory -/

/-- A path without its dots, and with each pair of dots taking away the name before it. -/
def tidyPath (path : String) : String :=
  let names := (path.splitOn "/").foldl (fun names name =>
    if name.isEmpty || name = "." then names
    else if name = ".." then names.drop 1
    else name :: names) []
  (if path.startsWith "//" && !path.startsWith "///" then "//" else "/") ++
    "/".intercalate names.reverse

/-- The working directory by its own names. -/
def findDirectory : Run (Option String) := do
  match ← ask .whereAmI with
  | .ok path => return some (Bytewise.encode path)
  | .error e =>
    report ("getcwd() failed: " ++ e.text)
    return none

/-- Notes the working directory after it has changed. -/
def noteDirectory (directory : Option String) : Run Unit := do
  setVariable "OLDPWD" (some ((← get).directory.getD "")) true
  let directory ← match directory with
    | some path => pure (some path)
    | none => findDirectory
  modify ({ · with directory })
  setVariable "PWD" (some (directory.getD "")) true

/-- Enters a directory. Unless `physical`, pairs of dots are taken away from the path first. -/
def enter (physical : Bool) (path : String) : Run Bool := do
  let now := (← get).directory
  let tidied : Option String :=
    if physical then none
    else if path.startsWith "/" then some (tidyPath path)
    else now.map fun d => tidyPath (d ++ "/" ++ path)
  match ← ask (.enter (pathOf (tidied.getD path))) with
  | .error _ => return false
  | .ok _ =>
    noteDirectory tidied
    return true

/-- The options by which a path is taken as it stands or not; the last one counts. -/
def physicalFlag (given : List (Char × String)) : Bool :=
  given.getLast?.any (·.1 = 'P')

/-- Finds a directory below those that are searched for it. -/
def findBelow (path : String) : List String → Run (Option (String × Bool))
  | [] => return none
  | above :: rest => do
    let candidate := if above.isEmpty then path else above ++ "/" ++ path
    match ← ask (.inspect (pathOf candidate) true) with
    | .ok (.directory _ _) => return some (candidate, !above.isEmpty)
    | _ => findBelow path rest

/-- Changes the working directory. -/
def cd (words : List String) : Run Nat := do
  let (given, words) ← flagsOf "LP" words
  let e ← get
  let target := match words with
    | [] => (e.value? "HOME").getD ""
    | "-" :: _ => (e.value? "OLDPWD").getD ""
    | word :: _ => word
  let first := (target.splitOn "/").headD ""
  let isFixed := target.startsWith "/" || first = "." || first = ".."
  let path := if target.isEmpty then "." else target
  let searched ← match if isFixed then none else e.value? "CDPATH" with
    | some places => findBelow path (places.splitOn ":")
    | none => pure none
  let (destination, shown) := searched.getD (path, false)
  if ← enter (physicalFlag given) destination then
    let now := (← get).directory
    if shown || words.head? = some "-" then emit (now.getD "" ++ "\n") 0 else return 0
  else fault ("can't cd to " ++ target)

/-- Writes the working directory. -/
def pwd (words : List String) : Run Nat := do
  let (given, _) ← flagsOf "LP" words
  let known := (← get).directory
  let directory ← if physicalFlag given then findDirectory else pure known
  emit (directory.getD "" ++ "\n") 0

/-! ## The process -/

/-- Octal digits. -/
def octalDigits (count n : Nat) : String :=
  let digits := Nat.toDigits 8 n
  String.ofList (List.replicate (count - digits.length) '0' ++ digits)

/-- What new files may be used for, in letters. -/
def maskLetters (mask : Nat) : String :=
  ",".intercalate ([("u", 6), ("g", 3), ("o", 0)].map fun (who, place) =>
    who ++ "=" ++ String.join ([("r", 4), ("w", 2), ("x", 1)].map fun (letter, bit) =>
      if mask >>> place &&& bit = 0 then letter else ""))

/-- Reads what is to be allowed, in letters, starting from what is allowed. -/
def readPermissions (before allowed places : Nat) (cs : List Char) : Nat → Option Nat
  | 0 => none
  | fuel + 1 =>
    match cs with
    | [] => some allowed
    | cs =>
      let whos := cs.takeWhile fun c => "augo".contains c
      let place (c : Char) : Nat :=
        if c = 'a' then 0o111 else if c = 'u' then 0o100 else if c = 'g' then 0o010 else 0o001
      let places := whos.foldl (fun places c => places ||| place c) places
      let places := if places = 0 then 0o111 else places
      match cs.drop whos.length with
      | [] => some allowed
      | sign :: rest =>
        if !"=+-".contains sign then none
        else
          let letters := rest.takeWhile fun c => "rwxugoXs".contains c
          let bits (c : Char) : Nat :=
            if c = 'r' then 4 else if c = 'w' then 2 else if c = 'x' then 1
            else if c = 'u' then before >>> 6 else if c = 'g' then before >>> 3
            else if c = 'o' then before
            else if c = 'X' && before &&& 0o111 ≠ 0 then 1 else 0
          let value := ((letters.foldl (fun n c => n ||| bits c) 0) &&& 7) * places
          let cleared (n bits : Nat) : Nat := n - (n &&& bits)
          let allowed :=
            if sign = '-' then cleared allowed value
            else if sign = '+' then allowed ||| value
            else cleared allowed (places * 7) ||| value
          match rest.drop letters.length with
          | [] => some allowed
          | ',' :: more => readPermissions before allowed 0 more fuel
          | c :: more =>
            if "=+-".contains c then readPermissions before allowed places (c :: more) fuel
            else none

/-- Tells or changes which permissions new files do not get. -/
def umask (words : List String) : Run Nat := do
  let (given, words) ← flagsOf "S" words
  let mask : Nat ← ask (.setMask 0)
  let _ ← ask (.setMask mask)
  match words with
  | [] => emit ((if given.isEmpty then octalDigits 4 mask else maskLetters mask) ++ "\n") 0
  | word :: _ =>
    let cs := word.toList
    let wanted ← if cs.head?.any Char.isDigit then
        if cs.all fun c => '0' ≤ c && c ≤ '7' then pure ((readDigits 8 0 cs).1 % 512)
        else fault ("Illegal number: " ++ word)
      else
        match readPermissions (511 - mask) (511 - mask) 0 cs (cs.length + 1) with
        | some allowed => pure (511 - allowed)
        | none => fault ("Illegal mode: " ++ word)
    let _ ← ask (.setMask wanted)
    return 0

/-- Tells or changes the limit on descriptors. There are no other limits. -/
def ulimit (words : List String) : Run Nat := do
  let (given, words) ← flagsOf "HSatfdscmlpnvwr" words
  let onDescriptors := (given.filter fun f => f.1 ≠ 'H' && f.1 ≠ 'S').getLast?.any (·.1 = 'n')
  match words with
  | [] => do
    let limit : Nat ← ask .limit
    emit ((if onDescriptors then toString limit else "unlimited") ++ "\n") 0
  | [word] =>
    if word = "unlimited" then
      if onDescriptors then fault "error setting limit (Operation not permitted)" else return 0
    else
      match if word.toList.all Char.isDigit then word.toNat? else none with
      | none => fault "bad number"
      | some limit =>
        if onDescriptors then
          match ← ask (.setLimit limit) with
          | .ok _ => return 0
          | .error e => fault ("error setting limit (" ++ e.text ++ ")")
        else return 0
  | _ => fault "too many arguments"

end Script

end CommandShell
