import CommandShell.Script.Arithmetic
import CommandShell.Script.Env
import CommandShell.Script.Fields

/-!
# Expanding words

How the parts of a word become what a command gets to see: parameters give way to their values,
arithmetic expressions to their results and commands to their output. The result is a list of
`Stretch`es, which `Fields.split` makes into fields and `fileNames` into the names of files.

Whoever expands a word says how to run a command for its output.
-/

namespace CommandShell

namespace Script

/-- How a word is expanded. -/
structure Manner where
  /-- It may become several fields. -/
  splitting : Bool := false
  /-- It is the word in the use of a parameter, of which bare text is split as well. -/
  inUse : Bool := false
  /-- A tilde at its beginning stands for a directory. -/
  tilde : Bool := false
  /-- So does a tilde after a colon. -/
  tildeAfterColon : Bool := false

/-! ## Tildes -/

/-- The home of a user, or without a name the one that the script goes by. -/
def homeOf? (e : Env) (user : String) : Option String :=
  if user.isEmpty then e.value? "HOME" else if user = "root" then some "/root" else none

/-- Replaces tildes in a bare text, which `isLast` in its word. -/
def replaceTildes (e : Env) (afterColon isLast atStart : Bool) (plain : List Char) :
    List Char → List Part
  | [] => if plain.isEmpty then [] else [.text (String.ofList plain.reverse) false]
  | c :: rest =>
    if c = '~' && atStart then
      let ends (d : Char) : Bool := d == '/' || (afterColon && d == ':')
      let user := rest.takeWhile (!ends ·)
      let isOpen := user.length = rest.length && !isLast
      match if isOpen then none else homeOf? e (String.ofList user) with
      | some home =>
        (if plain.isEmpty then [] else [.text (String.ofList plain.reverse) false]) ++
          (if home.isEmpty then [] else [.text home true]) ++
          replaceTildes e afterColon isLast false [] (rest.drop user.length)
      | none => replaceTildes e afterColon isLast false (c :: plain) rest
    else replaceTildes e afterColon isLast (afterColon && c == ':') (c :: plain) rest
termination_by cs => cs.length
decreasing_by all_goals (simp only [List.length_cons, List.length_drop]; omega)

/-- Replaces the tildes of a word. -/
def withTildes (e : Env) (m : Manner) (atStart : Bool) : List Part → List Part
  | .text t false :: rest =>
    replaceTildes e m.tildeAfterColon rest.isEmpty atStart [] t.toList ++
      withTildes e m false rest
  | p :: rest => p :: withTildes e m false rest
  | [] => []

/-! ## Parameters -/

/-- What stands between the arguments of the script where all of them are named at once. -/
def joint (e : Env) (m : Manner) (name : String) (quoted : Bool) : List Atom :=
  if m.splitting && quoted && name = "@" then [.border]
  else
    match e.value? "IFS" with
    | none => [.char ' ' quoted]
    | some separators =>
      if m.splitting && !quoted then [.border]
      else (separators.toList.take 1).map (.char · quoted)

/-- The value of a parameter. -/
def parameter? (e : Env) (m : Manner) (name : String) (quoted : Bool) : Option (List Atom) :=
  let given (text : String) : Option (List Atom) := some (Atom.ofText text quoted)
  match name with
  | "?" => given (toString e.status)
  | "$" => given (toString e.pid)
  | "!" => e.started.bind fun pid => given (toString pid)
  | "#" => given (toString e.arguments.length)
  | "-" => given e.optionLetters
  | "@" | "*" =>
    some ((joint e m name quoted).intercalate (e.arguments.map (Atom.ofText · quoted)))
  | _ =>
    match name.toNat? with
    | some 0 => given e.name
    | some (n + 1) => e.arguments[n]?.bind given
    | none => (e.value? name).bind given

/-- How the value of a parameter is split. -/
def zoneOf (e : Env) (name : String) (quoted : Bool) : Zone :=
  if !quoted then .separable
  else if name = "@" && !e.arguments.isEmpty then .bordered
  else .whole

/-- The value of a parameter without an end that fits a pattern. -/
def withoutEnd (front longest : Bool) (pattern : List Atom) (value : List Atom) : List Atom :=
  let items := readPattern (Atom.marked pattern)
  let cs := value.map Atom.toChar
  if front then value.drop (cs.length - (dropFront items longest cs).length)
  else value.take (dropBack items longest cs).length

/-- A part stands in quotes. -/
def Part.isQuoted : Part → Bool
  | .text _ quoted | .parameter _ _ quoted | .output _ quoted | .arithmetic _ quoted => quoted

/-- Quotes begin here, or have ended before. -/
def quotesBegin : List Part → Bool
  | [] => true
  | .text "" true :: _ => true
  | p :: _ => !p.isQuoted

/-- Computes an arithmetic expression and gives variables the values that it assigns. -/
def compute (source : String) : Run Int64 := do
  let e ← get
  match ((Expression.read source).value fun name => (e.value? name).getD "").run [] with
  | .ok (n, assigned) =>
    for (name, value) in assigned.reverse do
      setVariable name (some (toString value))
    return n
  | .error error => fault (error.message source)

/-- The value of a parameter that has to be there. -/
def needParameter (name : String) (value : Option (List Atom)) : Run (List Atom) := do
  match value with
  | some atoms => return atoms
  | none =>
    if (← get).has "nounset" then fault (name ++ ": parameter not set")
    return []

/-! ## Words -/

mutual

/-- Expands a word. -/
def expandWord (capture : Option Command → Run String) (m : Manner) (w : Word) :
    Nat → Run (List Stretch)
  | 0 => fault "word too deep"
  | fuel + 1 => do
    let e ← get
    expandParts capture m (if m.tilde then withTildes e m true w else w) fuel

/-- Expands the parts of a word. -/
def expandParts (capture : Option Command → Run String) (m : Manner) (parts : List Part) :
    Nat → Run (List Stretch)
  | 0 => fault "word too deep"
  | fuel + 1 => do
    match parts with
    | [] => return []
    | .text "" true :: .parameter "@" .value true :: rest =>
      let found ← expandUse capture m "@" .value true fuel
      let mark : List Stretch := if quotesBegin rest then [] else [⟨.whole, [.mark]⟩]
      return mark ++ found ++ (← expandParts capture m rest fuel)
    | part :: rest =>
      let found ← match part with
        | .text text true => pure [⟨.whole, .mark :: Atom.ofText text true⟩]
        | .text text false =>
          pure [⟨if m.inUse then .separable else .whole, Atom.ofText text false⟩]
        | .parameter name use quoted => expandUse capture m name use quoted fuel
        | .output command quoted => do
          let text ← capture command
          pure [⟨if quoted then .whole else .separable, Atom.ofText text quoted⟩]
        | .arithmetic source quoted => do
          let stretches ← expandParts capture {} source fuel
          let n ← compute (Atom.text (Stretch.join stretches))
          pure [⟨if quoted then .whole else .separable, Atom.ofText (toString n) quoted⟩]
      return found ++ (← expandParts capture m rest fuel)

/-- Expands a parameter of which use is made. -/
def expandUse (capture : Option Command → Run String) (m : Manner) (name : String) (use : Use)
    (quoted : Bool) : Nat → Run (List Stretch)
  | 0 => fault "word too deep"
  | fuel + 1 => do
    let e ← get
    let value := parameter? e m name quoted
    let missing (orEmpty : Bool) : Bool := value.all fun atoms => orEmpty && atoms.isEmpty
    let inPlace (atoms : List Atom) : List Stretch := [⟨zoneOf e name quoted, atoms⟩]
    let instead (word : Word) : Run (List Stretch) :=
      expandWord capture { m with inUse := true, tilde := true } word fuel
    let bare (word : Word) : Run String := do
      return Atom.text (Stretch.join (← expandWord capture { tilde := true } word fuel))
    let trimmed (front longest : Bool) (pattern : Word) : Run (List Stretch) := do
      let atoms ← needParameter name value
      let found ← expandWord capture { tilde := true } pattern fuel
      return inPlace (withoutEnd front longest (Stretch.join found) atoms)
    match use with
    | .value => return inPlace (← needParameter name value)
    | .length =>
      let atoms ← needParameter name value
      return inPlace (Atom.ofText (toString atoms.length) quoted)
    | .orElse orEmpty word =>
      if missing orEmpty then instead word else return inPlace (value.getD [])
    | .ifSet orEmpty word => if missing orEmpty then return [] else instead word
    | .orAssign orEmpty word =>
      if missing orEmpty then
        let text ← bare word
        setVariable name (some text)
        return inPlace (Atom.ofText text quoted)
      else return inPlace (value.getD [])
    | .orFail orEmpty word =>
      if missing orEmpty then
        let reason ← bare word
        fault (name ++ ": " ++ if !word.isEmpty then reason
          else if orEmpty then "parameter not set or null" else "parameter not set")
      else return inPlace (value.getD [])
    | .dropFront longest pattern => trimmed true longest pattern
    | .dropBack longest pattern => trimmed false longest pattern
    | .unknown => fault "Bad substitution"

end

/-! ## File names -/

/-- What stands behind a bracket makes it the beginning of a set, which cannot go on behind a
slash. -/
def closes : List Marked → Bool
  | (c, _) :: (d, quoted) :: rest =>
    c ≠ '/' && ((d = ']' && !quoted) || closes ((d, quoted) :: rest))
  | _ => false

/-- The characters, up to the next slash, are more than a name. -/
def isPattern : List Marked → Bool
  | [] => false
  | ('/', _) :: _ => false
  | ('*', false) :: _ | ('?', false) :: _ => true
  | ('[', false) :: ('!', false) :: rest => closes rest || isPattern rest
  | ('[', false) :: rest => closes rest || isPattern rest
  | _ :: rest => isPattern rest

/-- Takes names as they stand up to the first that is a pattern. -/
def splitNames (taken : List Char) (cs : List Marked) : Nat → List Char × List Marked
  | 0 => (taken, cs)
  | fuel + 1 =>
    if isPattern cs then (taken, cs)
    else
      let name := cs.takeWhile (·.1 ≠ '/')
      match cs.drop name.length with
      | [] => (taken ++ name.map (·.1), [])
      | _ :: rest => splitNames (taken ++ name.map (·.1) ++ ['/']) rest fuel

/-- The files below `above` whose paths fit a pattern. -/
def matchingPaths (above : List Char) (pattern : List Marked) : Nat → Run (List (List Char))
  | 0 => return []
  | fuel + 1 => do
    let (above, pattern) := splitNames above pattern (pattern.length + 1)
    if pattern.isEmpty then
      match ← ask (.inspect (pathOf (String.ofList above)) false) with
      | .ok _ => return [above]
      | .error _ => return []
    else
      let name := pattern.takeWhile (·.1 ≠ '/')
      let further := pattern.drop name.length
      match ← ask (.list (if above.isEmpty then "." else pathOf (String.ofList above))) with
      | .error _ => return []
      | .ok names =>
        let items := readPattern name
        let showsHidden := name.head?.any (·.1 = '.')
        let all := [".", ".."] ++ names.map Bytewise.encode
        let found := (all.map String.toList).filter fun cs =>
          (showsHidden || cs.head? ≠ some '.') && fits items cs
        match further with
        | [] => return found.map (above ++ ·)
        | _ :: rest =>
          let mut paths : List (List Char) := []
          for cs in found do
            paths := paths ++ (← matchingPaths (above ++ cs ++ ['/']) rest fuel)
          return paths

/-- The arguments that a field stands for: the files whose paths fit it, or itself. -/
def fileNames (field : List Atom) : Run (List String) := do
  let cs := applyBackslashes (Atom.marked field)
  let (above, pattern) := splitNames [] cs (cs.length + 1)
  if pattern.isEmpty || (← get).has "noglob" then return [Atom.text field]
  else
    let found ← matchingPaths above pattern (pattern.length + 1)
    let sorted := (found.map String.ofList).mergeSort fun a b => a ≤ b
    return if sorted.isEmpty then [Atom.text field] else sorted

/-- The arguments that a word stands for. -/
def argumentsOf (capture : Option Command → Run String) (w : Word) (fuel : Nat) :
    Run (List String) := do
  let stretches ← expandWord capture { splitting := true, tilde := true } w fuel
  let mut arguments : List String := []
  for field in Fields.split (← get).separators none stretches do
    arguments := arguments ++ (← fileNames field)
  return arguments

/-- The text of a word that stays in one piece. -/
def textOf (capture : Option Command → Run String) (m : Manner) (w : Word) (fuel : Nat) :
    Run String := do
  return Atom.text (Stretch.join (← expandWord capture m w fuel))

end Script

end CommandShell
