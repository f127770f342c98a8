import CommandShell.System.Disk
import CommandShell.Text.Alphanumeric
import CommandShell.Text.Blank

/-!
# Environment files

A file named `.env` adds variables to the environment of the shell. Each of its lines gives one
variable, as in `NAME=value` or `export NAME='a value'  # with a remark`. A value can be quoted, can
go on over several lines inside quotes, and can refer to other variables as `$NAME` or
`${NAME}`. A variable that the environment has already keeps its value, and the first line that
cannot be read ends the file.

`EnvFile.extend` adds the variables of a file to an environment. The text is first cut into logical
lines, which is where quotes and remarks matter (`logicalLine`), and then each line is read by
itself (`readEntry`).
-/

namespace CommandShell

namespace EnvFile

/-- The name of an environment file. -/
def name : String := ".env"

/-! ## Logical lines -/

/-- What stands open at a place of a logical line. -/
inductive Scan
  | outside
  /-- After a blank, where a remark can begin. -/
  | blank
  | escape
  | single
  | singleEscape
  | double
  | doubleEscape
  deriving DecidableEq, Repr

/-- What stands open after one more character, `none` where a remark begins. -/
def Scan.next (s : Scan) (c : Char) : Option Scan :=
  let opening : Scan :=
    if c = '\\' then .escape
    else if c = '"' then .double
    else if c = '\'' then .single
    else .outside
  match s with
  | .blank => if c = '#' then none else some opening
  | .outside => some (if Text.isBlank c && c ≠ '\n' && c ≠ '\r' then .blank else opening)
  | .escape => some .outside
  | .double => some (if c = '\\' then .doubleEscape else if c = '"' then .outside else .double)
  | .doubleEscape => some .double
  | .single => some (if c = '\\' then .singleEscape else if c = '\'' then .outside else .single)
  | .singleEscape => some .single

/-- What a line of the file ends in: the part of it before a remark, and what stands open, `none` if
a remark ends it. -/
def scanLine (s : Scan) : List Char → List Char × Option Scan
  | [] => ([], some s)
  | c :: rest =>
    match s.next c with
    | none => ([], none)
    | some s =>
      let (taken, state) := scanLine s rest
      (c :: taken, state)

/-- A line without its end. -/
def dropLineEnd (line : List Char) : List Char :=
  if line.getLast? = some '\n' then
    let line := line.dropLast
    if line.getLast? = some '\r' then line.dropLast else line
  else line

/-- What the next logical line of a file comes to. -/
inductive LogicalLine
  | line (text : List Char) (rest : List (List Char))
  | ended
  /-- The file ends inside of quotes, or after a blank. -/
  | broken

/-- The next logical line, of which `start` has been read already. Lines that hold a remark and
nothing else count as empty. -/
def logicalLine (start : List Char) (s : Scan) : List (List Char) → LogicalLine
  | [] => if s = .outside then .ended else .broken
  | line :: rest =>
    if ((start ++ line).dropWhile Text.isBlank).head? = some '#' then .line [] rest
    else
      match scanLine s line with
      | (taken, none) => .line (start ++ taken) rest
      | (_, some .outside) => .line (dropLineEnd (start ++ line)) rest
      | (_, some s) => logicalLine (start ++ line) s rest

/-! ## Values -/

/-- What refers to a variable and has been read so far. -/
inductive Reference
  | none
  /-- After a dollar sign. -/
  | bare (name : List Char)
  /-- After a dollar sign and a brace. -/
  | braced (name : List Char)
  deriving DecidableEq, Repr

/-- The quotes that stand open in a value. -/
inductive Quote
  | none
  | single
  | double
  deriving DecidableEq, Repr

/-- Reads a value. `value` is what it is so far; names and the value are kept backwards. A blank
outside of quotes ends the value, and only a remark may follow. -/
def readValue (look : String → String) (quote : Quote) (escaped : Bool) (reference : Reference)
    (value : List Char) : List Char → Option String
  | [] =>
    match reference, quote with
    | .braced _, _ | _, .single | _, .double => .none
    | .bare name, .none =>
      some (String.ofList value.reverse ++ look (String.ofList name.reverse))
    | .none, .none => some (String.ofList value.reverse ++ look "")
  | c :: rest =>
    let found (name : List Char) : List Char :=
      (look (String.ofList name.reverse)).toList.reverse ++ value
    if escaped then
      if c = '\\' || c = '\'' || c = '"' || c = '$' || c = ' ' then
        readValue look quote false reference (c :: value) rest
      else if c = 'n' then readValue look quote false reference ('\n' :: value) rest
      else .none
    else if quote = .single then
      if c = '\'' then readValue look .none false reference value rest
      else readValue look quote false reference (c :: value) rest
    else
      match reference with
      | .bare name =>
        if Text.isAlphanumeric c then readValue look quote false (.bare (c :: name)) value rest
        else if c = '\x7b' && name.isEmpty then readValue look quote false (.braced []) value rest
        else if c = '$' then readValue look quote false (.bare []) (found name) rest
        else readValue look quote false .none (c :: found name) rest
      | .braced name =>
        if c = '\x7d' then readValue look quote false .none (found name) rest
        else readValue look quote false (.braced (c :: name)) value rest
      | .none =>
        if c = '$' then readValue look quote false (.bare []) value rest
        else if c = '\\' then readValue look quote true .none value rest
        else if quote = .double then
          if c = '"' then readValue look .none false .none value rest
          else readValue look quote false .none (c :: value) rest
        else if c = '\'' then readValue look .single false .none value rest
        else if c = '"' then readValue look .double false .none value rest
        else if c = ' ' || c = '\t' then
          match rest.dropWhile fun d => d = ' ' || d = '\t' with
          | [] | '#' :: _ => some (String.ofList value.reverse)
          | _ => .none
        else readValue look quote false .none (c :: value) rest

/-! ## Entries -/

/-- Reads a name, and gives what follows it. -/
def readName (cs : List Char) : Option (String × List Char) :=
  let isNameChar (c : Char) : Bool := c.isAlphanum || c == '_' || c == '.'
  match cs with
  | c :: _ =>
    if c.isAlpha || c == '_' then
      some (String.ofList (cs.takeWhile isNameChar), cs.dropWhile isNameChar)
    else none
  | [] => none

/-- Reads the value after an equals sign. -/
def readAfterEquals (look : String → String) (name : String) (cs : List Char) :
    Option (String × String) :=
  match cs.dropWhile Text.isBlank with
  | [] | '#' :: _ => some (name, "")
  | value => (readValue look .none false .none [] value).map fun v => (name, v)

/-- Reads a logical line: `some none` if it gives no variable, `none` if it cannot be read. The
word `export` can stand in front of a name, and can be one. -/
def readEntry (look : String → String) (line : List Char) : Option (Option (String × String)) :=
  let line := ((line.reverse.dropWhile Text.isBlank).reverse).dropWhile Text.isBlank
  match line with
  | [] | '#' :: _ => some none
  | _ => do
    let (name, rest) ← readName line
    match rest.dropWhile Text.isBlank with
    | '=' :: value => return some (← readAfterEquals look name value)
    | rest =>
      if name = "export" then
        let (name, rest) ← readName rest
        match rest.dropWhile Text.isBlank with
        | '=' :: value => return some (← readAfterEquals look name value)
        | _ => none
      else none

/-! ## The environment -/

/-- The value of a variable. A variable is kept as its name, an equals sign and its value in one
string, and what is looked for is a string that begins with the name and an equals sign. So a
"name" with an equals sign in it can be found too: `A=b` in `A=b=c`. -/
def value? (environment : List (String × String)) (name : String) : Option String :=
  environment.findSome? fun (key, value) =>
    let stored := key.toList ++ '=' :: value.toList
    let sought := name.toList ++ ['=']
    if sought.isPrefixOf stored then some (String.ofList (stored.drop sought.length)) else none

/-! ## The file -/

/-- The lines of a file with their ends, up to the first that is not text. -/
def physicalLines (line : List UInt8) : List UInt8 → List (List Char)
  | [] => if line.isEmpty then [] else decode line.reverse []
  | b :: rest =>
    if b = 10 then decode (b :: line).reverse (physicalLines [] rest)
    else physicalLines (b :: line) rest
where
  /-- A line in front of others, which are dropped if it is not text. -/
  decode (line : List UInt8) (rest : List (List Char)) : List (List Char) :=
    match String.fromUTF8? ⟨line.toArray⟩ with
    | some text => text.toList :: rest
    | none => []

/-- Adds the variables of lines to an environment. No environment can hold a value with a NUL
character in it; there is no result then. The count bounds the number of logical lines. -/
def extendBy (environment : List (String × String)) (lines : List (List Char)) :
    Nat → Option (List (String × String))
  | 0 => some environment
  | count + 1 =>
    match logicalLine [] .outside lines with
    | .ended | .broken => some environment
    | .line text rest =>
      match readEntry (fun name => (value? environment name).getD "") text with
      | none => some environment
      | some none => extendBy environment rest count
      | some (some (name, value)) =>
        if environment.any (·.1 == name) then extendBy environment rest count
        else if value.contains '\x00' then none
        else extendBy (environment ++ [(name, value)]) rest count

/-- Adds the variables of a file to an environment, if all of them can be added. A byte order mark
at the start is passed over. -/
def extend (environment : List (String × String)) (bytes : ByteArray) :
    Option (List (String × String)) :=
  let bytes := bytes.toList
  let bytes := if bytes.take 3 = [0xEF, 0xBB, 0xBF] then bytes.drop 3 else bytes
  let lines := physicalLines [] bytes
  extendBy environment lines (lines.length + 1)

/-- What the search for an environment file comes to in one directory. -/
inductive Found
  /-- This is the file. -/
  | file (bytes : ByteArray)
  /-- There is something that cannot be read, and no other will be looked for. -/
  | unreadable
  /-- There is none. -/
  | nothing

/-- Looks for an environment file in a directory. -/
def findIn (disk : Disk) (dir : Location) : Found :=
  match disk.lookup dir name with
  | .error e => if e = .ENOENT then .nothing else .unreadable
  | .ok l =>
    match disk.content? l.node with
    | none => .nothing
    | some bytes => if disk.allows l.node .read then .file bytes else .unreadable

/-- The environment file that a shell in a directory finds: the one there, or else in the nearest
directory above. -/
def find? (disk : Disk) (dir : Location) : Option ByteArray :=
  match findIn disk dir with
  | .file bytes => some bytes
  | .unreadable => none
  | .nothing =>
    match dir with
    | [] => none
    | _ :: above => find? disk above

end EnvFile

end CommandShell
