import CommandShell.Program.Copy
import CommandShell.Text.Bytewise
import CommandShell.Text.Regex

/-!
# Searching

`grep`: the lines of files in which an expression occurs, and some lines around them. A `Search` is
what is asked for; `Scan` is where it has come to in one file.
-/

namespace CommandShell

namespace Program

/-- What is searched for, and what is shown of it. -/
structure Search where
  expression : Regex
  /-- Lines without the expression are looked for. -/
  inverted : Bool := false
  /-- How many lines are wanted of each file. -/
  limit : Option Nat := none
  /-- How many lines are shown before and after a line that is found. -/
  before : Nat := 0
  after : Nat := 0
  named : Bool := false
  numbered : Bool := false
  /-- Only what fits is shown. -/
  onlyFits : Bool := false
  counted : Bool := false
  /-- Only the names of files are shown: those with the expression, or those without. -/
  listed : Option Bool := none
  quiet : Bool := false
  /-- No complaints about files. -/
  silent : Bool := false
  /-- All files are taken for text. -/
  asText : Bool := false

namespace Search

/-- The lines themselves are shown. -/
def showsLines (s : Search) : Bool :=
  !s.counted && s.listed.isNone && !s.quiet

/-- One hit is as good as more. -/
def needsOne (s : Search) : Bool :=
  s.quiet || s.listed.isSome

/-- What stands in front of a line; `mark` tells a line that has been found from one around it. -/
def label (s : Search) (path mark : String) (number : Nat) : ByteArray :=
  Text.bytes <|
    (if s.named then path ++ mark else "") ++
      if s.numbered then toString number ++ mark else ""

/-- The stretches of a line that fit, at most so many. -/
def fits (r : Regex) (before : Option Char) (cs : List Char) : Nat → List (List Char)
  | 0 => []
  | count + 1 =>
    match r.findFrom before cs with
    | none => []
    | some f =>
      if f.found.isEmpty then
        match f.after.rest with
        | [] => []
        | c :: rest => fits r (some c) rest count
      else f.found :: fits r f.after.before f.after.rest count

/-- A line is looked for. -/
def wants (s : Search) (line : ByteArray) : Bool :=
  s.expression.occursIn (Bytewise.ofBytes line).toList != s.inverted

end Search

/-- How far a search has come in a file. -/
structure Scan where
  /-- The number of the last line. -/
  number : Nat := 0
  /-- How many lines have been found. -/
  hits : Nat := 0
  /-- The last lines, in case they are to be shown before another. The last one is the first. -/
  recent : List ByteArray := []
  /-- How many lines are still to be shown after another. -/
  following : Nat := 0
  /-- The number of the last line that has been shown. -/
  shown : Nat := 0
  /-- The file holds something else than text. -/
  isBinary : Bool := false
  /-- No more of the file is wanted. -/
  isOver : Bool := false
  written : ByteArray := .empty

namespace Scan

/-- Shows a line. -/
def put (c : Scan) (s : Search) (path mark : String) (number : Nat) (line : ByteArray) : Scan :=
  let gap := (s.before > 0 || s.after > 0) && c.shown > 0 && c.shown + 1 < number
  let written := c.written ++ (if gap then "--\n".toUTF8 else .empty)
  { c with shown := number, written := (written ++ s.label path mark number ++ line).push 10 }

/-- Shows a line that has been found. -/
def putHit (c : Scan) (s : Search) (path : String) (line : ByteArray) : Scan :=
  if s.onlyFits then
    let found := if s.inverted then []
      else Search.fits s.expression none (Bytewise.ofBytes line).toList (line.size + 1)
    found.foldl (fun c cs =>
      let text := Bytewise.toBytes (String.ofList cs)
      { c with
        written := (c.written ++ s.label path ":" c.number ++ text).push 10, shown := c.number }) c
  else
    let skipped := c.recent.take (c.number - 1 - c.shown)
    let c := (skipped.zipIdx 1).reverse.foldl
      (fun c (line, i) => c.put s path "-" (c.number - i) line) c
    c.put s path ":" c.number line

/-- Looks at one more line. -/
def step (s : Search) (path : String) (c : Scan) (line : ByteArray) : Scan :=
  if c.isOver then c
  else
    let c := { c with number := c.number + 1 }
    let isFull := s.limit.any (· ≤ c.hits)
    let c :=
      if !isFull && s.wants line then
        let c := { c with hits := c.hits + 1, following := s.after }
        if !s.showsLines || c.isBinary then c
        else { c.putHit s path line with following := s.after }
      else if c.following > 0 && s.showsLines && !s.onlyFits && !c.isBinary then
        { c.put s path "-" c.number line with following := c.following - 1 }
      else c
    let isFull := s.limit.any (· ≤ c.hits)
    let isEnough := c.hits > 0 && (s.needsOne || (c.isBinary && s.showsLines))
    { c with
      recent := if s.before = 0 then [] else (line :: c.recent).take s.before
      isOver := isEnough || (isFull && (c.following = 0 || !s.showsLines)) }

end Scan

/-- Reads patterns: several can be given, and each of their lines is one. -/
def searchPatterns (n : Regex.Notation) (o : Options) (texts : List String) :
    Except Regex.Fault Regex := do
  let lines := texts.flatMap fun t => (Bytewise.encode t).splitOn "\n"
  let read (line : String) : Except Regex.Fault Regex :=
    if o.lastOf? "EFG" == some 'F' then .ok (Regex.ofLiteral n line) else Regex.ofText n line
  let bounded (r : Regex) : Regex :=
    if o.has 'x' then .sequence .lineStart (.sequence r .lineEnd)
    else if o.has 'w' then .sequence .afterNoWord (.sequence r .beforeNoWord)
    else r
  match ← lines.mapM read with
  | [] => return .among fun _ => false
  | first :: others => return others.foldl (fun r next => .either r (bounded next)) (bounded first)

/-- The search that options ask for, in so many files. -/
def Search.ofOptions (o : Options) (expression : Regex) (files : Nat) : Search :=
  let number (c : Char) : Option Nat := (o.value? c).bind (·.toNat?)
  { expression
    inverted := o.has 'v'
    limit := number 'm'
    before := ((number 'B').or (number 'C')).getD 0
    after := ((number 'A').or (number 'C')).getD 0
    named := o.lastOf? "hH" == some 'H' || (files > 1 && o.lastOf? "hH" ≠ some 'h')
    numbered := o.has 'n'
    onlyFits := o.has 'o'
    counted := o.has 'c'
    listed := if o.has 'l' then some true else if o.has 'L' then some false else none
    quiet := o.has 'q'
    silent := o.has 's'
    asText := o.has 'a' }

/-- The name of a file as `grep` writes it. -/
def searchTitle (path : String) : String :=
  if path = "-" then "(standard input)" else path

/-- What is written of a file when it has been gone through. -/
def Search.summary (s : Search) (path : String) (c : Scan) : ByteArray :=
  let title := searchTitle path
  if s.quiet then .empty
  else
    match s.listed with
    | some wanted => if (c.hits > 0) == wanted then Text.bytes (title ++ "\n") else .empty
    | none =>
      if s.counted then
        Text.bytes ((if s.named then title ++ ":" else "") ++ toString c.hits ++ "\n")
      else .empty

/-- Searches files one after the other. -/
def searchFiles (name : String) (s : Search) (found failed : Bool) : List String → Step Nat
  | [] => .done (if failed then 2 else if found then 0 else 1)
  | path :: rest => do
    let complainOf (reason : String) : Step Unit :=
      if s.silent then .done ()
      else complain (name ++ ": " ++ searchTitle path ++ ": " ++ reason ++ "\n")
    let opened ← if path = "-" then .done (.ok Fd.stdin) else call (.openFile path .read false)
    match opened with
    | .error e =>
      complainOf e.text
      searchFiles name s found true rest
    | .ok fd =>
      let use (c : Scan) (lines : List ByteArray) (_ : Bool) : Step (Except (Scan ⊕ Nat) Scan) := do
        let holdsZero := !s.asText && lines.any fun l => l.data.contains 0
        let c := { c with isBinary := c.isBinary || holdsZero }
        let c := lines.foldl (Scan.step s (searchTitle path)) c
        match ← writeBytes Fd.stdout c.written with
        | .error e => return .error (.inr (← fail name "write error" e.text))
        | .ok _ =>
          let c := { c with written := .empty }
          return if c.isOver then .error (.inl c) else .ok c
      let isSame ← if s.showsLines && s.limit ≠ some 1 then copiesItself fd else .done false
      if isSame then
        complainOf "input file is also the output"
        searchFiles name s found true rest
      else
        let traversal ← eachBlock fd use .empty {} patience
        if path ≠ "-" then
          let _ ← call (.close fd)
        let goOn (c : Scan) (failed : Bool) : Step Nat := do
          if c.isBinary && c.hits > 0 && s.showsLines then complainOf "binary file matches"
          match ← writeBytes Fd.stdout (s.summary path c) with
          | .error e =>
            let _ ← fail name "write error" e.text
            return 2
          | .ok _ =>
            let hit := match s.listed with
              | some false => c.hits = 0
              | _ => c.hits > 0
            if s.quiet && c.hits > 0 then return 0
            else searchFiles name s (found || hit) failed rest
        match traversal with
        | .stopped (.inr _) => return 2
        | .stopped (.inl c) | .finished c => goOn c failed
        | .unreadable e c =>
          complainOf e.text
          goOn c true

/-- What is wrong with a call without a pattern. -/
def searchUsage : String :=
  "Usage: grep [OPTION]... PATTERNS [FILE]...\nTry 'grep --help' for more information.\n"

/-- Writes the lines in which an expression occurs. -/
def grep : Program := fun argv _ =>
  let name := argv.headD ""
  let known : OptionSet :=
    { flags := "EFGachHilLnoqsvwxy", valued := "ABCefm"
      long := [("extended-regexp", 'E'), ("fixed-strings", 'F'), ("basic-regexp", 'G'),
        ("text", 'a'),
        ("count", 'c'), ("no-filename", 'h'), ("with-filename", 'H'), ("ignore-case", 'i'),
        ("files-with-matches", 'l'), ("files-without-match", 'L'), ("line-number", 'n'),
        ("only-matching", 'o'), ("quiet", 'q'), ("silent", 'q'), ("no-messages", 's'),
        ("invert-match", 'v'), ("word-regexp", 'w'), ("line-regexp", 'x'), ("after-context", 'A'),
        ("before-context", 'B'), ("context", 'C'), ("regexp", 'e'), ("file", 'f'),
        ("max-count", 'm')] }
  match known.read (argv.drop 1) with
  | .error e => do
    complain (name ++ ": " ++ e.message ++ "\n" ++ searchUsage)
    return 2
  | .ok o => do
    let listed : Except (String × Errno) (List String) ← match o.value? 'f' with
      | none => pure (.ok [])
      | some path => do
        match ← readFile path with
        | .error e => pure (.error (path, e))
        | .ok text =>
          let lines := (splitLines text).1.map Text.ofBytes
          pure (.ok lines)
    match listed with
    | .error (path, e) =>
      complain (name ++ ": " ++ path ++ ": " ++ e.text ++ "\n")
      return 2
    | .ok listed =>
      let given := o.values 'e' ++ listed
      let (patterns, files) :=
        if o.has 'e' || o.has 'f' then (some given, o.operands)
        else (o.operands.head?.map ([·]), o.operands.drop 1)
      match patterns with
      | none =>
        complain searchUsage
        return 2
      | some patterns =>
        let written : Regex.Notation :=
          { extended := o.lastOf? "EFG" == some 'E', ignoreCase := o.has 'i' || o.has 'y' }
        match searchPatterns written o patterns with
        | .error e =>
          complain (name ++ ": " ++ e.message ++ "\n")
          return 2
        | .ok r =>
          let files := if files.isEmpty then ["-"] else files
          searchFiles name (Search.ofOptions o r files.length) false false files

end Program

end CommandShell
