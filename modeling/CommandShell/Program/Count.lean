import CommandShell.Program.Basic

/-!
# Counting

`wc`: how many lines, words and bytes files have. The counts are written in columns that are as wide
as the sizes of the files make necessary.
-/

namespace CommandShell

namespace Program

/-- What is counted in a text. -/
structure Counts where
  lines : Nat := 0
  words : Nat := 0
  bytes : Nat := 0
  longest : Nat := 0

/-- The counts of a text. A byte that cannot be shown is no part of a word. -/
def Counts.of (text : ByteArray) : Counts :=
  let step (s : Counts × Bool × Nat) (b : UInt8) : Counts × Bool × Nat :=
    let (c, inWord, column) := s
    let widest := max c.longest column
    if b = 10 then ({ c with lines := c.lines + 1, longest := widest }, false, 0)
    else if b = 12 || b = 13 then ({ c with longest := widest }, false, 0)
    else if b = 9 then (c, false, column + (8 - column % 8))
    else if b = 32 then (c, false, column + 1)
    else if b = 11 then (c, false, column)
    else if b > 32 && b < 127 then
      ({ c with words := if inWord then c.words else c.words + 1 }, true, column + 1)
    else (c, inWord, column)
  let (c, _, column) := text.foldl step ({}, false, 0)
  { c with bytes := text.size, longest := max c.longest column }

namespace Counts

/-- Counts taken together. -/
def add (a b : Counts) : Counts :=
  ⟨a.lines + b.lines, a.words + b.words, a.bytes + b.bytes, max a.longest b.longest⟩

/-- The counts that are asked for, in the order in which they are written. -/
def asked (c : Counts) (o : Options) : List Nat :=
  let anything := o.given.isEmpty
  (if anything || o.has 'l' then [c.lines] else []) ++
  (if anything || o.has 'w' then [c.words] else []) ++
  (if o.has 'm' then [c.bytes] else []) ++
  (if anything || o.has 'c' then [c.bytes] else []) ++
  (if o.has 'L' then [c.longest] else [])

/-- A line of counts, each of them as wide as `width` at least. -/
def line (c : Counts) (o : Options) (width : Nat) (name : String) : String :=
  let cells := (c.asked o).map fun n =>
    let text := toString n
    String.ofList (List.replicate (width - text.length) ' ') ++ text
  " ".intercalate cells ++ (if name.isEmpty then "" else " " ++ name) ++ "\n"

end Counts

/-- How wide the counts have to be: wide enough for the size of all regular files together, and
seven digits if something else is among them. -/
def countWidth (total minimum : Nat) : List String → Step Nat
  | [] => .done (max minimum (toString total).length)
  | path :: rest => do
    let kind ← if path = "-" then call (.inspectOpen Fd.stdin) else call (.inspect path true)
    match kind with
    | .ok (.regular _ size _) => countWidth (total + size) minimum rest
    | .ok _ => countWidth total 7 rest
    | .error _ => countWidth total minimum rest

/-- The size of a page of memory. -/
def pageSize : Nat := 4096

/-- Counts the bytes that are left to read. The size of a regular file is known and taken for
granted, unless it is a number of whole pages, as it can be with a file whose contents are made when
they are read: then its end is read. -/
def countBytes (fd : Fd) : Step (Except Errno Nat) := do
  let read (known : Nat) : Step (Except Errno Nat) := do
    return (← readToEnd fd .empty patience).map fun bytes => known + bytes.size
  match ← call (.inspectOpen fd), ← call (.tell fd) with
  | .ok (.regular _ size _), .ok position =>
    if size % pageSize ≠ 0 then return .ok (size - position)
    else
      let known := size - size % (pageSize + 1)
      if position < known then
        let _ ← call (.seek fd (position + known))
        read (known - position)
      else read 0
  | _, _ => read 0

/-- Counts what is asked for in a file. -/
def countFile (o : Options) (path : String) : Step (Except Errno Counts) := do
  let count (fd : Fd) : Step (Except Errno Counts) := do
    if o.given.all (·.1 == 'c') && !o.given.isEmpty then
      return (← countBytes fd).map fun bytes => { bytes }
    else return (← readToEnd fd .empty patience).map Counts.of
  if path = "-" then count Fd.stdin
  else
    match ← call (.openFile path .read false) with
    | .error e => return .error e
    | .ok fd =>
      let result ← count fd
      let _ ← call (.close fd)
      return result

/-- Counts lines, words and bytes. -/
def wc : Program := fun argv _ =>
  let name := argv.headD ""
  let known : OptionSet :=
    { flags := "lwcmL"
      long := [("bytes", 'c'), ("chars", 'm'), ("lines", 'l'), ("words", 'w'),
        ("max-line-length", 'L')] }
  withOptions name known argv 1 fun o => do
    let paths := o.files
    let single := paths.length = 1 && (Counts.asked {} o).length = 1
    let width ← if single then .done 1 else countWidth 0 1 paths
    let shown (path : String) : String :=
      if o.operands.isEmpty then "" else if path.contains '\n' then quote path else path
    let rec each (text : String) (total : Counts) (code : Nat) :
        List String → Step (String × Counts × Nat)
      | [] => .done (text, total, code)
      | path :: rest => do
        match ← countFile o path with
        | .ok c => each (text ++ c.line o width (shown path)) (total.add c) code rest
        | .error e =>
          let subject := if o.operands.isEmpty then "standard input" else path
          let code ← fail name (quote subject) e.text
          -- a directory can be opened, and nothing is counted in it
          let text := if e = .EISDIR then text ++ ({} : Counts).line o width (shown path) else text
          each text total code rest
    let (text, total, code) ← each "" {} 0 paths
    let text := if paths.length > 1 then text ++ total.line o width "total" else text
    finish name (Text.bytes text) code

end Program

end CommandShell
