import CommandShell.Program.Basic

/-!
# Copying

`cat`, which copies files to the standard output and can make what they hold visible on the way, and
`tee`, which copies its standard input to several places.
-/

namespace CommandShell

namespace Program

/-! ## Making text visible -/

/-- What is shown of a text. -/
structure Rendering where
  /-- Lines are numbered, all of them or only those that are not empty. -/
  numbered : Bool := false
  numberedNonempty : Bool := false
  /-- Of several empty lines one is left. -/
  squeezed : Bool := false
  ends : Bool := false
  tabs : Bool := false
  controls : Bool := false

namespace Rendering

/-- The rendering that options ask for. -/
def ofOptions (o : Options) : Rendering where
  numbered := o.has 'n' && !o.has 'b'
  numberedNonempty := o.has 'b'
  squeezed := o.has 's'
  ends := o.has 'E' || o.has 'A' || o.has 'e'
  tabs := o.has 'T' || o.has 'A' || o.has 't'
  controls := o.has 'v' || o.has 'A' || o.has 'e' || o.has 't'

/-- Text is copied as it is. -/
def isPlain (r : Rendering) : Bool :=
  !(r.numbered || r.numberedNonempty || r.squeezed || r.ends || r.tabs || r.controls)

/-- A byte made visible. -/
def visible (b : UInt8) : List UInt8 :=
  let low (b : UInt8) : List UInt8 :=
    if b < 32 then [94, b + 64] else if b = 127 then [94, 63] else [b]
  if b ≥ 128 then [77, 45] ++ low (b - 128) else low b

/-- A byte inside a line as it is shown. -/
def byte (r : Rendering) (b : UInt8) : List UInt8 :=
  if b = 9 then if r.tabs then [94, 73] else [9]
  else if r.controls then visible b
  else [b]

/-- Where a rendering is in a text. -/
structure Position where
  /-- The number of the last numbered line. -/
  number : Nat := 0
  /-- How many empty lines have just been seen. -/
  empties : Nat := 0
  atStart : Bool := true
  /-- A carriage return is held back until it is known whether the line ends there. -/
  held : Bool := false

/-- The number in front of a line. -/
def label (number : Nat) : List UInt8 :=
  let digits := toString number
  (String.ofList (List.replicate (6 - digits.length) ' ') ++ digits ++ "\t").toUTF8.toList

/-- Shows one more byte. -/
def step (r : Rendering) (s : Position × ByteArray) (b : UInt8) : Position × ByteArray :=
  let (p, done) := s
  let put (bytes : List UInt8) (done : ByteArray) : ByteArray := bytes.foldl ByteArray.push done
  if b = 10 then
    let isEmpty := p.atStart
    let empties := if isEmpty then p.empties + 1 else 0
    if r.squeezed && empties ≥ 2 then ({ p with empties := 2 }, done)
    else
      let labelled := isEmpty && r.numbered
      let number := if labelled then p.number + 1 else p.number
      let mark : List UInt8 := if r.ends then [36, 10] else [10]
      let held : List UInt8 := if p.held then [94, 77] else []
      ({ number, empties, atStart := true, held := false },
        put ((if labelled then label number else []) ++ held ++ mark) done)
  else
    let labelled := p.atStart && (r.numbered || r.numberedNonempty)
    let number := if labelled then p.number + 1 else p.number
    let front := (if labelled then label number else []) ++ if p.held then [13] else []
    let holds := b = 13 && r.ends && !r.controls
    ({ number, empties := 0, atStart := false, held := holds },
      put (front ++ if holds then [] else r.byte b) done)

/-- Shows a text that follows a position. -/
def render (r : Rendering) (p : Position) (bytes : ByteArray) : Position × ByteArray :=
  bytes.foldl r.step (p, .empty)

end Rendering

/-! ## Copying -/

/-- Copies a descriptor to the standard output. The result has the position that the text has come
to, and whether nothing went wrong; it is an exit code if copying has to end altogether. -/
def copyOut (name subject : String) (r : Rendering) (p : Rendering.Position) (fd : Fd) :
    Nat → Step (Except Nat (Rendering.Position × Bool))
  | 0 => .done (.ok (p, true))
  | n + 1 => do
    match ← call (.read fd blockSize) with
    | .error e =>
      let _ ← fail name subject e.text
      return .ok (p, false)
    | .ok bytes =>
      if bytes.isEmpty then return .ok (p, true)
      else
        let (p, shown) := if r.isPlain then (p, bytes) else r.render p bytes
        match ← writeBytes Fd.stdout shown with
        | .error e => return .error (← fail name "write error" e.text)
        | .ok _ => copyOut name subject r p fd n

/-- The descriptor leads to the file that the standard output is, and there is something in it to
read. -/
def copiesItself (fd : Fd) : Step Bool := do
  match ← call (.inspectOpen fd), ← call (.inspectOpen Fd.stdout) with
  | .ok (.regular node size _), .ok (.regular target _ _) => return node == target && size > 0
  | _, _ => return false

/-- Copies the files of a command line one after the other. -/
def catFiles (name : String) (r : Rendering) (p : Rendering.Position) (ok : Bool) :
    List String → Step Nat
  | [] => do
    let _ ← writeBytes Fd.stdout (if p.held then ⟨#[13]⟩ else .empty)
    return if ok then 0 else 1
  | path :: rest => do
    let go (fd : Fd) : Step (Except Nat (Rendering.Position × Bool)) := do
      if ← copiesItself fd then
        let _ ← fail name (quote path) "input file is output file"
        return .ok (p, false)
      else copyOut name (quote path) r p fd patience
    if path = "-" then
      match ← go Fd.stdin with
      | .error code => return code
      | .ok (p, fine) => catFiles name r p (ok && fine) rest
    else
      match ← call (.openFile path .read false) with
      | .error e =>
        let _ ← fail name (quote path) e.text
        catFiles name r p false rest
      | .ok fd =>
        match ← go fd with
        | .error code => return code
        | .ok (p, fine) =>
          let _ ← call (.close fd)
          catFiles name r p (ok && fine) rest

/-- Copies files to the standard output. -/
def cat : Program := fun argv _ =>
  let name := argv.headD ""
  let known : OptionSet :=
    { flags := "benstuvAET"
      long := [("number-nonblank", 'b'), ("number", 'n'), ("squeeze-blank", 's'),
        ("show-nonprinting", 'v'), ("show-ends", 'E'), ("show-tabs", 'T'), ("show-all", 'A')] }
  withOptions name known argv 1 fun o => do
    match ← call (.inspectOpen Fd.stdout) with
    | .error e => fail name "standard output" e.text
    | .ok _ => catFiles name (Rendering.ofOptions o) {} true o.files

/-- Copies its standard input to its standard output and to files. -/
def tee : Program := fun argv _ =>
  let name := argv.headD ""
  let known : OptionSet :=
    { flags := "ai", long := [("append", 'a'), ("ignore-interrupts", 'i')] }
  withOptions name known argv 1 fun o =>
    let mode : OutputMode := if o.has 'a' then .append else .truncate
    let rec openAll (fds : List Fd) (code : Nat) : List String → Step (List Fd × Nat)
      | [] => .done (fds.reverse, code)
      | path :: rest => do
        match ← call (.openFile path (.write mode 0o666) false) with
        | .ok fd => openAll (fd :: fds) code rest
        | .error e =>
          let code ← fail name (quote path) e.text
          openAll fds code rest
    let rec writeAll (bytes : ByteArray) : List Fd → Step Unit
      | [] => .done ()
      | fd :: rest => do
        let _ ← writeBytes fd bytes
        writeAll bytes rest
    let rec go (fds : List Fd) (code : Nat) : Nat → Step Nat
      | 0 => .done code
      | n + 1 => do
        match ← call (.read Fd.stdin blockSize) with
        | .error e => fail name "read error" e.text
        | .ok bytes =>
          if bytes.isEmpty then return code
          else
            writeAll bytes (Fd.stdout :: fds)
            go fds code n
    do
      let (fds, code) ← openAll [] 0 o.operands
      go fds code patience

end Program

end CommandShell
