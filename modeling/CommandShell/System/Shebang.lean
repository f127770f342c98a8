import CommandShell.Text.Bytes

/-!
# The first line of a script

A file that begins with the characters `#!` names the interpreter that it is to be run by, and may
give it one argument. Only the beginning of the file counts, `Shebang.window` bytes with zeros after
the end of a shorter file, so a long line is cut off, and `Shebang.read?` has to decide whether
enough of it is left.
-/

namespace CommandShell

/-- The interpreter of a script. -/
structure Shebang where
  interpreter : String
  /-- The argument that the interpreter gets before the name of the script. -/
  argument : Option String := none
  deriving DecidableEq, Repr

namespace Shebang

/-- How many bytes of a file are looked at. -/
def window : Nat := 256

/-- The bytes that are looked at. -/
def beginning (content : ByteArray) : List UInt8 :=
  let bytes := (content.extract 0 window).toList
  bytes ++ List.replicate (window - bytes.length) 0

/-- A space or a tab. -/
def isBlank (b : UInt8) : Bool :=
  b = 32 || b = 9

/-- A blank, or the zero after the end of a text. -/
def isTerminator (b : UInt8) : Bool :=
  isBlank b || b = 0

/-- The first place between two others, which count as well, with a byte that passes a test. -/
def firstAt (bytes : List UInt8) (low high : Nat) (test : UInt8 → Bool) : Option Nat :=
  (((bytes.take (high + 1)).drop low).findIdx? test).map (· + low)

/-- The place where the line ends. A line that goes on behind the window is cut off at its last
byte, unless the name of the interpreter might be cut off with it. -/
def lineEnd? (bytes : List UInt8) : Option Nat :=
  let last := window - 1
  match firstAt bytes 0 last fun b => b = 10 || b = 0 with
  | some i =>
    if bytes[i]? = some 10 then some i else cutOff last
  | none => cutOff last
where
  /-- The end of a line that has none of its own. -/
  cutOff (last : Nat) : Option Nat := do
    let name ← firstAt bytes 2 last fun b => !isBlank b
    let _ ← firstAt bytes name last isTerminator
    return last

/-- The text between two places, up to a zero. -/
def textAt (bytes : List UInt8) (low high : Nat) : String :=
  Text.ofBytes ⟨(((bytes.take high).drop low).takeWhile (· ≠ 0)).toArray⟩

/-- The interpreter that the first line of a file names, `none` if the file is no script. -/
def read? (content : ByteArray) : Option Shebang := do
  let bytes := beginning content
  guard (bytes.take 2 = "#!".toUTF8.toList)
  let lineEnd ← lineEnd? bytes
  let trailing := ((bytes.take lineEnd).reverse.takeWhile isBlank).length
  let lineEnd := lineEnd - trailing
  let name ← firstAt bytes 2 lineEnd fun b => !isBlank b
  guard (name ≠ lineEnd)
  let separator := firstAt bytes name lineEnd isTerminator
  let argument := separator.bind fun i =>
    if bytes[i]? = some 0 then none else firstAt bytes i lineEnd fun b => !isBlank b
  return {
    interpreter := textAt bytes name (separator.getD lineEnd)
    argument := argument.map fun i => textAt bytes i lineEnd }

end Shebang

end CommandShell
