/-!
# Texts as bytes

Names of files, arguments and the like are bytes to the system, which need not make sense as
characters. `Text.ofBytes` reads bytes as a text. A byte that belongs to no character stays in the
text by itself, as one of the 128 *stray* characters, so that `Text.bytes` can give back what was
read, byte for byte. `Text.shown` is a text as it is shown to people, who get to see one and the
same mark for everything that is no character.
-/

namespace CommandShell.Text

/-! ## Characters and their bytes -/

/-- How many bytes a character has that begins with this one. No character begins with a byte for
which it is zero. -/
def width (first : UInt8) : Nat :=
  if first < 0x80 then 1
  else if first < 0xC2 then 0
  else if first < 0xE0 then 2
  else if first < 0xF0 then 3
  else if first < 0xF5 then 4
  else 0

/-- Between which bytes the second byte of a character lies that begins with this one. -/
def secondRange (first : UInt8) : UInt8 × UInt8 :=
  if first = 0xE0 then (0xA0, 0xBF)
  else if first = 0xED then (0x80, 0x9F)
  else if first = 0xF0 then (0x90, 0xBF)
  else if first = 0xF4 then (0x80, 0x8F)
  else (0x80, 0xBF)

/-- Some byte of a character after the first two can be this one. -/
def isContinuation (b : UInt8) : Bool :=
  0x80 ≤ b && b ≤ 0xBF

/-- The bytes at the beginning of `rest` that can belong to a character that begins with
`first`. -/
def continuations (first : UInt8) (rest : List UInt8) : List UInt8 :=
  match rest.take (width first - 1) with
  | [] => []
  | second :: more =>
    let (low, high) := secondRange first
    if low ≤ second && second ≤ high then second :: more.takeWhile isContinuation else []

/-- The character of a first byte and those that belong to it, if they are all there. -/
def character? (first : UInt8) (others : List UInt8) : Option Char :=
  if others.length + 1 = width first then
    let start := match others.length with
      | 0 => first.toNat
      | 1 => first.toNat % 32
      | 2 => first.toNat % 16
      | _ => first.toNat % 8
    some (Char.ofNat (others.foldl (fun value b => value * 64 + b.toNat % 64) start))
  else none

/-! ## Stray bytes -/

/-- The character that stands for a byte from 128 on that belongs to no character. -/
def stray (b : UInt8) : Char :=
  Char.ofNat (0x10DC00 + b.toNat)

/-- The character stands for a byte. -/
def isStray (c : Char) : Bool :=
  0x10DC80 ≤ c.toNat && c.toNat ≤ 0x10DCFF

/-- The bytes of a character. -/
def charBytes (c : Char) : List UInt8 :=
  if isStray c then [UInt8.ofNat (c.toNat - 0x10DC00)] else c.toString.toUTF8.toList

/-- Reads bytes as characters. The bytes of a character that would be taken for a stray one stay
single as well. -/
def readBytes : List UInt8 → List Char
  | [] => []
  | b :: rest =>
    let others := continuations b rest
    match character? b others with
    | some c =>
      if isStray c then stray b :: readBytes rest else c :: readBytes (rest.drop others.length)
    | none => stray b :: readBytes rest
termination_by bytes => bytes.length
decreasing_by all_goals (simp only [List.length_drop, List.length_cons]; omega)

/-! ## Texts -/

/-- The text that bytes make up. -/
def ofBytes (bytes : ByteArray) : String :=
  match String.fromUTF8? bytes with
  | some s => if s.any isStray then String.ofList (readBytes bytes.toList) else s
  | none => String.ofList (readBytes bytes.toList)

/-- The bytes that a text is made of. -/
def bytes (s : String) : ByteArray :=
  if s.any isStray then ⟨(s.toList.flatMap charBytes).toArray⟩ else s.toUTF8

/-- How many bytes a text is made of. -/
def size (s : String) : Nat :=
  if s.any isStray then (s.toList.flatMap charBytes).length else s.utf8ByteSize

/-- The mark in place of what is no character. -/
def replacement : Char := '\uFFFD'

/-- Reads bytes as people get to see them. What could have become a character, up to the byte that
does not fit, gets one mark. -/
def showBytes : List UInt8 → List Char
  | [] => []
  | b :: rest =>
    let others := continuations b rest
    (character? b others).getD replacement :: showBytes (rest.drop others.length)
termination_by bytes => bytes.length
decreasing_by all_goals (simp only [List.length_drop, List.length_cons]; omega)

/-- A text as it is shown. -/
def shown (s : String) : String :=
  if s.any isStray then String.ofList (showBytes (bytes s).toList) else s

end CommandShell.Text
