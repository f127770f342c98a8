/-!
# Numerals

How scripts and programs write whole numbers. Some take octal and hexadecimal notation as well as
decimal, others decimal notation alone. A number has to fit into a word of 64 bits, and the numbers
that something is counted with have to be natural and to fit into half of one.
-/

namespace CommandShell

namespace Numeral

/-- The value of a digit in any base. -/
def digitValue? (c : Char) : Option Nat :=
  if c.isDigit then some (c.toNat - 48)
  else if 'a' ≤ c && c ≤ 'z' then some (c.toNat - 87)
  else if 'A' ≤ c && c ≤ 'Z' then some (c.toNat - 55)
  else none

/-- The digits of a base at the beginning of a text, as a number, and what comes after them. -/
def readDigits (base value : Nat) : List Char → Nat × List Char
  | [] => (value, [])
  | c :: rest =>
    match digitValue? c with
    | some d => if d < base then readDigits base (value * base + d) rest else (value, c :: rest)
    | none => (value, c :: rest)

/-- A character that separates words in any setting. -/
def isBlank (c : Char) : Bool :=
  c == ' ' || (9 ≤ c.toNat && c.toNat ≤ 13)

/-- Reads a number in decimal notation, in octal after a zero, or in hexadecimal after `0x`. There
is none if no digit can be read. -/
def readUnsigned? (cs : List Char) : Option (Nat × List Char) :=
  match cs with
  | '0' :: x :: c :: rest =>
    let isHex := (x == 'x' || x == 'X') && (digitValue? c).any (· < 16)
    some (if isHex then readDigits 16 0 (c :: rest) else readDigits 8 0 cs)
  | '0' :: _ => some (readDigits 8 0 cs)
  | c :: _ => if c.isDigit then some (readDigits 10 0 cs) else none
  | [] => none

/-- Reads a number that blanks and a sign can stand before. -/
def readSigned? (cs : List Char) : Option (Int × List Char) :=
  match cs.dropWhile isBlank with
  | '-' :: rest => (readUnsigned? rest).map fun (n, rest) => (-(n : Int), rest)
  | '+' :: rest => (readUnsigned? rest).map fun (n, rest) => ((n : Int), rest)
  | cs => (readUnsigned? cs).map fun (n, rest) => ((n : Int), rest)

/-- The greatest number of a word. -/
def greatest : Int := 0x7fffffffffffffff

/-- The least number of a word. -/
def least : Int := -0x8000000000000000

/-- The number that a whole text is in decimal notation, with blanks around it. -/
def decimalNumber? (text : String) : Option Int :=
  let cs := text.toList.dropWhile isBlank
  let signed := match cs with
    | '-' :: rest => ((-1 : Int), rest)
    | '+' :: rest => (1, rest)
    | cs => (1, cs)
  let (n, rest) := readDigits 10 0 signed.2
  let value : Int := signed.1 * (n : Int)
  if signed.2.head?.any Char.isDigit && rest.all isBlank && least ≤ value && value ≤ greatest then
    some value
  else none

/-- The number that something is counted with. -/
def count? (text : String) : Option Nat :=
  (decimalNumber? text).bind fun n => if 0 ≤ n && n < 0x80000000 then some n.toNat else none

end Numeral

end CommandShell
