/-!
# Decimal notation

How numbers with a fraction are read and written. A `Quantity` is exact, as a ratio of natural
numbers with a sign, or one of the values beyond all ratios. `Quantity.rounded` keeps as many
binary digits as a machine does, and the three notations, with a fixed number of places, with an
exponent, and the general one that chooses between them, round once more, to the nearest digit and
half way to the even one.
-/

namespace CommandShell.Decimal

/-- A number that need not be whole. -/
inductive Quantity
  | ratio (negative : Bool) (numerator denominator : Nat)
  | infinite (negative : Bool)
  | undefined (negative : Bool)

/-- The natural number nearest to a ratio, and the even one of two. -/
def nearest (numerator denominator : Nat) : Nat :=
  let q := numerator / denominator
  let r := numerator % denominator
  if 2 * r < denominator then q
  else if 2 * r > denominator then q + 1
  else q + q % 2

/-- A ratio times a power of a base, whose exponent may be negative. -/
def scaled (numerator denominator base : Nat) (exponent : Int) : Nat × Nat :=
  if exponent ≥ 0 then (numerator * Nat.pow base exponent.toNat, denominator)
  else (numerator, denominator * Nat.pow base (-exponent).toNat)

/-- The greatest exponent of a base whose power is not above a positive ratio, if it is `guess` or
less by one. -/
def exponentFrom (numerator denominator base : Nat) (guess : Int) : Int :=
  let (n, d) := scaled numerator denominator base (-guess)
  if d ≤ n then guess else guess - 1

namespace Quantity

/-- The number with so many binary digits. -/
def rounded (digits : Nat) : Quantity → Quantity
  | .ratio negative n d =>
    if n = 0 then .ratio negative 0 1
    else
      let exponent := exponentFrom n d 2 ((Nat.log2 n : Int) - Nat.log2 d)
      let shift : Int := (digits : Int) - 1 - exponent
      let (n, d) := scaled n d 2 shift
      let (n, d) := scaled (nearest n d) 1 2 (-shift)
      .ratio negative n d
  | q => q

/-! ## Reading -/

/-- The decimal digits in front and what follows them. -/
def takeDigits (isDigit : Char → Bool) (cs : List Char) : List Char × List Char :=
  (cs.takeWhile isDigit, cs.dropWhile isDigit)

/-- The value of digits in a base. -/
def valueOf (base : Nat) (digits : List Char) : Nat :=
  digits.foldl (fun n c =>
    n * base + if c.isDigit then c.toNat - 48 else c.toLower.toNat - 87) 0

/-- Reads an exponent after its letter, if there is one. -/
def readExponent (letter : Char) (cs : List Char) : Int × List Char :=
  match cs with
  | e :: rest =>
    let (sign, digits) : Int × List Char := match rest with
      | '-' :: more => (-1, more)
      | '+' :: more => (1, more)
      | more => (1, more)
    let (ds, after) := takeDigits Char.isDigit digits
    if e.toLower == letter && !ds.isEmpty then (sign * (valueOf 10 ds : Int), after) else (0, cs)
  | [] => (0, [])

/-- The greatest exponent that is taken at its word. -/
def farthest : Int := 5000

/-- Reads digits with a point and an exponent. -/
def readPoint? (negative isHex : Bool) (cs : List Char) : Option (Quantity × List Char) :=
  let isDigit (c : Char) : Bool :=
    c.isDigit || (isHex && ('a' ≤ c.toLower && c.toLower ≤ 'f'))
  let (whole, rest) := takeDigits isDigit cs
  let (fraction, rest) := match rest with
    | '.' :: more =>
      let (fraction, after) := takeDigits isDigit more
      if whole.isEmpty && fraction.isEmpty then ([], rest) else (fraction, after)
    | _ => ([], rest)
  if whole.isEmpty && fraction.isEmpty then none
  else
    let (exponent, rest) := readExponent (if isHex then 'p' else 'e') rest
    let digits := valueOf (if isHex then 16 else 10) (whole ++ fraction)
    let shift : Int := exponent - (if isHex then 4 else 1) * fraction.length
    if digits = 0 || shift < -farthest then some (.ratio negative 0 1, rest)
    else if shift > farthest then some (.infinite negative, rest)
    else
      let (n, d) := scaled digits 1 (if isHex then 2 else 10) shift
      some (.ratio negative n d, rest)

/-- A word at the beginning of a text, in any case, and what follows it. -/
def readWord? (word : String) (cs : List Char) : Option (List Char) :=
  if (cs.take word.length).map Char.toLower = word.toList then some (cs.drop word.length) else none

/-- Reads a number in decimal or, after `0x`, in hexadecimal notation, or the name of a value beyond
all numbers. Blanks and a sign can stand before it. -/
def read? (cs : List Char) : Option (Quantity × List Char) :=
  let cs := cs.dropWhile fun c => c == ' ' || (9 ≤ c.toNat && c.toNat ≤ 13)
  let (negative, cs) := match cs with
    | '-' :: rest => (true, rest)
    | '+' :: rest => (false, rest)
    | cs => (false, cs)
  match readWord? "infinity" cs, readWord? "inf" cs, readWord? "nan" cs, readWord? "0x" cs with
  | some rest, _, _, _ => some (.infinite negative, rest)
  | _, some rest, _, _ => some (.infinite negative, rest)
  | _, _, some rest, _ => some (.undefined negative, rest)
  | _, _, _, some rest => (readPoint? negative true rest).or (readPoint? negative false cs)
  | _, _, _, none => readPoint? negative false cs

end Quantity

/-! ## Writing -/

/-- The digits of a number with a point in front of the last `places`. There is no point if there
are no places, unless a bare one is wanted. -/
def withPoint (places : Nat) (barePoint : Bool) (number : Nat) : List Char :=
  let digits := Nat.toDigits 10 number
  let digits := List.replicate (places + 1 - digits.length) '0' ++ digits
  let whole := digits.take (digits.length - places)
  if places = 0 then whole ++ (if barePoint then ['.'] else [])
  else whole ++ '.' :: digits.drop (digits.length - places)

/-- A ratio with a fixed number of places. -/
def fixedPoint (places : Nat) (barePoint : Bool) (numerator denominator : Nat) : List Char :=
  withPoint places barePoint (nearest (numerator * Nat.pow 10 places) denominator)

/-- The digits of a ratio, as many as there are places and one more, and the exponent of the first
of them. -/
def leadingDigits (places : Nat) (numerator denominator : Nat) : Nat × Int :=
  if numerator = 0 then (0, 0)
  else
    let length (n : Nat) : Int := (Nat.toDigits 10 n).length
    let guess := length numerator - length denominator
    let exponent := exponentFrom numerator denominator 10 guess
    let (n, d) := scaled numerator denominator 10 ((places : Int) - exponent)
    let digits := nearest n d
    if digits = Nat.pow 10 (places + 1) then (Nat.pow 10 places, exponent + 1)
    else (digits, exponent)

/-- An exponent with its letter, its sign and two digits at least. -/
def exponentText (exponent : Int) : List Char :=
  let digits := Nat.toDigits 10 exponent.natAbs
  ['e', if exponent < 0 then '-' else '+'] ++ List.replicate (2 - digits.length) '0' ++ digits

/-- Takes the zeros at the end of a fraction away, and a point without a fraction. -/
def withoutZeros (cs : List Char) : List Char :=
  if !cs.contains '.' then cs
  else
    match cs.reverse.dropWhile (· == '0') with
    | '.' :: rest => rest.reverse
    | rest => rest.reverse

/-- A ratio with an exponent. -/
def scientific (places : Nat) (barePoint : Bool) (numerator denominator : Nat) : List Char :=
  let (digits, exponent) := leadingDigits places numerator denominator
  withPoint places barePoint digits ++ exponentText exponent

/-- A ratio with so many digits, with an exponent if it is far from one. Zeros at the end are left
out unless they are to be kept. -/
def general (digits : Nat) (keepZeros : Bool) (numerator denominator : Nat) : List Char :=
  let digits := max digits 1
  let (number, exponent) := leadingDigits (digits - 1) numerator denominator
  let trim (cs : List Char) : List Char := if keepZeros then cs else withoutZeros cs
  if -4 ≤ exponent && exponent < digits then
    trim (fixedPoint ((digits : Int) - 1 - exponent).toNat keepZeros numerator denominator)
  else trim (withPoint (digits - 1) keepZeros number) ++ exponentText exponent

end CommandShell.Decimal
