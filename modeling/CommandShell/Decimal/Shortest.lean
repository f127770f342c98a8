/-!
# Shortest decimals

The fewest decimal digits that still tell a binary float from every other one. A positive finite
float is `m * 2 ^ q`; the reals that round to it form an interval around it, whose ends belong to
it iff `m` is even. For 1, 2, … 17 digits, `shortest` looks at the two neighbours of the float on
the grid of decimals with that many digits, and stops at the first grid on which one of them lies
in the interval; of two, the nearer one wins. All of it is exact arithmetic on natural numbers.
-/

namespace CommandShell.Decimal

/-- A positive rational in quarters of the unit of a float: the float itself and the ends of the
interval of reals that round to it, over one denominator. -/
structure Interval where
  low : Nat
  middle : Nat
  high : Nat
  denominator : Nat
  /-- The ends of the interval round to the float as well. -/
  closed : Bool

/-- The bit that stands for the sign of a float. -/
def signBit : Nat := 0x8000000000000000

/-- The bit in front of a fraction, which a float does not show: its fraction has 52 bits. -/
def hidden : Nat := 0x10000000000000

/-- Takes apart the bits of a positive finite float. The interval is narrower below a power of two
than above it, except at the bottom of the exponent range. -/
def Interval.ofBits (bits : Nat) : Interval :=
  let fraction := bits % hidden
  let biased := bits / hidden % 2048
  let m := if biased = 0 then fraction else fraction + hidden
  let shift := (max biased 1) -- the unit is 2 ^ (shift - 1075)
  let below := if fraction = 0 ∧ biased > 1 then 1 else 2
  -- quarters of the unit: 2 ^ (shift - 1077)
  let up := Nat.pow 2 (shift - 1077)
  let down := Nat.pow 2 (1077 - shift)
  ⟨(4 * m - below) * up, 4 * m * up, (4 * m + 2) * up, down, m % 2 = 0⟩

/-- The decimal `digits * 10 ^ exponent`. -/
structure Digits where
  digits : Nat
  exponent : Int
  deriving DecidableEq, Repr

namespace Interval

/-- Numerator and denominator of `numerator / denominator / 10 ^ exponent`. -/
def scale (numerator denominator : Nat) (exponent : Int) : Nat × Nat :=
  if exponent ≥ 0 then (numerator, denominator * Nat.pow 10 exponent.toNat)
  else (numerator * Nat.pow 10 (-exponent).toNat, denominator)

/-- The decimal lies in the interval. -/
def contains (i : Interval) (d : Digits) : Bool :=
  let (low, den) := scale i.low i.denominator d.exponent
  let (high, _) := scale i.high i.denominator d.exponent
  if i.closed then low ≤ d.digits * den && d.digits * den ≤ high
  else low < d.digits * den && d.digits * den < high

/-- The exponent of the leading decimal digit of the float: the largest `e`, counted down from
`e + fuel`, with `10 ^ e` not above it. -/
def leading (i : Interval) : Nat → Int → Int
  | 0, e => e
  | fuel + 1, e =>
    let (num, den) := scale i.middle i.denominator e
    if den ≤ num then e else leading i fuel (e - 1)

/-- The best decimal with `count` digits, if one of the two neighbours lies in the interval. -/
def onGrid (i : Interval) (top : Int) (count : Nat) : Option Digits :=
  let exponent := top - (count - 1 : Nat)
  let (num, den) := scale i.middle i.denominator exponent
  let down : Digits := ⟨num / den, exponent⟩
  let up : Digits := ⟨num / den + 1, exponent⟩
  match i.contains down, i.contains up with
  | true, false => some down
  | false, true => some up
  | true, true => if 2 * (num % den) < den then some down else some up
  | false, false => none

/-- The shortest decimal in the interval, the nearest one of those. -/
def shortest (i : Interval) : Digits :=
  let top := i.leading 700 309
  ((List.range 17).findSome? fun k => i.onGrid top (k + 1)).getD ⟨0, 0⟩

end Interval

/-- The digits of a decimal written out without an exponent. -/
def Digits.positional (d : Digits) : String :=
  let ds := Nat.toDigits 10 d.digits
  if d.exponent ≥ 0 then String.ofList (ds ++ List.replicate d.exponent.toNat '0')
  else
    let places := (-d.exponent).toNat
    let whole := ds.take (ds.length - places)
    let fraction := List.replicate (places - ds.length) '0' ++ ds.drop (ds.length - places)
    -- zeros at the end carry no information
    let fraction := (fraction.reverse.dropWhile (· == '0')).reverse
    String.ofList ((if whole.isEmpty then ['0'] else whole) ++
      (if fraction.isEmpty then [] else '.' :: fraction))

/-- A float with the fewest digits that read back as it, always with a point. -/
def text (x : Float) : String :=
  let bits := x.toBits.toNat
  let sign := if bits / signBit = 1 then "-" else ""
  let size := bits % signBit
  if x.isNaN then "NaN"
  else if size = 2047 * hidden then sign ++ "inf"
  else if size = 0 then sign ++ "0.0"
  else
    let s := (Interval.ofBits size).shortest.positional
    sign ++ (if s.contains '.' then s else s ++ ".0")

end CommandShell.Decimal
