import FoldAtlas.Decimal.Binary64

/-!
# The shortest decimal that reads back

`Binary64.shortest` finds, for a positive double, the fewest significant
decimal digits that lie in the interval of reals rounding to it, and among
those the nearest to it. `DecimalLayout` then says how digits and exponent are
written out: which exponents are positional, and what marks an integral value.
-/

namespace FoldAtlas

/-- A positive decimal `digits * 10 ^ exponent`. -/
structure Decimal where
  /-- The significant digits as one number. -/
  digits : Nat
  /-- The power of ten of the last digit. -/
  exponent : Int
deriving DecidableEq, Repr, Inhabited

namespace Binary64

/-- A positive double and the interval of reals that round to it, all four
times as large and over the common divisor `2 ^ bias`. -/
structure Interval where
  /-- The lower end. -/
  low : Nat
  /-- The value itself. -/
  value : Nat
  /-- The upper end. -/
  high : Nat
  /-- Whether the two ends round to the value as well. -/
  closed : Bool

/-- The reals that round to a positive double: half a unit to either side, a
quarter below a power of two, where the units below are half as large. A tie
rounds to the even significand, so the ends belong to an even one. -/
def interval (double : Binary64) : Interval :=
  let unit := Nat.pow 2 double.shift
  let below :=
    if double.significand = Nat.pow 2 (precision - 1) ∧ 0 < double.shift then 1 else 2
  { low := (4 * double.significand - below) * unit
    value := 4 * double.significand * unit
    high := (4 * double.significand + 2) * unit
    closed := double.significand % 2 == 0 }

/-- The divisor under the ends of an `interval`. -/
def intervalDivisor : Nat := 4 * Nat.pow 2 bias

/-- Whether `candidate * divisor` lies between the ends of an interval that
has been scaled by `factor`. -/
def Interval.holds (range : Interval) (factor divisor candidate : Nat) : Bool :=
  if range.closed then
    decide (range.low * factor ≤ candidate * divisor ∧
      candidate * divisor ≤ range.high * factor)
  else
    decide (range.low * factor < candidate * divisor ∧
      candidate * divisor < range.high * factor)

/-- The multiple of a divisor that lies in an interval scaled by a factor and is
nearest to its value, if either neighbour of the value lies there. Of two
equally near ones the even is taken. -/
def Interval.nearest? (range : Interval) (factor divisor : Nat) : Option Nat :=
  let scaled := range.value * factor
  let lower := scaled / divisor
  let excess := 2 * (scaled % divisor)
  let upperIsNearer := divisor < excess ∨ (excess = divisor ∧ lower % 2 = 1)
  let lowerHolds := 0 < lower && range.holds factor divisor lower
  let upperHolds := range.holds factor divisor (lower + 1)
  if lowerHolds && !(upperHolds && decide upperIsNearer) then some lower
  else if upperHolds then some (lower + 1)
  else none

/-- What the ends of an interval are scaled by so that they can be compared with
multiples of `10 ^ exponent`. -/
def gridFactor (exponent : Int) : Nat :=
  if 0 ≤ exponent then 1 else Nat.pow 10 exponent.natAbs

/-- How large `10 ^ exponent` is beside the ends of an interval, so scaled. -/
def gridDivisor (exponent : Int) : Nat :=
  intervalDivisor * (if 0 ≤ exponent then Nat.pow 10 exponent.natAbs else 1)

/-- Whether a decimal lies in an interval. -/
def Interval.admits (range : Interval) (decimal : Decimal) : Bool :=
  range.holds (gridFactor decimal.exponent) (gridDivisor decimal.exponent) decimal.digits

/-- The decimal on the grid of multiples of `10 ^ exponent` that reads back as
the double and is nearest to it, if either neighbour on that grid does. -/
def nearestOnGrid? (range : Interval) (exponent : Int) : Option Decimal :=
  (range.nearest? (gridFactor exponent) (gridDivisor exponent)).map fun digits =>
    ⟨digits, exponent⟩

/-- The first grid that holds a decimal reading back as the double, from the
grid of `10 ^ exponent` downwards, looking at no more than `grids` of them. -/
def firstOnGrids (range : Interval) : (grids : Nat) → (exponent : Int) → Option Decimal
  | 0, _ => none
  | grids + 1, exponent =>
    match nearestOnGrid? range exponent with
    | some decimal => some decimal
    | none => firstOnGrids range grids (exponent - 1)

/-- How many grids are looked at. That they are enough is
`IsPositive.exists_fine`. -/
def gridLimit : Nat := 24

/-- An exponent whose grid is too coarse to hold a decimal for the double,
close to the first one that does: the binary exponent of the double tells it up
to a factor of ten. -/
def coarseExponent (double : Binary64) : Int :=
  let bits : Int := Nat.log2 double.dividend
  (bits - bias) * 30103 / 100000 + 2

/-- The shortest decimal that reads back as a positive double. That one is
always found, so that what is to be had otherwise does not matter, is
`shortest_isShortest`. Its digits do not end in a zero, since then the grid
before would hold it. -/
def shortest (double : Binary64) : Decimal :=
  (firstOnGrids double.interval gridLimit double.coarseExponent).getD ⟨0, 0⟩

end Binary64

/-- How a decimal is written out. -/
structure DecimalLayout where
  /-- The least exponent of the first digit that is written positionally. -/
  leastPositional : Int
  /-- The greatest exponent of the first digit that is written positionally. -/
  greatestPositional : Int
  /-- What follows the digits of a positional integral value. -/
  integralEnd : String
  /-- What stands between the digits and a positive exponent. -/
  positiveMark : String
  /-- What stands between the digits and the magnitude of a negative exponent. -/
  negativeMark : String

namespace DecimalLayout

/-- A run of zeros. -/
def zeros (count : Nat) : String := String.ofList (List.replicate count '0')

/-- Write a positive decimal. -/
def write (layout : DecimalLayout) (decimal : Decimal) : String :=
  let digits := Nat.toDigits 10 decimal.digits
  let leading : Int := decimal.exponent + digits.length - 1
  if layout.leastPositional ≤ leading ∧ leading ≤ layout.greatestPositional then
    if leading < 0 then
      "0." ++ zeros (leading.natAbs - 1) ++ String.ofList digits
    else
      let whole := leading.toNat + 1
      if digits.length ≤ whole then
        String.ofList digits ++ zeros (whole - digits.length) ++ layout.integralEnd
      else
        String.ofList (digits.take whole) ++ "." ++ String.ofList (digits.drop whole)
  else
    let mantissa := match digits with
      | [] => ""
      | [only] => String.singleton only
      | first :: rest => String.singleton first ++ "." ++ String.ofList rest
    let mark := if leading < 0 then layout.negativeMark else layout.positiveMark
    mantissa ++ mark ++ toString leading.natAbs

/-- Write a double: its sign, then its shortest decimal. -/
def writeDouble (layout : DecimalLayout) (double : Binary64) : String :=
  let sign := if double.negative then "-" else ""
  if double.isZero then sign ++ "0" ++ layout.integralEnd
  else sign ++ layout.write double.shortest

end DecimalLayout

end FoldAtlas
