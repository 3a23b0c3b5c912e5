/-!
# Finite doubles as exact data

A `Binary64` holds the sign, the significand and the exponent of a finite
64-bit floating point number, so that reading and printing one are integer
arithmetic that a proof can look into. `Binary64.round?` is the only place
where a value is rounded: to the nearest double, a tie to the even significand.

Infinities and not-a-number have no representation here because no document of
this library can spell one.
-/

namespace FoldAtlas

/-- A finite double: the sign and `significand * 2 ^ shift / 2 ^ 1074`. A
rounded value has a significand below `2 ^ 53`, and one of at least `2 ^ 52`
unless its shift is zero. -/
structure Binary64 where
  /-- Whether the sign bit is set; zero has a sign too. -/
  negative : Bool
  /-- The integer significand. -/
  significand : Nat
  /-- The binary exponent, counted up from that of the least positive double. -/
  shift : Nat
deriving DecidableEq, Repr, Inhabited

namespace Binary64

/-- The exponent of two by which `shift` is counted up. -/
def bias : Nat := 1074

/-- The number of bits in the significand of a rounded double. -/
def precision : Nat := 53

/-- The greatest shift of a finite double. -/
def maxShift : Nat := 2045

/-- Round the quotient of two natural numbers, the divisor positive, to the
nearest pair of significand and shift; a tie goes to the even significand. The
pair is absent when the quotient lies beyond the greatest double. -/
def roundQuotient? (dividend divisor : Nat) : Option (Nat × Nat) :=
  let scaled := dividend * Nat.pow 2 bias
  let whole := scaled / divisor
  let shift := if whole < Nat.pow 2 precision then 0 else Nat.log2 whole + 1 - precision
  let unit := divisor * Nat.pow 2 shift
  let lower := scaled / unit
  let excess := 2 * (scaled % unit)
  let rounded :=
    if unit < excess ∨ (excess = unit ∧ lower % 2 = 1) then lower + 1 else lower
  let pair :=
    if rounded = Nat.pow 2 precision then (Nat.pow 2 (precision - 1), shift + 1)
    else (rounded, shift)
  if maxShift < pair.2 then none else some pair

/-- Round a signed quotient of natural numbers to the nearest double. -/
def round? (negative : Bool) (dividend divisor : Nat) : Option Binary64 :=
  (roundQuotient? dividend divisor).map fun pair => ⟨negative, pair.1, pair.2⟩

/-- Zero of either sign. -/
def zero (negative : Bool) : Binary64 := ⟨negative, 0, 0⟩

/-- Whether a double is zero, of either sign. -/
def isZero (value : Binary64) : Bool := value.significand == 0

/-- The magnitude of a double as a dividend over `2 ^ bias`. -/
def dividend (value : Binary64) : Nat := value.significand * Nat.pow 2 value.shift

/-- The rounded product of the magnitudes of two doubles, with the sign of the
first. -/
def times? (left right : Binary64) : Option Binary64 :=
  round? left.negative (left.dividend * right.dividend) (Nat.pow 2 (2 * bias))

/-- The rounded quotient of the magnitudes of two doubles, the second of them
not zero, with the sign of the first. -/
def over? (left right : Binary64) : Option Binary64 :=
  round? left.negative left.dividend right.dividend

/-- The double nearest a power of ten. -/
def powerOfTen? (exponent : Nat) : Option Binary64 :=
  round? false (Nat.pow 10 exponent) 1

/-- The greatest power of ten with a finite double. -/
def maxTenExponent : Nat := 308

/-- Scale a double by a power of ten in at most `rounds` divisions by the
greatest power and one more step. -/
def scaleWithin? : (rounds : Nat) → Binary64 → Int → Option Binary64
  | 0, _, _ => none
  | rounds + 1, value, exponent =>
    if exponent.natAbs ≤ maxTenExponent then
      match powerOfTen? exponent.natAbs with
      | none => none
      | some power => if 0 ≤ exponent then value.times? power else value.over? power
    else if value.isZero then some value
    else if 0 ≤ exponent then none
    else
      match powerOfTen? maxTenExponent with
      | none => none
      | some power =>
        match value.over? power with
        | none => none
        | some smaller => smaller.scaleWithin? rounds (exponent + maxTenExponent)

/-- Scale a double by a power of ten, each step rounding once: a power that has
a double is one multiplication or division; below that range the value is
divided by the greatest power until the exponent is in reach or nothing is
left. The result is absent when it lies beyond the greatest double. -/
def scaleByTen? (value : Binary64) (exponent : Int) : Option Binary64 :=
  value.scaleWithin? (exponent.natAbs / maxTenExponent + 1) exponent

end Binary64

end FoldAtlas
