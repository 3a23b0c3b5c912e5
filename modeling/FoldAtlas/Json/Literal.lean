import FoldAtlas.Json.Basic

/-!
# Number literals

The characters of a number are collected first and valued afterwards. The
digits, whole and fractional, make up a significand of 64 bits: as many leading
digits as fit, those that do not fit counting only for the exponent. A literal
without fraction and exponent whose significand fits is an integer; every other
one is the double nearest the significand, scaled by a power of ten.
-/

namespace FoldAtlas.Json

/-- The parts of a number literal, digits in reading order. -/
structure Literal where
  /-- Whether the literal begins with a minus sign. -/
  negative : Bool
  /-- The digits before the point. -/
  whole : List Nat
  /-- The digits after the point, if there is one. -/
  fraction : Option (List Nat)
  /-- The exponent, if one is written. -/
  exponent : Option Int

namespace Literal

/-- The greatest significand. -/
def maxSignificand : Nat := UInt64.size - 1

/-- Append digits to a significand for as long as it fits. The second part of
the answer is what did not fit. -/
def appendDigits : Nat → List Nat → Nat × List Nat
  | significand, [] => (significand, [])
  | significand, digit :: rest =>
    if significand * 10 + digit ≤ maxSignificand then
      appendDigits (significand * 10 + digit) rest
    else (significand, digit :: rest)

/-- The double of a significand and a decimal exponent. -/
def scaled? (negative : Bool) (significand : Nat) (exponent : Int) : Option Number :=
  match Binary64.round? negative significand 1 with
  | none => none
  | some value => (value.scaleByTen? exponent).map .double

/-- The number that a literal denotes. There is none when it lies beyond the
greatest double. A negative zero is a double, and so is an integer below
`-2 ^ 63`. -/
def number? (literal : Literal) : Option Number :=
  let (whole, unread) := appendDigits 0 literal.whole
  match literal.fraction, literal.exponent, unread with
  | none, none, [] =>
    if !literal.negative then some (.integer whole)
    else if whole = 0 ∨ Int64.minValue.toInt.natAbs < whole then scaled? true whole 0
    else some (.integer (-whole))
  | fraction, exponent, unread =>
    let digits := fraction.getD []
    let (significand, ignored) := appendDigits whole digits
    let fractional : Int := digits.length - ignored.length
    scaled? literal.negative significand
      (unread.length - fractional + exponent.getD 0)

end Literal

end FoldAtlas.Json
