import FoldAtlas.Toml.Scan
import FoldAtlas.Toml.Basic

/-!
# Numbers, dates and times

The scalars of a settings document that begin with a digit or a sign, and the
names of the special numbers. What can be read as a date or time is one, else
as a number with fraction or exponent, else as an integer.
-/

namespace FoldAtlas.Toml

/-- Scan a fixed number of decimal digits. -/
def fixedDigits (count : Nat) : Scan Nat := fun text =>
  match (text.take count).mapM decimalDigit? with
  | none => none
  | some digits =>
    if digits.length = count then some (ofDigits 10 digits, text.drop count) else none

/-- Scan a date. -/
def calendarDay : Scan CalendarDay := fun text => do
  let (year, text) ← fixedDigits 4 text
  let ((), text) ← literal ['-'] text
  let (month, text) ← fixedDigits 2 text
  let ((), text) ← literal ['-'] text
  let (day, text) ← fixedDigits 2 text
  let found ← CalendarDay.make? year month day
  return (found, text)

/-- How many digits of a fraction of a second count. -/
def fractionWidth : Nat := 9

/-- The nanoseconds that the digits of a fraction of a second denote. Digits
beyond the ninth are dropped. -/
def nanoseconds (digits : List Nat) : Nat :=
  let kept := digits.take fractionWidth
  ofDigits 10 kept * Nat.pow 10 (fractionWidth - kept.length)

/-- Scan the fraction of a second, if there is one. -/
def secondFraction (text : List Char) : Option (Nat × List Char) :=
  match text with
  | '.' :: rest =>
    let digits := (rest.takeWhile fun char => (decimalDigit? char).isSome).filterMap decimalDigit?
    if digits = [] then none else some (nanoseconds digits, rest.drop digits.length)
  | _ => some (0, text)

/-- Scan a time of the day. -/
def clockTime : Scan ClockTime := fun text => do
  let (hour, text) ← fixedDigits 2 text
  let ((), text) ← literal [':'] text
  let (minute, text) ← fixedDigits 2 text
  let ((), text) ← literal [':'] text
  let (second, text) ← fixedDigits 2 text
  let (nanosecond, text) ← secondFraction text
  let found ← ClockTime.make? hour minute second nanosecond
  return (found, text)

/-- Scan hours and minutes that a time is ahead or behind. -/
def offsetMinutes (sign : Int) : Scan TimeOffset := fun text => do
  let (hour, text) ← fixedDigits 2 text
  let ((), text) ← literal [':'] text
  let (minute, text) ← fixedDigits 2 text
  if hour ≤ 23 ∧ minute ≤ 59 then return (.minutes (sign * (hour * 60 + minute)), text)
  else none

/-- Scan an offset. -/
def timeOffset : Scan TimeOffset
  | 'Z' :: rest | 'z' :: rest => some (.universal, rest)
  | '+' :: rest => offsetMinutes 1 rest
  | '-' :: rest => offsetMinutes (-1) rest
  | _ => none

/-- Scan the time behind a date. -/
def timeBehindDay : Scan ClockTime
  | char :: rest => if char = 'T' ∨ char = 't' ∨ char = ' ' then clockTime rest else none
  | [] => none

/-- Scan a date or time. -/
def dateOrTime : Scan DateTime := fun text =>
  match calendarDay text with
  | none => (clockTime text).map fun (time, rest) => (.time time, rest)
  | some (day, rest) =>
    match timeBehindDay rest with
    | none => some (.day day, rest)
    | some (time, rest) =>
      match timeOffset rest with
      | none => some (.moment day time none, rest)
      | some (offset, rest) => some (.moment day time (some offset), rest)

/-- Scan a sign, if there is one. -/
def sign : List Char → Bool × List Char
  | '-' :: rest => (true, rest)
  | '+' :: rest => (false, rest)
  | text => (false, text)

/-- Scan the digits of a decimal integer, without a needless zero in front. -/
def wholeDigits : Scan (List Nat)
  | '0' :: rest => some ([0], rest)
  | text => digits decimalDigit? text

/-- Scan the digits behind a decimal point. -/
def fractionDigits : Scan (List Nat)
  | '.' :: rest => digits decimalDigit? rest
  | _ => none

/-- Scan an exponent. -/
def exponent : Scan Int
  | [] => none
  | char :: rest =>
    if char = 'e' ∨ char = 'E' then
      let (negative, rest) := sign rest
      (digits decimalDigit? rest).map fun (found, rest) =>
        let magnitude : Int := ofDigits 10 found
        (if negative then -magnitude else magnitude, rest)
    else none

/-- The greatest number of digits that a finite number has before its point. -/
def maxMagnitude : Int := 310

/-- The least power of ten that a number other than zero is taken for. -/
def minMagnitude : Int := -400

/-- The number with a sign, a significand of some digits and a decimal exponent.
There is none beyond the greatest double; below zero it is an infinity. -/
def realOf? (negative : Bool) (digits : List Nat) (exponent : Int) : Option Real :=
  let significand := ofDigits 10 digits
  let beyond : Option Real := if negative then some (.infinite true) else none
  if significand = 0 ∨ digits.length + exponent < minMagnitude then
    some (.finite (.zero negative))
  else if maxMagnitude < (digits.dropWhile (· == 0)).length + exponent then beyond
  else
    let rounded :=
      if 0 ≤ exponent then Binary64.round? negative (significand * Nat.pow 10 exponent.toNat) 1
      else Binary64.round? negative significand (Nat.pow 10 (-exponent).toNat)
    match rounded with
    | some value => some (.finite value)
    | none => beyond

/-- Scan a number with a fraction, an exponent or both. -/
def decimalReal : Scan Real := fun text =>
  let (negative, text) := sign text
  match wholeDigits text with
  | none => none
  | some (whole, rest) =>
    match fractionDigits rest, exponent rest with
    | some (fraction, rest), _ =>
      let (power, rest) := (exponent rest).getD (0, rest)
      (realOf? negative (whole ++ fraction) (power - fraction.length)).map (·, rest)
    | none, some (power, rest) => (realOf? negative whole power).map (·, rest)
    | none, none => none

/-- Scan the name of a special number. -/
def namedReal : Scan Real := fun text =>
  let (negative, text) := sign text
  match text with
  | 'i' :: 'n' :: 'f' :: rest => some (.infinite negative, rest)
  | 'n' :: 'a' :: 'n' :: rest => some (.notANumber, rest)
  | _ => none

/-- The value of a digit in a base of at most sixteen. -/
def digitBelow (base : Nat) (char : Char) : Option Nat :=
  (hexDigit? char).filter (· < base)

/-- The integer of a number, if it has 64 bits with its sign. -/
def integerOf? (value : Int) : Option Int64 :=
  if Int64.minValue.toInt ≤ value ∧ value ≤ Int64.maxValue.toInt then
    some (Int64.ofInt value)
  else none

/-- Scan the digits of an integer in another base. -/
def basedInteger (base : Nat) : Scan Int64 := fun text => do
  let (found, rest) ← digits (digitBelow base) text
  let value ← integerOf? (ofDigits base found)
  return (value, rest)

/-- Scan a decimal integer. -/
def decimalInteger : Scan Int64 := fun text => do
  let (negative, text) := sign text
  let (found, rest) ← wholeDigits text
  let magnitude : Int := ofDigits 10 found
  let value ← integerOf? (if negative then -magnitude else magnitude)
  return (value, rest)

/-- Scan an integer. -/
def integer64 : Scan Int64
  | '0' :: 'x' :: rest => basedInteger 16 rest
  | '0' :: 'o' :: rest => basedInteger 8 rest
  | '0' :: 'b' :: rest => basedInteger 2 rest
  | text => decimalInteger text

/-- Scan a number, a date or a time. -/
def numberOrTime : Scan Toml := fun text =>
  match dateOrTime text with
  | some (found, rest) => some (.dateTime found, rest)
  | none =>
    match decimalReal text with
    | some (found, rest) => some (.real found, rest)
    | none =>
      match namedReal text with
      | some (found, rest) => some (.real found, rest)
      | none => (integer64 text).map fun (found, rest) => (.integer found, rest)

end FoldAtlas.Toml
