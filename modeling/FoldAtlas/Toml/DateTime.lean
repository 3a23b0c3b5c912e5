/-!
# Dates and times

The four forms of a date or time in a settings document: a date with a time and
an offset, a date with a time, a date, and a time. They are kept in parts and
written in one canonical spelling: `T` between date and time, a fraction without
zeros at its end, and an offset of `Z` or hours and minutes.
-/

namespace FoldAtlas

/-- A day of the calendar. -/
structure CalendarDay where
  year : Nat
  /-- The month, from 1. -/
  month : Nat
  /-- The day of the month, from 1. -/
  day : Nat
deriving DecidableEq, Repr, Inhabited

/-- A time of the day. -/
structure ClockTime where
  hour : Nat
  minute : Nat
  /-- The second; a leap second is number 60. -/
  second : Nat
  nanosecond : Nat
deriving DecidableEq, Repr, Inhabited

/-- How far a time is from universal time. -/
inductive TimeOffset where
  /-- It is universal time. -/
  | universal
  /-- It is ahead by some minutes. -/
  | minutes (count : Int)
deriving DecidableEq, Repr, Inhabited

/-- A date, a time, or both. -/
inductive DateTime where
  /-- A date with a time and perhaps an offset. -/
  | moment (date : CalendarDay) (clock : ClockTime) (offset : Option TimeOffset)
  /-- A date. -/
  | day (date : CalendarDay)
  | time (clock : ClockTime)
deriving DecidableEq, Repr, Inhabited

/-- A number with zeros in front of it up to a width. -/
def padded (width number : Nat) : String :=
  let digits := toString number
  String.ofList (List.replicate (width - digits.length) '0') ++ digits

namespace CalendarDay

/-- Whether a year has a leap day. -/
def isLeapYear (year : Nat) : Bool :=
  year % 4 == 0 && (year % 100 != 0 || year % 400 == 0)

/-- How many days a month has. -/
def daysInMonth (year month : Nat) : Nat :=
  if month = 2 then (if isLeapYear year then 29 else 28)
  else if month = 4 ∨ month = 6 ∨ month = 9 ∨ month = 11 then 30
  else 31

/-- The day with a year, a month and a day of the month, if the calendar has it. -/
def make? (year month day : Nat) : Option CalendarDay :=
  if 1 ≤ month ∧ month ≤ 12 ∧ 1 ≤ day ∧ day ≤ daysInMonth year month then
    some ⟨year, month, day⟩
  else none

/-- The spelling of a day. -/
def text (day : CalendarDay) : String :=
  padded 4 day.year ++ "-" ++ padded 2 day.month ++ "-" ++ padded 2 day.day

end CalendarDay

namespace ClockTime

/-- The time with an hour, a minute, a second and a nanosecond, if the clock
shows it. -/
def make? (hour minute second nanosecond : Nat) : Option ClockTime :=
  if hour ≤ 23 ∧ minute ≤ 59 ∧ second ≤ 60 then
    some ⟨hour, minute, second, nanosecond⟩
  else none

/-- The spelling of a fraction of a second. -/
def fractionText (nanosecond : Nat) : String :=
  if nanosecond = 0 then ""
  else
    let digits := (padded 9 nanosecond).toList
    "." ++ String.ofList (digits.reverse.dropWhile (· == '0')).reverse

/-- The spelling of a time. -/
def text (time : ClockTime) : String :=
  padded 2 time.hour ++ ":" ++ padded 2 time.minute ++ ":" ++ padded 2 time.second ++
    fractionText time.nanosecond

end ClockTime

namespace TimeOffset

/-- The spelling of an offset. -/
def text : TimeOffset → String
  | .universal => "Z"
  | .minutes count =>
    (if count < 0 then "-" else "+") ++ padded 2 (count.natAbs / 60) ++ ":" ++
      padded 2 (count.natAbs % 60)

end TimeOffset

namespace DateTime

/-- The spelling of a date or time. -/
def text : DateTime → String
  | .moment date clock offset =>
    date.text ++ "T" ++ clock.text ++ (match offset with
      | none => ""
      | some offset => offset.text)
  | .day date => date.text
  | .time clock => clock.text

end DateTime

end FoldAtlas
