/-!
# Calendar

Days and moments of the Gregorian calendar, with or without a distance from universal time.
-/

namespace ApiCompiler.Calendar

/-- A day. -/
structure Date where
  year : Nat
  month : Nat
  day : Nat
deriving Repr, DecidableEq, Inhabited

/-- A time of a day, with the minutes it is ahead of universal time where that is known. -/
structure Moment where
  date : Date
  hour : Nat
  minute : Nat
  second : Nat
  microsecond : Nat
  ahead : Option Int
deriving Repr, DecidableEq, Inhabited

def isLeapYear (year : Nat) : Bool :=
  year % 4 == 0 && (year % 100 != 0 || year % 400 == 0)

def daysInMonth (year month : Nat) : Nat :=
  if month == 2 then if isLeapYear year then 29 else 28
  else if month == 4 || month == 6 || month == 9 || month == 11 then 30
  else 31

namespace Date

/-- Years of one to four digits, and a day that the month has. -/
def isValid (date : Date) : Bool :=
  1 ≤ date.year && date.year ≤ 9999 && 1 ≤ date.month && date.month ≤ 12 &&
    1 ≤ date.day && date.day ≤ daysInMonth date.year date.month

/-- The number of days since the day before the first of the first year. -/
def ordinal (date : Date) : Nat :=
  let years := date.year - 1
  let months := (List.range (date.month - 1)).map fun index => daysInMonth date.year (index + 1)
  years * 365 + years / 4 - years / 100 + years / 400 + months.foldl (· + ·) 0 + date.day

end Date

namespace Moment

/-- A valid day, a time of day without leap second, and a distance below one day. -/
def isValid (moment : Moment) : Bool :=
  moment.date.isValid && moment.hour < 24 && moment.minute < 60 && moment.second < 60 &&
    moment.microsecond < 1000000 &&
    match moment.ahead with
    | none => true
    | some minutes => -1440 < minutes && minutes < 1440

/-- Microseconds on the moment's own clock. -/
def localTime (moment : Moment) : Int :=
  let minutes := (moment.date.ordinal * 24 + moment.hour) * 60 + moment.minute
  ((minutes * 60 + moment.second) * 1000000 + moment.microsecond : Nat)

/-- Microseconds of universal time; a moment without distance is taken as it is. -/
def universalTime (moment : Moment) : Int :=
  moment.localTime - moment.ahead.getD 0 * 60000000

end Moment

private def padded (width value : Nat) : List Char :=
  let digits := Nat.toDigits 10 value
  List.replicate (width - digits.length) '0' ++ digits

/-- Year, month and day joined by hyphens. -/
def Date.write (date : Date) : List Char :=
  padded 4 date.year ++ '-' :: padded 2 date.month ++ '-' :: padded 2 date.day

/-- Day and time with a separator between them; fractions and the distance only where there are
any. -/
def Moment.write (separator : Char) (moment : Moment) : List Char :=
  let time := padded 2 moment.hour ++ ':' :: padded 2 moment.minute ++ ':' :: padded 2 moment.second
  let fraction := if moment.microsecond = 0 then [] else '.' :: padded 6 moment.microsecond
  let distance := match moment.ahead with
    | none => []
    | some minutes =>
      (if minutes < 0 then '-' else '+') :: padded 2 (minutes.natAbs / 60) ++
        ':' :: padded 2 (minutes.natAbs % 60)
  moment.date.write ++ separator :: time ++ fraction ++ distance

/-- Day and time in digits alone, to the second, as file names bear them. -/
def Moment.stamp (moment : Moment) : String :=
  let day := padded 4 moment.date.year ++ padded 2 moment.date.month ++ padded 2 moment.date.day
  let time := padded 2 moment.hour ++ padded 2 moment.minute ++ padded 2 moment.second
  String.ofList (day ++ '-' :: time)

end ApiCompiler.Calendar
