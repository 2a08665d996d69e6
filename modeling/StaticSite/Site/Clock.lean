/-!
Contract: times of compilation.

Owns:
- calendar dates, clock times with an offset from UTC, and times in UTC;
- conversion to UTC, which fails outside the years one to 9999 and drops fractions of
  a second;
- the text of a time in UTC.

Does not own: reading the clock.
-/

namespace StaticSite.Site

/-- A date of the Gregorian calendar. -/
structure Date where
  year : Nat
  month : Nat
  day : Nat
  deriving DecidableEq

def isLeapYear (year : Nat) : Bool :=
  year % 4 == 0 && (year % 100 != 0 || year % 400 == 0)

def daysInMonth (year month : Nat) : Nat :=
  if month == 2 then (if isLeapYear year then 29 else 28)
  else if month == 4 || month == 6 || month == 9 || month == 11 then 30
  else 31

def lastYear : Nat := 9999

def Date.next? (date : Date) : Option Date :=
  if date.day < daysInMonth date.year date.month then
    some { date with day := date.day + 1 }
  else if date.month < 12 then
    some ⟨date.year, date.month + 1, 1⟩
  else if date.year < lastYear then
    some ⟨date.year + 1, 1, 1⟩
  else
    none

def Date.previous? (date : Date) : Option Date :=
  if 1 < date.day then
    some { date with day := date.day - 1 }
  else if 1 < date.month then
    some ⟨date.year, date.month - 1, daysInMonth date.year (date.month - 1)⟩
  else if 1 < date.year then
    some ⟨date.year - 1, 12, 31⟩
  else
    none

/-- A date and a time of day, ahead of UTC by an offset of less than a day.  The
time goes on to `fraction` microseconds after the second, and the offset to
`offsetFraction` microseconds after `offset` minutes. -/
structure ZonedTime where
  date : Date
  hour : Nat
  minute : Nat
  second : Nat
  offset : Int
  fraction : Nat := 0
  offsetFraction : Nat := 0

/-- A date and a time of day in UTC. -/
structure UtcTime where
  date : Date
  hour : Nat
  minute : Nat
  second : Nat
  deriving DecidableEq

def secondLength : Nat := 1000000

def minuteLength : Nat := 60 * secondLength

def dayLength : Nat := 1440 * minuteLength

/-- The microseconds of a time of day that have passed on its date. -/
def ZonedTime.timeOfDay (time : ZonedTime) : Nat :=
  (60 * time.hour + time.minute) * minuteLength + time.second * secondLength + time.fraction

/-- How many microseconds a time is ahead of UTC. -/
def ZonedTime.ahead (time : ZonedTime) : Int :=
  time.offset * minuteLength + time.offsetFraction

/-- The time of day in UTC at which some microseconds of a date have passed, with
the fraction of a second dropped. -/
def UtcTime.ofTimeOfDay (date : Date) (timeOfDay : Nat) : UtcTime :=
  let seconds := timeOfDay / secondLength
  ⟨date, seconds / 3600, seconds / 60 % 60, seconds % 60⟩

/-- The same time in UTC, to the second, unless its date lies outside the calendar. -/
def ZonedTime.toUtc? (time : ZonedTime) : Option UtcTime :=
  let timeOfDay : Int := time.timeOfDay - time.ahead
  let date :=
    if timeOfDay < 0 then time.date.previous?
    else if dayLength ≤ timeOfDay then time.date.next?
    else some time.date
  date.map fun day => .ofTimeOfDay day (timeOfDay % dayLength).toNat

def twoDigits (value : Nat) : String :=
  (if value < 10 then "0" else "") ++ toString value

/-- The text of a time in UTC, to the second. -/
def UtcTime.text (time : UtcTime) : String :=
  toString time.date.year ++ "-" ++ twoDigits time.date.month ++ "-" ++
    twoDigits time.date.day ++ "T" ++ twoDigits time.hour ++ ":" ++ twoDigits time.minute ++
    ":" ++ twoDigits time.second ++ "Z"

end StaticSite.Site
