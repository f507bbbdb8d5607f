/-
**Moments in universal time, by calendar date and time of day.**

An `Instant` is a valid date of the Gregorian calendar with a valid time of day. A second numbered 60 is
a leap second and may follow any minute. `compare` orders instants by date first and time of day
after; `shift?` moves a time read in some zone to universal time.
-/

namespace CrashReporter

/-- A leap year of the Gregorian calendar, which is extended to all years. -/
def isLeapYear (year : Int) : Bool :=
  year % 4 = 0 && (year % 100 ≠ 0 || year % 400 = 0)

/-- The number of days of a month. -/
def daysInMonth (year : Int) (month : Nat) : Nat :=
  if month = 2 then if isLeapYear year then 29 else 28
  else if month = 4 ∨ month = 6 ∨ month = 9 ∨ month = 11 then 30
  else 31

/-- A date in the supported range of years. -/
structure Date where
  year : Int
  month : Nat
  day : Nat
  year_range : -262143 ≤ year ∧ year ≤ 262142
  month_range : 1 ≤ month ∧ month ≤ 12
  day_range : 1 ≤ day ∧ day ≤ daysInMonth year month
  deriving DecidableEq

/-- A time of day. -/
structure TimeOfDay where
  hour : Nat
  minute : Nat
  /-- At most 60, which numbers a leap second. -/
  second : Nat
  nanosecond : Nat
  hour_range : hour < 24
  minute_range : minute < 60
  second_range : second ≤ 60
  nanosecond_range : nanosecond ≤ 999999999
  deriving DecidableEq

/-- A moment in universal time. -/
structure Instant where
  date : Date
  time : TimeOfDay
  deriving DecidableEq

namespace Date

/-- The date with the given numbers, if there is one. -/
def of? (year : Int) (month day : Nat) : Option Date :=
  if yearRange : -262143 ≤ year ∧ year ≤ 262142 then
    if monthRange : 1 ≤ month ∧ month ≤ 12 then
      if dayRange : 1 ≤ day ∧ day ≤ daysInMonth year month then
        some ⟨year, month, day, yearRange, monthRange, dayRange⟩
      else none
    else none
  else none

/-- The day before, if it is supported. -/
def previous? (date : Date) : Option Date :=
  if 1 < date.day then of? date.year date.month (date.day - 1)
  else if 1 < date.month then
    of? date.year (date.month - 1) (daysInMonth date.year (date.month - 1))
  else of? (date.year - 1) 12 31

/-- The day after, if it is supported. -/
def next? (date : Date) : Option Date :=
  if date.day < daysInMonth date.year date.month then of? date.year date.month (date.day + 1)
  else if date.month < 12 then of? date.year (date.month + 1) 1
  else of? (date.year + 1) 1 1

end Date

namespace TimeOfDay

/-- The time of day with the given numbers, if there is one. -/
def of? (hour minute second nanosecond : Nat) : Option TimeOfDay :=
  if ranges : hour < 24 ∧ minute < 60 ∧ second ≤ 60 ∧ nanosecond ≤ 999999999 then
    some ⟨hour, minute, second, nanosecond, ranges.1, ranges.2.1, ranges.2.2.1, ranges.2.2.2⟩
  else none

end TimeOfDay

namespace Instant

/-- The numbers of an instant, the most significant first. -/
def numbers (instant : Instant) : List Int :=
  [instant.date.year, instant.date.month, instant.date.day, instant.time.hour,
    instant.time.minute, instant.time.second, instant.time.nanosecond]

/-- The order in time. -/
def compare (first second : Instant) : Ordering :=
  List.compareLex Ord.compare first.numbers second.numbers

instance : Ord Instant := ⟨Instant.compare⟩

/-- The later of two instants. -/
def latest (first second : Instant) : Instant :=
  if first.compare second = .gt then first else second

/-- The instant of a local time in a zone that is `offset` minutes ahead of universal time, less
than a day either way. -/
def shift? (date : Date) (time : TimeOfDay) (offset : Int) : Option Instant := do
  let minutes := (time.hour * 60 + time.minute : Int) - offset
  let date ←
    if minutes < 0 then date.previous?
    else if 1440 ≤ minutes then date.next?
    else some date
  let minutes := (minutes % 1440).toNat
  let time ← TimeOfDay.of? (minutes / 60) (minutes % 60) time.second time.nanosecond
  pure ⟨date, time⟩

end Instant

end CrashReporter
