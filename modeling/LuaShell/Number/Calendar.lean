/-!
# Calendar

Days of the calendar that is in use today, counted from the beginning of 1970, and
times of day.  Years are taken to begin in March, so that the day that is left out in
most years is the last one.
-/

namespace LuaShell

/-- A moment, taken apart. -/
structure Moment where
  year : Int
  /-- One for January. -/
  month : Int
  day : Int
  hour : Int
  minute : Int
  second : Int
  deriving DecidableEq

namespace Calendar

/-- How many days of 1970 and later go before a day; `month` is one to twelve. -/
def dayNumber (year month day : Int) : Int :=
  let y := if month ≤ 2 then year - 1 else year
  let era := y / 400
  let yoe := y % 400
  let m := if month ≤ 2 then month + 9 else month - 3
  let doy := (153 * m + 2) / 5 + day - 1
  let doe := yoe * 365 + yoe / 4 - yoe / 100 + doy
  era * 146097 + doe - 719468

/-- The year, month and day of a number of days. -/
def ofDayNumber (n : Int) : Int × Int × Int :=
  let z := n + 719468
  let era := z / 146097
  let doe := z % 146097
  let yoe := (doe - doe / 1460 + doe / 36524 - doe / 146096) / 365
  let doy := doe - (365 * yoe + yoe / 4 - yoe / 100)
  let m := (5 * doy + 2) / 153
  let day := doy - (153 * m + 2) / 5 + 1
  let month := if m < 10 then m + 3 else m - 9
  (yoe + era * 400 + (if month ≤ 2 then 1 else 0), month, day)

/-- The seconds from the beginning of 1970 to a moment, whose parts may be out of their
bounds. -/
def seconds (t : Moment) : Int :=
  let months := t.year * 12 + (t.month - 1)
  let days := dayNumber (months / 12) (months % 12 + 1) 1 + (t.day - 1)
  ((days * 24 + t.hour) * 60 + t.minute) * 60 + t.second

/-- The moment of a number of seconds. -/
def ofSeconds (n : Int) : Moment :=
  let (year, month, day) := ofDayNumber (n / 86400)
  let s := n % 86400
  ⟨year, month, day, s / 3600, s / 60 % 60, s % 60⟩

/-- The day of the week; zero for Sunday. -/
def weekday (t : Moment) : Int :=
  (dayNumber t.year t.month t.day + 4) % 7

/-- The day of the year, counted from zero. -/
def yearDay (t : Moment) : Int :=
  dayNumber t.year t.month t.day - dayNumber t.year 1 1

end Calendar

end LuaShell
