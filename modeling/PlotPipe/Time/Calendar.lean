import PlotPipe.Number.Spelling
/-!
# Time — the calendar

Dates of the Gregorian calendar, extended to all years, and their count
in days from the first of January 1970. Counting goes through the number
of days before a year and before a month; the way back estimates the
year from the mean length of a year and corrects the estimate.
-/

namespace PlotPipe

/-- A date of the calendar. -/
structure Date where
  year : Int
  month : Nat
  day : Nat
  deriving DecidableEq

namespace Date

/-- A year with a day more in February. -/
def isLeapYear (year : Int) : Bool :=
  year % 4 = 0 && (year % 100 ≠ 0 || year % 400 = 0)

/-- The days of the year before each month of a common year. -/
def daysBeforeMonths : List Nat := [0, 31, 59, 90, 120, 151, 181, 212, 243, 273, 304, 334]

/-- The days of the year before a month. -/
def daysBeforeMonth (leap : Bool) (month : Nat) : Nat :=
  (daysBeforeMonths[month - 1]?).getD 0 + (if leap && 2 < month then 1 else 0)

/-- The days from the first of January of the year one to the first of
January of a year. -/
def daysBeforeYear (year : Int) : Int :=
  let y := year - 1
  365 * y + y / 4 - y / 100 + y / 400

/-- The days from the first of January 1970 to a date. -/
def epochDays (d : Date) : Int :=
  daysBeforeYear d.year - daysBeforeYear 1970 + daysBeforeMonth (isLeapYear d.year) d.month
    + (d.day : Int) - 1

/-- The month that holds a day of the year, counted from zero, and the
day of that month. -/
def monthOfDay (leap : Bool) (day : Nat) : Nat × Nat :=
  let month := ((List.range 12).filter fun m => daysBeforeMonth leap (m + 1) ≤ day).length
  (month, day - daysBeforeMonth leap month + 1)

/-- The year that holds a day, counted from the first of January 1970. -/
def yearOfDays (days : Int) : Int :=
  let n := days + daysBeforeYear 1970
  let guess := n * 400 / 146097 + 1
  if n < daysBeforeYear guess then guess - 1
  else if daysBeforeYear (guess + 1) ≤ n then guess + 1
  else guess

/-- The date a number of days after the first of January 1970. -/
def ofEpochDays (days : Int) : Date :=
  let year := yearOfDays days
  let (month, day) :=
    monthOfDay (isLeapYear year) (days + daysBeforeYear 1970 - daysBeforeYear year).toNat
  ⟨year, month, day⟩

/-- A year of at least four digits. -/
def yearText (year : Int) : String :=
  (if year < 0 then "-" else "")
    ++ String.ofList (paddedDigits (if year < 0 then 3 else 4) year.natAbs)

/-- A date as year, month and day. -/
def text (d : Date) : String :=
  "-".intercalate
    [yearText d.year, String.ofList (paddedDigits 2 d.month), String.ofList (paddedDigits 2 d.day)]

end Date

end PlotPipe
