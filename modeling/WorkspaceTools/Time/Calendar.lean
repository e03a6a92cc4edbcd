/-!
# The civil calendar

* `dayNumber y m d` counts the days from 1 January of year 1, which has number 1; `Date.ofDayNumber`
  goes back.
* `weekday` counts from Monday, which is 0; `ofWeekDate?` finds the day of a week of a year whose
  first week holds the first Thursday.
-/

namespace WorkspaceTools.Time

/-- Years with a 29 February. -/
def isLeap (year : Nat) : Bool :=
  year % 4 == 0 && (year % 100 != 0 || year % 400 == 0)

/-- The days of a month; there are none in a month outside 1 to 12. -/
def daysInMonth (year month : Nat) : Nat :=
  match month with
  | 1 | 3 | 5 | 7 | 8 | 10 | 12 => 31
  | 4 | 6 | 9 | 11 => 30
  | 2 => if isLeap year then 29 else 28
  | _ => 0

/-- The days before 1 January of a year. -/
def daysBeforeYear (year : Nat) : Nat :=
  let y := year - 1
  y * 365 + y / 4 - y / 100 + y / 400

/-- The days of a year before the first of a month. -/
def daysBeforeMonth (year month : Nat) : Nat :=
  ((List.range (month - 1)).map fun m => daysInMonth year (m + 1)).foldl Nat.add 0

/-- The days from the beginning of year 1, the day itself included. -/
def dayNumber (year month day : Nat) : Nat :=
  daysBeforeYear year + daysBeforeMonth year month + day

/-- A day of the calendar. -/
structure Date where
  year : Nat
  month : Nat
  day : Nat
  deriving DecidableEq, Inhabited

/-- The month and the day of a month, from a count of days of a year. -/
def monthOfDays (year : Nat) : (months : Nat) → (month days : Nat) → Nat × Nat
  | 0, month, days => (month, days)
  | more + 1, month, days =>
    if days ≤ daysInMonth year month then (month, days)
    else monthOfDays year more (month + 1) (days - daysInMonth year month)

/-- The year of a day number: the last one that begins before it. -/
def yearOfDays (n : Nat) : Nat :=
  let guess := (n - 1) / 366 + 1
  (List.range 30).foldl (fun y _ => if daysBeforeYear (y + 1) < n then y + 1 else y) guess

/-- The day of a number. -/
def Date.ofDayNumber (n : Nat) : Date :=
  let year := yearOfDays n
  let (month, day) := monthOfDays year 12 1 (n - daysBeforeYear year)
  ⟨year, month, day⟩

/-- The last day number of year 9999. -/
def lastDayNumber : Nat := 3652059

/-- The day of the week, from Monday at 0. -/
def weekday (year month day : Nat) : Nat := (dayNumber year month day + 6) % 7

/-- The number of the Monday of a year's first week; it may lie before the first day of all. -/
def firstMonday (year : Nat) : Int :=
  let first := dayNumber year 1 1
  let day := (first + 6) % 7
  (first : Int) - day + (if 3 < day then 7 else 0)

/-- The weeks of a year: 53 where it begins on a Thursday, or on a Wednesday in a leap year. -/
def weeksInYear (year : Nat) : Nat :=
  let day := weekday year 1 1
  if day == 3 || (day == 2 && isLeap year) then 53 else 52

/-- The day of a week of a year, if week and day are in bounds. The last days may belong to the next
year. The weeks of year 0 lie before the first day of all: their days are in no month. -/
def ofWeekDate? (year week day : Nat) : Option Date :=
  if 1 ≤ week ∧ week ≤ weeksInYear year ∧ 1 ≤ day ∧ day ≤ 7 then
    if year = 0 then some ⟨1, 0, 0⟩
    else some (Date.ofDayNumber (firstMonday year + ((week - 1) * 7 + (day - 1) : Nat)).toNat)
  else none

end WorkspaceTools.Time
