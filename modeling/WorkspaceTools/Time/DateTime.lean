import WorkspaceTools.Number.Binary64
import WorkspaceTools.Number.Decimal
import WorkspaceTools.Time.Calendar

/-!
# Points in time

* `DateTime` is a date and a time of day, with an offset from universal time or without one.
  `DateTime.fieldFault?` finds the first field out of bounds.
* `DateTime.instant` counts the microseconds from the beginning of year 1 in universal time; a time
  without an offset is read as universal. `DateTime.ofInstant?` goes back, within the years 1 to
  9999.
* `DateTime.isoText` writes the fields as they stand, `DateTime.documentText` with `Z` for
  universal time and offsets in minutes, `DateTime.eventText` to the minute with the name of the
  zone.
-/

namespace WorkspaceTools.Time

open Number

/-- A date and a time of day; the offset is in microseconds, east of universal time. -/
structure DateTime where
  date : Date
  hour : Nat
  minute : Nat
  second : Nat
  microsecond : Nat
  offset : Option Int
  deriving DecidableEq, Inhabited

/-- Microseconds of a second. -/
def secondMicros : Int := 1000000

/-- Microseconds of a day. -/
def dayMicros : Int := 86400 * secondMicros

/-- A span of time by its days, seconds and microseconds, of which only the days may be negative. -/
def spanText (micros : Int) : String :=
  let rest := (Int.fmod micros dayMicros).toNat
  let part (name : String) (n : Int) : List String :=
    if n = 0 then [] else [name ++ "=" ++ intText n]
  let parts := part "days" (Int.fdiv micros dayMicros) ++ part "seconds" (rest / 1000000 : Nat)
    ++ part "microseconds" (rest % 1000000 : Nat)
  "datetime.timedelta(" ++ (if parts.isEmpty then "0" else ", ".intercalate parts) ++ ")"

/-- A field of a point in time that is out of its bounds. -/
inductive FieldFault where
  | offset (micros : Int)
  | year (year : Nat)
  | month
  | day
  | hour
  | minute
  | second
  deriving DecidableEq, Inhabited

/-- The wording of a field's fault. -/
def FieldFault.message : FieldFault → String
  | .offset micros =>
    "offset must be a timedelta strictly between -timedelta(hours=24) and timedelta(hours=24), not "
      ++ spanText micros ++ "."
  | .year n => "year " ++ natText n ++ " is out of range"
  | .month => "month must be in 1..12"
  | .day => "day is out of range for month"
  | .hour => "hour must be in 0..23"
  | .minute => "minute must be in 0..59"
  | .second => "second must be in 0..59"

namespace DateTime

/-- The first field out of bounds: the offset is less than a day, the date one of the calendar, and
the rest a time of day. -/
def fieldFault? (t : DateTime) : Option FieldFault :=
  let offset := t.offset.getD 0
  let d := t.date
  if !(-dayMicros < offset && offset < dayMicros) then some (.offset offset)
  else if d.year < 1 ∨ 9999 < d.year then some (.year d.year)
  else if d.month < 1 ∨ 12 < d.month then some .month
  else if d.day < 1 ∨ daysInMonth d.year d.month < d.day then some .day
  else if 24 ≤ t.hour then some .hour
  else if 60 ≤ t.minute then some .minute
  else if 60 ≤ t.second then some .second
  else none

/-- The microseconds of the fields from the beginning of year 1, the offset left out. -/
def wallMicros (t : DateTime) : Int :=
  let days : Int := dayNumber t.date.year t.date.month t.date.day - 1
  (days * 86400 + (t.hour * 3600 + t.minute * 60 + t.second : Nat)) * secondMicros + t.microsecond

/-- The microseconds in universal time from the beginning of year 1. -/
def instant (t : DateTime) : Int := t.wallMicros - t.offset.getD 0

/-- The date and time of a count of microseconds, with the given offset, if the year is from 1 to
9999. -/
def ofWallMicros? (micros : Int) (offset : Option Int) : Option DateTime :=
  let days := Int.fdiv micros dayMicros
  if 0 ≤ days ∧ days < lastDayNumber then
    let rest := (Int.fmod micros dayMicros).toNat
    let seconds := rest / 1000000
    some ⟨Date.ofDayNumber (days.toNat + 1), seconds / 3600, seconds / 60 % 60, seconds % 60,
      rest % 1000000, offset⟩
  else none

/-- The point in universal time of an instant. -/
def ofInstant? (micros : Int) : Option DateTime := ofWallMicros? micros (some 0)

/-- The same instant in universal time. -/
def toUtc? (t : DateTime) : Option DateTime := ofInstant? t.instant

/-- The same fields, as universal time where no offset is given. -/
def assumeUtc (t : DateTime) : DateTime :=
  match t.offset with
  | none => { t with offset := some 0 }
  | some _ => t

/-! ## Texts -/

/-- The date. -/
def dateText (t : DateTime) : String :=
  paddedText 4 t.date.year ++ "-" ++ paddedText 2 t.date.month ++ "-" ++ paddedText 2 t.date.day

/-- The time of day to the second. -/
def clockText (t : DateTime) : String :=
  paddedText 2 t.hour ++ ":" ++ paddedText 2 t.minute ++ ":" ++ paddedText 2 t.second

/-- Microseconds as six digits after a point, unless there are none. -/
def microText (micros : Nat) : String :=
  if micros = 0 then "" else "." ++ paddedText 6 micros

/-- An offset with hours and minutes, and with seconds and microseconds where it has them. -/
def offsetText (offset : Int) : String :=
  let sign := if offset < 0 then "-" else "+"
  let micros := offset.natAbs
  let seconds := micros / 1000000
  let fine := micros % 1000000
  let tail :=
    if seconds % 60 = 0 ∧ fine = 0 then "" else ":" ++ paddedText 2 (seconds % 60) ++ microText fine
  sign ++ paddedText 2 (seconds / 3600) ++ ":" ++ paddedText 2 (seconds / 60 % 60) ++ tail

/-- All fields as they stand. -/
def isoText (t : DateTime) : String :=
  t.dateText ++ "T" ++ t.clockText ++ microText t.microsecond
    ++ match t.offset with
      | none => ""
      | some o => offsetText o

/-- The offset in a document: `Z` for universal time, else hours and minutes. The whole second below
the offset counts, and of its minutes those that are full. -/
def documentOffset (offset : Int) : String :=
  let seconds := Int.fdiv offset secondMicros
  if seconds = 0 then "Z"
  else
    let minutes := seconds.natAbs / 60
    (if seconds < 0 then "-" else "+") ++ paddedText 2 (minutes / 60) ++ ":"
      ++ paddedText 2 (minutes % 60)

/-- The text of a point in time in a document. -/
def documentText (t : DateTime) : String :=
  t.dateText ++ "T" ++ t.clockText ++ microText t.microsecond
    ++ match t.offset with
      | none => ""
      | some o => documentOffset o

/-- The name of a zone: none without an offset, and with one the offset from `UTC`. -/
def zoneText (t : DateTime) : String :=
  match t.offset with
  | none => ""
  | some o => if o = 0 then "UTC" else "UTC" ++ offsetText o

/-- The date with a year of as many digits as it has. -/
def shortDateText (t : DateTime) : String :=
  natText t.date.year ++ "-" ++ paddedText 2 t.date.month ++ "-" ++ paddedText 2 t.date.day

/-- The date, hours and minutes, and the name of the zone if there is one. -/
def eventText (t : DateTime) : String :=
  let zone := t.zoneText
  t.shortDateText ++ " " ++ paddedText 2 t.hour ++ ":" ++ paddedText 2 t.minute
    ++ (if zone = "" then "" else " " ++ zone)

/-- The date and the time of day as they stand, called universal time. -/
def expiryText (t : DateTime) : String := t.shortDateText ++ " " ++ t.clockText ++ " UTC"

end DateTime

end WorkspaceTools.Time
