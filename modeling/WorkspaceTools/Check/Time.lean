import WorkspaceTools.Check.Field
import WorkspaceTools.Text.Utf8
import WorkspaceTools.Time.IsoText

/-!
# Checks of points in time

* `checkTime` takes a document for a point in time. Numbers, and texts of digits, count the seconds
  from 1970 in universal time, or the milliseconds beyond 2·10^10. Other texts are a date with
  hyphens, or such a date and a time of day with colons, with at most one offset after it.
* `CountFault` says why a count is not a point in time.
* A text that is neither is reported by what is wrong with it as a date: `dateFault?`.
-/

namespace WorkspaceTools

open Number Text Time

/-! ## Counts of seconds -/

/-- The microseconds from the beginning of year 1 to that of 1970. -/
def unixEpoch : Int := 719162 * dayMicros

/-- Counts beyond this one are milliseconds. -/
def secondsBound : Nat := 20000000000

/-- The least count of seconds: the beginning of year 0. -/
def leastSeconds : Int := -62167219200

/-- The greatest count of seconds: the end of year 9999. -/
def greatestSeconds : Int := 253402300799

/-- Why a count is not a point in time. -/
inductive CountFault where
  | tooEarly
  | tooLate
  /-- A count that falls into year 0. -/
  | yearZero
  | notNumber
  deriving DecidableEq, Inhabited

/-- A count's fault in words. -/
def CountFault.message : CountFault → String
  | .tooEarly => "dates before 0000 are not supported as unix timestamps"
  | .tooLate => "dates after 9999 are not supported as unix timestamps"
  | .yearZero => "year 0 is out of range"
  | .notNumber => "NaN values not permitted"

/-- The point in universal time of a count of microseconds. -/
def ofUnixMicros (micros : Int) : Except CountFault DateTime :=
  let seconds := Int.fdiv micros secondMicros
  if seconds < leastSeconds then .error .tooEarly
  else if greatestSeconds < seconds then .error .tooLate
  else
    match DateTime.ofInstant? (unixEpoch + micros) with
    | some t => .ok t
    | none => .error .yearZero

/-- The point in time of an integer. -/
def ofUnixInt (count : Int) : Except CountFault DateTime :=
  ofUnixMicros (count * if secondsBound < count.natAbs then 1000 else secondMicros)

/-- A ratio below one in units of which `scale` are one, to the nearest, a half going up. The ratio
and its multiple are rounded to double precision first. -/
def fineUnits (num den scale : Nat) : Nat :=
  match (Binary64.ofRatio false num den).mulNat scale with
  | .finite _ m e =>
    let (n, d) := Binary64.ratio m e
    (2 * n + d) / (2 * d)
  | _ => 0

/-- The point in time of a number. What lies above its whole part counts to the microsecond. -/
def ofUnixFloat : Binary64 → Except CountFault DateTime
  | .nan => .error .notNumber
  | .infinite negative => .error (if negative then .tooEarly else .tooLate)
  | .finite negative m e =>
    let (size, den) := Binary64.ratio m e
    let scale := if secondsBound * den < size then 1000 else 1000000
    let num : Int := if negative then -size else size
    let above := fineUnits (Int.fmod num den).toNat den scale
    ofUnixMicros (Int.fdiv num den * scale + above)

/-! ## Dates and times as texts -/

/-- Two digits at the head of a text, and the rest. -/
def twoDigits? (cs : List Char) : Option (Nat × List Char) := takeNumber? 2 cs

/-- What is wrong with the first ten characters as a date, or the date and the rest. -/
def leadingDate (cs : List Char) : Except String (Date × List Char) :=
  if (encodeUtf8Chars cs).length < 10 then .error "input is too short"
  else
    match takeNumber? 4 cs with
    | none => .error "invalid character in year"
    | some (year, '-' :: rest) =>
      match twoDigits? rest with
      | none => .error "invalid character in month"
      | some (month, '-' :: rest) =>
        match twoDigits? rest with
        | none => .error "invalid character in day"
        | some (day, rest) =>
          if month < 1 ∨ 12 < month then .error "month value is outside expected range of 1-12"
          else if day < 1 ∨ daysInMonth year month < day then
            .error "day value is outside expected range"
          else .ok (⟨year, month, day⟩, rest)
      | some _ => .error "invalid date separator, expected \x60-\x60"
    | some _ => .error "invalid date separator, expected \x60-\x60"

/-- A fraction after its mark: at least one digit, of which six count. -/
def strictFraction? (cs : List Char) : Option (Nat × List Char) :=
  let ds := cs.takeWhile isAsciiDigit
  if ds.isEmpty then none
  else
    let six := ds.take 6
    some (natOfDigits six * tenTo (6 - six.length), cs.dropWhile isAsciiDigit)

/-- Seconds after a second colon, and a fraction; without the colon there are none. -/
def strictSeconds? (cs : List Char) : Option (Nat × Nat × List Char) :=
  match cs with
  | ':' :: rest =>
    match twoDigits? rest with
    | none => none
    | some (second, rest) =>
      if 59 < second then none
      else
        match rest with
        | c :: more =>
          if c == '.' || c == ',' then (strictFraction? more).map fun (micros, r) => (second, micros, r)
          else some (second, 0, rest)
        | [] => some (second, 0, [])
  | rest => some (0, 0, rest)

/-- Hours and minutes of an offset, with or without a colon, as microseconds. -/
def offsetMicros? (cs : List Char) : Option Int :=
  match twoDigits? cs with
  | none => none
  | some (hours, rest) =>
    let rest := match rest with
      | ':' :: r => r
      | r => r
    match twoDigits? rest with
    | some (minutes, []) =>
      if minutes < 60 ∧ hours < 24 then some (((hours * 60 + minutes) * 60 : Nat) * secondMicros)
      else none
    | _ => none

/-- An offset, or nothing. -/
def strictOffset? (cs : List Char) : Option (Option Int) :=
  match cs with
  | [] => some none
  | ['Z'] => some (some 0)
  | ['z'] => some (some 0)
  | '+' :: rest => (offsetMicros? rest).map some
  | '-' :: rest => (offsetMicros? rest).map fun o => some (-o)
  | '\u2212' :: rest => (offsetMicros? rest).map fun o => some (-o)
  | _ => none

/-- A date, a separator and a time of day. -/
def strictTime? (cs : List Char) : Option DateTime :=
  match leadingDate cs with
  | .error _ => none
  | .ok (date, mark :: rest) =>
    if !(List.contains ['T', 't', ' ', '_'] mark) then none
    else do
      let (hour, rest) ← twoDigits? rest
      let rest ← match rest with
        | ':' :: r => some r
        | _ => none
      let (minute, rest) ← twoDigits? rest
      let (second, micros, rest) ← strictSeconds? rest
      let offset ← strictOffset? rest
      if hour < 24 ∧ minute < 60 then some ⟨date, hour, minute, second, micros, offset⟩ else none
  | .ok (_, []) => none

/-- A text of digits with a sign; or one with a point after the digits, of which there may be none,
and a fraction and an exponent. -/
def unixNumeral? (cs : List Char) : Option (Int ⊕ Binary64) :=
  let (negative, digits) := splitSign cs
  let whole := digits.takeWhile isAsciiDigit
  let n := natOfDigits whole
  if wordBound ≤ n then none
  else
    match digits.dropWhile isAsciiDigit with
    | [] => if whole.isEmpty then none else some (.inl (if negative then -(n : Int) else n))
    | '.' :: _ => (floatOfPlainNumeral? cs).map .inr
    | _ => none

/-- What is wrong with a text as a date and nothing else. -/
def dateFault? (cs : List Char) : Except String Date :=
  match leadingDate cs with
  | .error reason => .error reason
  | .ok (date, []) => .ok date
  | .ok (_, _) => .error "unexpected extra characters at the end of the input"

/-- A year that a point in time can have: the years begin with 1. -/
def inYears (t : DateTime) : Checked DateTime :=
  if t.date.year = 0 then issueHere (.timeUnreadable CountFault.yearZero.message) else .ok t

/-- A point in time as a text: a date and a time, digits alone, or a date alone. A count of digits out
of bounds is no date either, and a number with a point out of bounds is looked at as a date. -/
def timeOfText (cs : List Char) : Checked DateTime :=
  match strictTime? cs with
  | some t => inYears t
  | none =>
    match unixNumeral? cs with
    | some (.inl n) =>
      match ofUnixInt n with
      | .ok t => .ok t
      | .error .yearZero => issueHere (.timeUnreadable CountFault.yearZero.message)
      | .error fault => issueHere (.dateUnreadable fault.message)
    | some (.inr x) =>
      match ofUnixFloat x with
      | .ok t => .ok t
      | .error .yearZero => issueHere (.timeUnreadable CountFault.yearZero.message)
      | .error _ => dateAlone cs
    | none => dateAlone cs
where
  /-- A date alone. -/
  dateAlone (cs : List Char) : Checked DateTime :=
    match dateFault? cs with
    | .ok date => inYears ⟨date, 0, 0, 0, 0, none⟩
    | .error reason => issueHere (.dateUnreadable reason)

/-- A point in time. An integer beyond 64 bits counts as the number nearest to it. -/
def checkTime : Json → Checked DateTime
  | .str s => timeOfText s.toList
  | .int i =>
    if -(wordBound : Int) ≤ i ∧ i < wordBound then number (ofUnixInt i)
    else
      let x := Binary64.ofInt i
      if x.isFinite then number (ofUnixFloat x) else issueHere .notTime
  | .float x => number (ofUnixFloat x)
  | _ => issueHere .notTime
where
  /-- A number out of bounds. -/
  number (r : Except CountFault DateTime) : Checked DateTime :=
    match r with
    | .ok t => .ok t
    | .error fault => issueHere (.timeUnreadable fault.message)

end WorkspaceTools
