import WorkspaceTools.Text.Digit
import WorkspaceTools.Text.Quoted
import WorkspaceTools.Time.DateTime

/-!
# Reading ISO 8601

* `DateTime.readIso` reads a date, in calendar or week form and with or without hyphens, and after
  any one character a time of day: hours, minutes and seconds with or without colons, a fraction
  after a point or a comma, and an offset. Digits of a fraction beyond the sixth are passed over. One
  octet of any kind may stand between the time and its offset.

Places in a text are counted in the octets of its UTF-8 form, as `octets` lays it out. A null character
ends a time of day wherever the end of the text would. `IsoFault` says why a text denotes no point in
time.
-/

namespace WorkspaceTools.Time

open Text

/-- A text with each character as often as it has octets in UTF-8. The characters with a meaning in a
date have one octet each, so only the places of the others matter. -/
def octets (s : String) : List Char :=
  s.toList.flatMap fun c => List.replicate c.utf8Size c

/-- Whether nothing but what a null character hides follows. -/
def endsHere : List Char → Bool
  | [] => true
  | c :: _ => c == '\x00'

/-- The number of a given count of digits at the head of a text, and the rest. -/
def takeNumber? (count : Nat) (cs : List Char) : Option (Nat × List Char) :=
  let ds := cs.take count
  if ds.length = count ∧ ds.all isAsciiDigit then some (natOfDigits ds, cs.drop count) else none

/-- The count of octets before the one that separates date and time. -/
def dateLength (cs : List Char) : Nat :=
  if cs.length = 7 then 7
  else if cs[4]? == some '-' then
    if cs[5]? == some 'W' then
      if cs[8]? == some '-' then
        if cs.length = 9 then 9
        else if (cs[10]?.map isAsciiDigit).getD false then 8
        else 10
      else 8
    else 10
  else if cs[4]? == some 'W' then
    let digits := (cs.drop 7).takeWhile isAsciiDigit
    let stop := 7 + digits.length
    if stop < 9 then stop else if stop % 2 = 0 then 7 else 8
  else 8

/-- A date in week form after its `W`. -/
def weekDate? (hyphens : Bool) (year : Nat) (cs : List Char) : Option Date := do
  let (week, rest) ← takeNumber? 2 cs
  match rest with
  | [] => ofWeekDate? year week 1
  | rest =>
    let rest ← if hyphens then (match rest with | '-' :: r => some r | _ => none) else some rest
    let (day, _) ← takeNumber? 1 rest
    ofWeekDate? year week day

/-- A date with nothing after it. -/
def isoDate? (cs : List Char) : Option Date := do
  let (year, rest) ← takeNumber? 4 cs
  let (hyphens, rest) := match rest with
    | '-' :: r => (true, r)
    | r => (false, r)
  match rest with
  | 'W' :: rest => weekDate? hyphens year rest
  | rest =>
    let (month, rest) ← takeNumber? 2 rest
    let rest ← if hyphens then (match rest with | '-' :: r => some r | _ => none) else some rest
    let (day, _) ← takeNumber? 2 rest
    some ⟨year, month, day⟩

/-- Hours, minutes, seconds and microseconds, and whether octets were left over. -/
structure ClockFields where
  hour : Nat
  minute : Nat
  second : Nat
  microsecond : Nat
  leftOver : Bool

/-- A fraction of a second: up to six digits, and further ones without effect. -/
def fraction? (cs : List Char) : Option (Nat × Bool) :=
  let ds := cs.take 6
  if ds.all isAsciiDigit then
    some (natOfDigits ds * Number.tenTo (6 - ds.length), !endsHere ((cs.drop 6).dropWhile isAsciiDigit))
  else none

/-- The fields of a time of day from the next one on; `read` holds the earlier ones, last first, and
`missing` counts the later ones. A single octet at the end is left over. -/
def clockFields? : (missing : Nat) → (colons : Bool) → (read : List Nat) → List Char →
    Option ClockFields
  | missing, colons, read, cs =>
    match takeNumber? 2 cs with
    | none => none
    | some (n, rest) =>
      let read := read ++ [n]
      let fields (micros : Nat) (leftOver : Bool) : ClockFields :=
        ⟨read.getD 0 0, read.getD 1 0, read.getD 2 0, micros, leftOver⟩
      match rest with
      | [] => some (fields 0 false)
      | [c] => some (fields 0 (c != '\x00'))
      | c :: more =>
        let colons := if read.length = 1 then c == ':' else colons
        let finish (cs : List Char) := (fraction? cs).map fun (micros, left) => fields micros left
        if c == '.' || c == ',' then finish more
        else
          let next := if colons then (if c == ':' then some more else none) else some (c :: more)
          match next, missing with
          | none, _ => none
          | some cs, 0 => finish cs
          | some cs, missing + 1 => clockFields? missing colons read cs

/-- The marks that begin an offset. -/
def beginsOffset (c : Char) : Bool := c == '+' || c == '-' || c == 'Z'

/-- A time of day and its offset. -/
def isoClock? (cs : List Char) : Option (ClockFields × Option Int) := do
  let before := cs.takeWhile (!beginsOffset ·)
  let fields ← clockFields? 2 true [] before
  match cs.dropWhile (!beginsOffset ·) with
  | [] => if fields.leftOver then none else some (fields, none)
  | 'Z' :: rest => if endsHere rest then some (fields, some 0) else none
  | sign :: rest =>
    let zone ← clockFields? 2 true [] rest
    if zone.leftOver then none
    else
      let seconds := zone.hour * 3600 + zone.minute * 60 + zone.second
      let micros : Int := if seconds = 0 then 0 else (seconds * 1000000 + zone.microsecond : Nat)
      some (fields, some (if sign == '-' then -micros else micros))

/-- The point in time that a text writes, its fields in bounds or not. -/
def isoFields? (s : String) : Option DateTime := do
  if s.length < 7 then none
  else
    let cs := octets s
    let n := dateLength cs
    let date ← isoDate? (cs.take n)
    let (fields, offset) ← match cs.drop n with
      | [] => some (⟨0, 0, 0, 0, false⟩, none)
      | c :: rest => isoClock? (rest.drop (c.utf8Size - 1))
    some ⟨date, fields.hour, fields.minute, fields.second, fields.microsecond, offset⟩

/-- Why a text is not a point in time. -/
inductive IsoFault where
  | unreadable (text : String)
  | field (fault : FieldFault)
  deriving DecidableEq, Inhabited

/-- The wording of a fault. -/
def IsoFault.message : IsoFault → String
  | .unreadable text => "Invalid isoformat string: " ++ quoted text
  | .field fault => fault.message

/-- The point in time that a text writes, every field in bounds. -/
def DateTime.readIso (s : String) : Except IsoFault DateTime :=
  match isoFields? s with
  | none => .error (.unreadable s)
  | some t =>
    match t.fieldFault? with
    | none => .ok t
    | some fault => .error (.field fault)

/-- The point in time that a text denotes, if it denotes one. -/
def DateTime.ofIsoText? (s : String) : Option DateTime := (DateTime.readIso s).toOption

end WorkspaceTools.Time
