import WorkspaceTools.Check.Issue
import WorkspaceTools.Json.Reader
import WorkspaceTools.Text.Blank
import WorkspaceTools.Text.LowerCase

/-!
# Checks of single values

* `checkText`, `checkInt`, `checkFloat`, `checkBool`, `checkName` and `checkList` take a document
  for a value of their type. Numerals in texts count as numbers, whole floats as integers and
  truth values as 0 and 1; a text is never made from anything else.
* `checkExactScalar` takes only texts and numbers, and leaves them as they are.
* `required`, `optional` and `noOthers` check the members of an object.
-/

namespace WorkspaceTools

open Number Text

/-! ## Numerals -/

/-- A sign in front of a numeral, and the rest. -/
def splitSign (cs : List Char) : Bool × List Char :=
  match cs with
  | '-' :: rest => (true, rest)
  | '+' :: rest => (false, rest)
  | rest => (false, rest)

/-- A text without its underscores, of which none stands at an end or beside another. -/
def dropUnderscores? (cs : List Char) : Option (List Char) :=
  let pairs := cs.zip (cs.drop 1)
  if cs.head? == some '_' || cs.getLast? == some '_' || !cs.contains '_'
      || pairs.contains ('_', '_') then none
  else some (cs.filter (· != '_'))

/-- The integer of a numeral in the narrowest form: a minus sign or none, and digits, with a zero at
their head only as the one digit. -/
def plainInt (cs : List Char) : Except IssueCause Int :=
  let (negative, digits) := match cs with
    | '-' :: rest => (true, rest)
    | rest => (false, rest)
  let run := digits.takeWhile isAsciiDigit
  let beginsPlainly := !run.isEmpty && (run.head? != some '0' || digits.length == 1)
  if !beginsPlainly then .error .intUnreadable
  else if maxIntDigits < run.length then .error .intTooLong
  else if run.length < digits.length then .error .intUnreadable
  else
    let n : Int := natOfDigits run
    .ok (if negative then -n else n)

/-- What follows the zeros, and underscores among them, at the head of a numeral. One zero stays before
a point, and the last character of all. -/
def afterZeros? : (last : Char) → List Char → Option (List Char)
  | last, [] => some [last]
  | last, c :: rest =>
    if c == '0' || c == '_' then afterZeros? c rest
    else if isAsciiDigit c || c == '-' then some (c :: rest)
    else if c == '.' then some (last :: c :: rest)
    else none

/-- A numeral without the zeros at its head; what begins with no digit and no minus sign is none. -/
def dropZeros? : List Char → Option (List Char)
  | '0' :: rest => afterZeros? '0' rest
  | c :: rest => if isAsciiDigit c || c == '-' then some (c :: rest) else none
  | [] => none

/-- A numeral without a point that only zeros follow, at least one of them. -/
def dropZeroFraction (cs : List Char) : List Char :=
  let zeros := (cs.dropWhile (· != '.')).drop 1
  if !zeros.isEmpty && zeros.all (· == '0') then cs.takeWhile (· != '.') else cs

/-- A numeral in the narrowest form, from one with blanks around it, a plus sign, zeros at its head, a
fraction of zeros or underscores between its digits. -/
def narrowNumeral? (cs : List Char) : Option (List Char) := do
  let cs := trimBy isSpace cs
  let cs ← match cs with
    | '+' :: '-' :: _ => none
    | '+' :: rest => some rest
    | rest => some rest
  let cs := dropZeroFraction (← dropZeros? cs)
  some ((dropUnderscores? cs).getD cs)

/-- The integer of a numeral. -/
def intOfNumeral (cs : List Char) : Except IssueCause Int :=
  match plainInt cs with
  | .error .intUnreadable =>
    match narrowNumeral? cs with
    | some narrow => plainInt narrow
    | none => .error .intUnreadable
  | answer => answer

/-- The number of a numeral without underscores: digits with or without a point, and an exponent;
or the name of an infinity or of what is no number. -/
def floatOfPlainNumeral? (cs : List Char) : Option Binary64 :=
  let (negative, cs) := splitSign cs
  let name := lowerCase (String.ofList cs)
  if name = "inf" || name = "infinity" then some (.infinite negative)
  else if name = "nan" then some .nan
  else
    let whole := cs.takeWhile isAsciiDigit
    let rest := cs.dropWhile isAsciiDigit
    let (fraction, rest) := match rest with
      | '.' :: more => (more.takeWhile isAsciiDigit, more.dropWhile isAsciiDigit)
      | rest => ([], rest)
    let digits := whole ++ fraction
    if digits.isEmpty then none
    else
      let number (e : Int) : Binary64 := .ofDecimal negative (natOfDigits digits) (e - fraction.length)
      match rest with
      | [] => some (number 0)
      | rest =>
        match Json.splitExponent rest with
        | some (e, []) => some (number e)
        | _ => none

/-- The number of a numeral, with blanks around it or with underscores in it. -/
def floatOfNumeral? (cs : List Char) : Option Binary64 :=
  match floatOfPlainNumeral? (trimBy isSpace cs) with
  | some x => some x
  | none => (dropUnderscores? cs).bind floatOfPlainNumeral?

/-! ## Values -/

/-- A text. -/
def checkText : Json → Checked String
  | .str s => .ok s
  | _ => issueHere .notText

/-- A text of at least one character. -/
def checkNonemptyText (v : Json) : Checked String :=
  (checkText v).ensure (· != "") (.textTooShort 1)

/-- An integer. -/
def checkInt : Json → Checked Int
  | .int i => .ok i
  | .bool b => .ok (if b then 1 else 0)
  | .float x =>
    if !x.isFinite then issueHere .notFinite
    else match x.toInt? with
      | none => issueHere .intFromFraction
      | some i => if -(wordBound : Int) < i ∧ i < wordBound then .ok i else issueHere .intTooLong
  | .str s =>
    match intOfNumeral s.toList with
    | .ok i => .ok i
    | .error cause => issueHere cause
  | _ => issueHere .notInt

/-- An integer that is not less than a bound. -/
def checkIntFrom (bound : Int) (v : Json) : Checked Int :=
  (checkInt v).ensure (fun i => bound ≤ i) (.lessThan bound)

/-- An integer above a bound. -/
def checkIntAbove (bound : Int) (v : Json) : Checked Int :=
  (checkInt v).ensure (fun i => bound < i) (.notGreaterThan bound)

/-- A number. -/
def checkFloat : Json → Checked Binary64
  | .float x => .ok x
  | .int i =>
    let x := Binary64.ofInt i
    if x.isFinite then .ok x else issueHere .notFloat
  | .bool b => .ok (.ofInt (if b then 1 else 0))
  | .str s =>
    match floatOfNumeral? s.toList with
    | some x => .ok x
    | none => issueHere .floatUnreadable
  | _ => issueHere .notFloat

/-- A number above zero. -/
def checkPositiveFloat (v : Json) : Checked Binary64 :=
  (checkFloat v).ensure (·.isPositive) (.notGreaterThan 0)

/-- The truth value that a text names. -/
def boolOfName? (s : String) : Option Bool :=
  let name := lowerCase s
  if ["1", "t", "true", "y", "yes", "on"].contains name then some true
  else if ["0", "f", "false", "n", "no", "off"].contains name then some false
  else none

/-- The truth value of an integer of 64 bits. -/
def boolOfInt (i : Int) : Checked Bool :=
  if i = 0 then .ok false else if i = 1 then .ok true else issueHere .boolUnreadable

/-- A truth value. Numbers beyond 64 bits and fractions are not even candidates. -/
def checkBool : Json → Checked Bool
  | .bool b => .ok b
  | .int i => if -(wordBound : Int) ≤ i ∧ i < wordBound then boolOfInt i else issueHere .notBool
  | .float x =>
    match x.toInt? with
    | some i => if -(wordBound : Int) < i ∧ i < wordBound then boolOfInt i else issueHere .notBool
    | none => issueHere .notBool
  | .str s =>
    match boolOfName? s with
    | some b => .ok b
    | none => issueHere .boolUnreadable
  | _ => issueHere .notBool

/-- A member of an enumeration, by its name. -/
def checkName {α : Type} (members : List α) (name : α → String) (v : Json) : Checked α :=
  match members.find? fun a => v.isText (name a) with
  | some a => .ok a
  | none => issueHere (.notMember (members.map name))

/-- The items of a list from a place on. -/
def checkItems {α : Type} (check : Json → Checked α) : (index : Nat) → List Json → Checked (List α)
  | _, [] => .ok []
  | index, v :: rest =>
    match (check v).under (.item index), checkItems check (index + 1) rest with
    | .ok a, .ok more => .ok (a :: more)
    | first, more => .error (first.issues ++ more.issues)

/-- A list. -/
def checkList {α : Type} (check : Json → Checked α) : Json → Checked (List α)
  | .arr vs => checkItems check 0 vs
  | _ => issueHere .notList

/-- A list of at least one item. -/
def checkNonemptyList {α : Type} (check : Json → Checked α) (v : Json) : Checked (List α) :=
  (checkList check v).ensure (!·.isEmpty) (.listTooShort 1 0)

/-- Null, or a checked value. -/
def checkNullable {α : Type} (check : Json → Checked α) : Json → Checked (Option α)
  | .null => .ok none
  | v => (check v).map some

/-! ## Scalars -/

/-- A text or a number. -/
inductive Scalar where
  | text (s : String)
  | int (i : Int)
  | float (x : Binary64)
  deriving DecidableEq, Inhabited

/-- A scalar as a document. -/
def Scalar.toJson : Scalar → Json
  | .text s => .str s
  | .int i => .int i
  | .float x => .float x

/-- A text or a number as it is; truth values are neither. -/
def checkExactScalar : Json → Checked Scalar
  | .str s => .ok (.text s)
  | .int i => .ok (.int i)
  | .float x => .ok (.float x)
  | _ => .error [⟨[.member "str"], .notText⟩, ⟨[.member "int"], .notInt⟩,
      ⟨[.member "float"], .notFloat⟩]

/-! ## Objects -/

/-- The members of an object that is to be a model. -/
def checkObject {α : Type} (model : String) (check : Members → Checked α) : Json → Checked α
  | .obj ms => check ms
  | _ => issueHere (.notModel model)

/-- A member that must be there. -/
def required {α : Type} (name : String) (check : Json → Checked α) (ms : Members) : Checked α :=
  match ms.find? name with
  | some v => (check v).under (.member name)
  | none => .error [⟨[.member name], .missing⟩]

/-- A member that has a default. -/
def optional {α : Type} (name : String) (default : α) (check : Json → Checked α) (ms : Members) :
    Checked α :=
  match ms.find? name with
  | some v => (check v).under (.member name)
  | none => .ok default

/-- No members but those of the given names. -/
def noOthers (names : List String) (ms : Members) : Checked Unit :=
  match ms.filter fun m => !names.contains m.1 with
  | [] => .ok ()
  | others => .error (others.map fun m => ⟨[.member m.1], .extraForbidden⟩)

end WorkspaceTools
