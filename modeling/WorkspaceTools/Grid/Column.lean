import WorkspaceTools.Json.Value

/-!
# Columns of a sheet

* `columnIndex?` reads column letters: `A` is 0, `Z` is 25, `AA` is 26. A line feed may follow the
  letters, and then counts as one more digit.
* `columnLetters` writes the letters of an index.
* `resolveColumn` takes an index or letters to the index. `GridError` tells what is wrong with a
  column or a range, and carries it.
-/

namespace WorkspaceTools

open Number Text

/-- What is wrong with a column or a range. -/
inductive GridError where
  /-- Not one or more letters. -/
  | badLetters (value : Json)
  /-- Not an index. -/
  | badIndex (value : Json)
  /-- Neither an index nor letters. -/
  | badReference (value : Json)
  | negativeIndex (index : Int)
  | badRange (range : String)
  /-- A range without an end row begins after the row where such ranges end. -/
  | startsPastEnd (firstRow : Int) (range : String)
  | emptyRange (range : String)
  deriving Inhabited

/-- The column or range that an error is about. -/
def GridError.value : GridError → Json
  | .badLetters v => v
  | .badIndex v => v
  | .badReference v => v
  | .negativeIndex i => .int i
  | .badRange s => .str s
  | .startsPastEnd _ s => .str s
  | .emptyRange s => .str s

/-- The wording of an error. -/
def GridError.message : GridError → String
  | .badLetters v => "Invalid column letters: " ++ v.quoted
  | .badIndex v => "Invalid column index: " ++ v.quoted
  | .badReference v => "Invalid column reference: " ++ v.quoted
  | .negativeIndex i => "Column index must be non-negative: " ++ intText i
  | .badRange s => "Invalid range format: " ++ s
  | .startsPastEnd row s =>
    "Source range starts at row " ++ intText row
      ++ ", past row 1000 where ranges without an end row stop; give an explicit end row: " ++ s
  | .emptyRange s => "Source range has no cells (end before start): " ++ s

/-! ## Letters to index -/

/-- The value of a letter as a digit, from 1 for A to 26 for Z; other characters continue the
count on both sides. -/
def letterValue (c : Char) : Int :=
  let upper := if 'a' ≤ c && c ≤ 'z' then c.toNat - 32 else c.toNat
  (upper : Int) - 'A'.toNat + 1

/-- Letters as digits of base 26, one based. -/
def lettersValue (cs : List Char) : Int :=
  cs.foldl (fun n c => n * 26 + letterValue c) 0

/-- Without one line feed at the end. -/
def dropLineFeed (cs : List Char) : List Char :=
  if cs.getLast? == some '\n' then cs.dropLast else cs

/-- The pattern of column letters. -/
def columnPattern : String := "^[A-Za-z]+$"

/-- One or more letters, after which a line feed may follow. -/
def isColumnText (cs : List Char) : Bool :=
  let letters := dropLineFeed cs
  !letters.isEmpty && letters.all isAsciiLetter

/-- The index of column letters. -/
def columnIndex? (v : Json) : Except GridError Int :=
  match v with
  | .str s =>
    let cs := s.toList
    if isColumnText cs then .ok (lettersValue cs - 1) else .error (.badLetters v)
  | _ => .error (.badLetters v)

/-! ## Index to letters -/

/-- The letters of an index in front of other characters. -/
def columnLettersOnto (index : Nat) (rest : List Char) : List Char :=
  let rest := Char.ofNat ('A'.toNat + index % 26) :: rest
  if index < 26 then rest else columnLettersOnto (index / 26 - 1) rest
termination_by index

/-- The letters of an index. -/
def columnLetters (index : Nat) : List Char := columnLettersOnto index []

/-- The letters of an index that is given as a document. -/
def columnName? (v : Json) : Except GridError String :=
  match v with
  | .int (.ofNat n) => .ok (String.ofList (columnLetters n))
  | _ => .error (.badIndex v)

/-! ## References -/

/-- The index of a column that is given by index or by letters. -/
def resolveColumn (v : Json) : Except GridError Int :=
  match v with
  | .bool _ => .error (.badReference v)
  | .int i => if i < 0 then .error (.negativeIndex i) else .ok i
  | v => columnIndex? v

end WorkspaceTools
