import WorkspaceTools.Grid.Column
import WorkspaceTools.Json.Reader

/-!
# Ranges in A1 notation

* `CellRange.read?` reads a range: a sheet title up to the first exclamation mark, then one or two
  cell references. Rows and columns count from zero, and the ends are exclusive. A range without
  rows begins in the first one and ends after row 1000, `openEndRow`.
* `CellRange.isReversed` holds of a range without cells.
* `printRange` writes a range, as the reader understands it.
-/

namespace WorkspaceTools

open Number Text

/-- The end row of a range that names none. -/
def openEndRow : Int := 1000

/-- A rectangle of cells: first row and column, and the row and column after the last ones. -/
structure CellRange where
  sheetTitle : String
  startColumn : Int
  startRow : Int
  endColumn : Int
  endRow : Int
  deriving DecidableEq, Inhabited

/-- A range without cells. -/
def CellRange.isReversed (r : CellRange) : Bool :=
  r.endColumn ≤ r.startColumn || r.endRow ≤ r.startRow

/-- Why a range cannot be read. -/
inductive RangeError where
  | malformed (range : String)
  /-- A row number with more digits than are read. -/
  | tooManyDigits (count : Nat)
  deriving DecidableEq

/-- A cell reference: letters and the digits of a row number, which may be missing. -/
structure CellRef where
  letters : List Char
  digits : List Char
  deriving DecidableEq

/-- A cell reference and nothing else; a line feed may follow it. -/
def CellRef.read? (cs : List Char) : Option CellRef :=
  let letters := cs.takeWhile isAsciiLetter
  let rest := cs.dropWhile isAsciiLetter
  let digits := rest.takeWhile isDigit
  let tail := rest.dropWhile isDigit
  if !letters.isEmpty && (tail.isEmpty || tail == ['\n']) then some ⟨letters, digits⟩ else none

/-- The row number of a reference, if it has one. -/
def CellRef.row? (r : CellRef) : Except RangeError (Option Int) :=
  if r.digits.isEmpty then .ok none
  else if maxIntDigits < r.digits.length then .error (.tooManyDigits r.digits.length)
  else .ok (some (natOfDigits r.digits))

/-- The column of a reference. -/
def CellRef.column (r : CellRef) : Int := lettersValue r.letters - 1

/-- Cut at the first occurrence of a character; what follows it is missing where there is none. -/
def cutAt (mark : Char) (cs : List Char) : List Char × Option (List Char) :=
  match cs.dropWhile (· != mark) with
  | [] => (cs, none)
  | _ :: rest => (cs.takeWhile (· != mark), some rest)

/-- Without one quote at the beginning and one at the end. -/
def stripQuotes (cs : List Char) : List Char :=
  let cs := match cs with
    | '\'' :: rest => rest
    | cs => cs
  if cs.getLast? == some '\'' then cs.dropLast else cs

/-- The range that a text denotes. -/
def CellRange.read? (s : String) : Except RangeError CellRange :=
  let (title, cells) := match cutAt '!' s.toList with
    | (before, some after) => (stripQuotes before, after)
    | (cells, none) => ([], cells)
  let (first, second) := cutAt ':' cells
  match CellRef.read? first, CellRef.read? (second.getD first) with
  | some first, some last => do
    let startRow ← first.row?
    let endRow ← last.row?
    .ok ⟨String.ofList title, first.column, (startRow.map (· - 1)).getD 0, last.column + 1,
      endRow.getD openEndRow⟩
  | _, _ => .error (.malformed s)

/-! ## Writing -/

/-- A reference to a column and, where one is given, a row counted from 1. -/
def printRef (column : Nat) (row : Option Nat) : List Char :=
  columnLetters column ++ match row with
    | none => []
    | some n => natDigits n

/-- A range with a quoted sheet title. -/
def printRange (title : String) (firstColumn : Nat) (firstRow : Option Nat) (lastColumn : Nat)
    (lastRow : Option Nat) : String :=
  String.ofList ('\'' :: (title.toList ++ '\'' :: '!' ::
    (printRef firstColumn firstRow ++ ':' :: printRef lastColumn lastRow)))

end WorkspaceTools
