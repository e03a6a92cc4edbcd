import WorkspaceTools.Grid.Range
import WorkspaceTools.Json.Access
import WorkspaceTools.Pivot.Spec

/-!
# Compiling the parts of a pivot table

* `PivotGroup.compile`, `PivotValue.compile` and `PivotFilter.compile` turn the parts of a specification
  into documents for the service; `sourceRange` reads the source range and refuses one without cells.
* `PivotError` says why a pivot table cannot be compiled, and `PivotError.message` words it.
-/

namespace WorkspaceTools

open Number Text

/-! ## Errors -/

/-- Why a pivot table cannot be compiled. -/
inductive PivotError where
  | grid (error : GridError)
  | rangeDigits (count : Nat)
  /-- No sheet has the title, or there are no sheets at all. -/
  | sheetNotFound (spreadsheetId : Json) (title : Option String)
  | bothSources
  | noSource
  | noGrouping
  | noValues
  | badRule (value : Json)
  /-- Something that nobody has checked has another shape than it should. -/
  | shape (fault : ShapeFault)
  deriving Inhabited

/-- The wording of an error. -/
def PivotError.message : PivotError → String
  | .grid e => e.message
  | .rangeDigits count => tooManyDigitsText count
  | .sheetNotFound id (some title) => "Sheet \"" ++ title ++ "\" not found in spreadsheet " ++ id.display
  | .sheetNotFound id none => "Spreadsheet " ++ id.display ++ " has no sheets"
  | .bothSources => WorkspaceTools.bothSources
  | .noSource => WorkspaceTools.noSource
  | .noGrouping => WorkspaceTools.noGrouping
  | .noValues => WorkspaceTools.noValues
  | .badRule v => "Invalid group rule: " ++ v.quoted
  | .shape fault => fault.message

/-- The range error of a text, as an error of compilation. -/
def PivotError.ofRange : RangeError → PivotError
  | .malformed s => .grid (.badRange s)
  | .tooManyDigits count => .rangeDigits count

/-! ## Parts -/

/-- A cell value for an item of a bucket: numbers stay numbers. -/
def Scalar.cellJson : Scalar → Json
  | .text s => .obj [("stringValue", .str s)]
  | .int i => .obj [("numberValue", .int i)]
  | .float x => .obj [("numberValue", .float x)]

/-- A named bucket. -/
def ManualGroup.compile (g : ManualGroup) : Json :=
  .obj [("groupName", .obj [("stringValue", .str g.groupName)]),
    ("items", .arr (g.items.map Scalar.cellJson))]

/-- A member that is there when its value is. -/
def memberOf {α : Type} (name : String) (f : α → Json) : Option α → Members
  | some a => [(name, f a)]
  | none => []

/-- A rule for buckets. -/
def GroupRule.compile : GroupRule → Json
  | .dateTime unit => .obj [("dateTimeRule", .obj [("type", .str unit.name)])]
  | .histogram rule =>
    .obj [("histogramRule", .obj (("interval", .float rule.interval)
      :: (memberOf "start" Json.float rule.start ++ memberOf "end" Json.float rule.stop)))]
  | .manual groups =>
    .obj [("manualRule", .obj [("groups", .arr (groups.map ManualGroup.compile))])]

/-- A text, unless it is empty. -/
def nonempty (s : Option String) : Option String := s.filter (· != "")

/-- The bucket that a grouping is sorted by: that of a value, or the empty one for a sort by
label. -/
def PivotGroup.bucket (g : PivotGroup) : Option Json :=
  match g.sortByValue, g.sortOrder with
  | some index, _ => some (.obj [("valuesIndex", .int index)])
  | none, some _ => some (.obj [])
  | none, none => none

/-- The column of a part. -/
def compileColumn (v : Json) : Except PivotError Int :=
  (resolveColumn v).mapError .grid

/-- A grouping. -/
def PivotGroup.compile (g : PivotGroup) : Except PivotError Json := do
  let column ← compileColumn g.sourceColumn
  return .obj ([("sourceColumnOffset", .int column), ("showTotals", .bool g.showTotals)]
    ++ memberOf "label" Json.str (nonempty g.label)
    ++ memberOf "sortOrder" (fun o => .str (SortOrder.name o)) g.sortOrder
    ++ memberOf "valueBucket" id g.bucket
    ++ memberOf "groupRule" GroupRule.compile g.groupRule
    ++ memberOf "groupLimit" (fun n => .obj [("countLimit", .int n)]) g.groupLimit)

/-- The source of a value: a column or a formula. -/
def PivotValue.source (v : PivotValue) : Except PivotError (String × Json) :=
  match v.sourceColumn, v.formula with
  | some _, some _ => .error .bothSources
  | none, none => .error .noSource
  | some column, none => (compileColumn column).map fun i => ("sourceColumnOffset", .int i)
  | none, some formula => .ok ("formula", .str formula)

/-- An aggregation. -/
def PivotValue.compile (v : PivotValue) : Except PivotError Json := do
  let source ← v.source
  return .obj ([("summarizeFunction", .str v.aggregation.name), source]
    ++ memberOf "name" Json.str (nonempty v.name)
    ++ memberOf "calculatedDisplayType" (fun p => .str (PercentOf.name p)) v.percentOf)

/-- An operand as it would be typed: a whole number without a point. -/
def Scalar.operandText : Scalar → String
  | .text s => s
  | .int i => intText i
  | .float x =>
    match x.toInt? with
    | some i => intText i
    | none => floatText plainFloat x

/-- A condition. -/
def FilterCondition.compile (c : FilterCondition) : Json :=
  .obj (("type", .str c.type.name)
    :: memberOf "values"
      (fun vs => .arr (vs.map fun v => .obj [("userEnteredValue", .str (Scalar.operandText v))]))
      c.values)

/-- The criteria of a filter; values to keep come before a condition. -/
def PivotFilter.criteria (f : PivotFilter) : Members :=
  match f.visibleValues, f.condition with
  | some values, _ => [("visibleValues", .ofTexts values)]
  | none, some condition => [("condition", condition.compile)]
  | none, none => []

/-- A filter. -/
def PivotFilter.compile (f : PivotFilter) : Except PivotError Json := do
  let column ← compileColumn f.sourceColumn
  return .obj [("columnOffsetIndex", .int column), ("filterCriteria", .obj f.criteria)]

/-! ## The source range -/

/-- A source range that has cells. -/
def sourceRange (s : String) : Except PivotError CellRange := do
  let range ← (CellRange.read? s).mapError PivotError.ofRange
  if range.endRow = openEndRow ∧ openEndRow ≤ range.startRow then
    throw (.grid (.startsPastEnd (range.startRow + 1) s))
  else if range.isReversed then throw (.grid (.emptyRange s))
  else return range

end WorkspaceTools
