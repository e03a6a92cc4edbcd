import WorkspaceTools.Check.Field
import WorkspaceTools.Grid.Column

/-!
# Specifications of pivot tables

* `PivotSpec` is the specification of a pivot table; its parts are `PivotGroup`, `PivotValue` and
  `PivotFilter`, and a group may have a `GroupRule`.
* Every model has a `check` that reads it from a document and a `toJson` that lists all its members.
  A checked model has a column that is an index or letters, and meets the rules that tie several
  members together.
-/

namespace WorkspaceTools

open Number Text

/-! ## Enumerations -/

/-- The units that dates are grouped by. -/
inductive DateUnit where
  | second | minute | hour | hourMinute | hourMinuteAmPm | dayOfWeek | dayOfMonth | dayOfYear
  | dayMonth | month | quarter | year | yearMonth | yearQuarter | yearMonthDay
  deriving DecidableEq, Inhabited

/-- The name of a unit. -/
def DateUnit.name : DateUnit → String
  | .second => "SECOND"
  | .minute => "MINUTE"
  | .hour => "HOUR"
  | .hourMinute => "HOUR_MINUTE"
  | .hourMinuteAmPm => "HOUR_MINUTE_AMPM"
  | .dayOfWeek => "DAY_OF_WEEK"
  | .dayOfMonth => "DAY_OF_MONTH"
  | .dayOfYear => "DAY_OF_YEAR"
  | .dayMonth => "DAY_MONTH"
  | .month => "MONTH"
  | .quarter => "QUARTER"
  | .year => "YEAR"
  | .yearMonth => "YEAR_MONTH"
  | .yearQuarter => "YEAR_QUARTER"
  | .yearMonthDay => "YEAR_MONTH_DAY"

/-- All units. -/
def DateUnit.all : List DateUnit :=
  [.second, .minute, .hour, .hourMinute, .hourMinuteAmPm, .dayOfWeek, .dayOfMonth, .dayOfYear,
    .dayMonth, .month, .quarter, .year, .yearMonth, .yearQuarter, .yearMonthDay]

/-- The direction of a sort. -/
inductive SortOrder where
  | ascending | descending
  deriving DecidableEq, Inhabited

/-- The name of a direction. -/
def SortOrder.name : SortOrder → String
  | .ascending => "ASCENDING"
  | .descending => "DESCENDING"

/-- Both directions. -/
def SortOrder.all : List SortOrder := [.ascending, .descending]

/-- The aggregations of a value. -/
inductive Aggregation where
  | sum | count | countA | countUnique | average | max | min | median | product | stdev | stdevP
  | variance | varianceP | custom
  deriving DecidableEq, Inhabited

/-- The name of an aggregation. -/
def Aggregation.name : Aggregation → String
  | .sum => "SUM"
  | .count => "COUNT"
  | .countA => "COUNTA"
  | .countUnique => "COUNTUNIQUE"
  | .average => "AVERAGE"
  | .max => "MAX"
  | .min => "MIN"
  | .median => "MEDIAN"
  | .product => "PRODUCT"
  | .stdev => "STDEV"
  | .stdevP => "STDEVP"
  | .variance => "VAR"
  | .varianceP => "VARP"
  | .custom => "CUSTOM"

/-- All aggregations. -/
def Aggregation.all : List Aggregation :=
  [.sum, .count, .countA, .countUnique, .average, .max, .min, .median, .product, .stdev, .stdevP,
    .variance, .varianceP, .custom]

/-- What a value is shown as a percentage of. -/
inductive PercentOf where
  | rowTotal | columnTotal | grandTotal
  deriving DecidableEq, Inhabited

/-- The name of a way to show percentages. -/
def PercentOf.name : PercentOf → String
  | .rowTotal => "PERCENT_OF_ROW_TOTAL"
  | .columnTotal => "PERCENT_OF_COLUMN_TOTAL"
  | .grandTotal => "PERCENT_OF_GRAND_TOTAL"

/-- All ways to show percentages. -/
def PercentOf.all : List PercentOf := [.rowTotal, .columnTotal, .grandTotal]

/-- How several values are laid out. -/
inductive ValueLayout where
  | horizontal | vertical
  deriving DecidableEq, Inhabited

/-- The name of a layout. -/
def ValueLayout.name : ValueLayout → String
  | .horizontal => "HORIZONTAL"
  | .vertical => "VERTICAL"

/-- Both layouts. -/
def ValueLayout.all : List ValueLayout := [.horizontal, .vertical]

/-- The conditions of a filter. -/
inductive ConditionType where
  | numberGreater | numberGreaterOrEqual | numberLess | numberLessOrEqual | numberEqual
  | numberNotEqual | numberBetween | numberNotBetween | textContains | textNotContains
  | textStartsWith | textEndsWith | textEqual | textNotEqual | dateEqual | dateBefore | dateAfter
  | dateOnOrBefore | dateOnOrAfter | dateBetween | dateNotBetween | dateIsValid | blank | notBlank
  deriving DecidableEq, Inhabited

/-- The name of a condition. -/
def ConditionType.name : ConditionType → String
  | .numberGreater => "NUMBER_GREATER"
  | .numberGreaterOrEqual => "NUMBER_GREATER_THAN_EQ"
  | .numberLess => "NUMBER_LESS"
  | .numberLessOrEqual => "NUMBER_LESS_THAN_EQ"
  | .numberEqual => "NUMBER_EQ"
  | .numberNotEqual => "NUMBER_NOT_EQ"
  | .numberBetween => "NUMBER_BETWEEN"
  | .numberNotBetween => "NUMBER_NOT_BETWEEN"
  | .textContains => "TEXT_CONTAINS"
  | .textNotContains => "TEXT_NOT_CONTAINS"
  | .textStartsWith => "TEXT_STARTS_WITH"
  | .textEndsWith => "TEXT_ENDS_WITH"
  | .textEqual => "TEXT_EQ"
  | .textNotEqual => "TEXT_NOT_EQ"
  | .dateEqual => "DATE_EQ"
  | .dateBefore => "DATE_BEFORE"
  | .dateAfter => "DATE_AFTER"
  | .dateOnOrBefore => "DATE_ON_OR_BEFORE"
  | .dateOnOrAfter => "DATE_ON_OR_AFTER"
  | .dateBetween => "DATE_BETWEEN"
  | .dateNotBetween => "DATE_NOT_BETWEEN"
  | .dateIsValid => "DATE_IS_VALID"
  | .blank => "BLANK"
  | .notBlank => "NOT_BLANK"

/-- All conditions. -/
def ConditionType.all : List ConditionType :=
  [.numberGreater, .numberGreaterOrEqual, .numberLess, .numberLessOrEqual, .numberEqual,
    .numberNotEqual, .numberBetween, .numberNotBetween, .textContains, .textNotContains,
    .textStartsWith, .textEndsWith, .textEqual, .textNotEqual, .dateEqual, .dateBefore, .dateAfter,
    .dateOnOrBefore, .dateOnOrAfter, .dateBetween, .dateNotBetween, .dateIsValid, .blank, .notBlank]

/-! ## Rules for groups -/

/-- Buckets of equal size, and open-ended ones outside the bounds. -/
structure HistogramRule where
  interval : Binary64
  start : Option Binary64
  stop : Option Binary64
  deriving DecidableEq, Inhabited

/-- A named bucket of given items. -/
structure ManualGroup where
  groupName : String
  items : List Scalar
  deriving DecidableEq, Inhabited

/-- How the values of a group are put into buckets. -/
inductive GroupRule where
  | dateTime (unit : DateUnit)
  | histogram (rule : HistogramRule)
  | manual (groups : List ManualGroup)
  deriving Inhabited

/-- A unit for dates. -/
def checkDateRule : Json → Checked DateUnit :=
  checkObject "DateTimeRule" (required "type" (checkName DateUnit.all DateUnit.name))

/-- Buckets of equal size. -/
def HistogramRule.check : Json → Checked HistogramRule :=
  checkObject "HistogramRule" fun ms =>
    match required "interval" checkPositiveFloat ms, optional "start" none (checkNullable checkFloat) ms,
        optional "end" none (checkNullable checkFloat) ms with
    | .ok interval, .ok start, .ok stop => .ok ⟨interval, start, stop⟩
    | interval, start, stop => .error (interval.issues ++ start.issues ++ stop.issues)

/-- A named bucket. -/
def ManualGroup.check : Json → Checked ManualGroup :=
  checkObject "ManualGroup" fun ms =>
    match required "group_name" checkText ms, required "items" (checkList checkExactScalar) ms with
    | .ok groupName, .ok items => .ok ⟨groupName, items⟩
    | groupName, items => .error (groupName.issues ++ items.issues)

/-- Named buckets, at least one. -/
def checkManualRule : Json → Checked (List ManualGroup) :=
  checkObject "ManualRule" (required "groups" (checkNonemptyList ManualGroup.check))

/-- An object with the one member of the given name. -/
def checkOnly {α : Type} (model name : String) (check : Json → Checked α) (v : Json) : Checked α :=
  (checkObject model (fun ms =>
    match required name check ms, noOthers [name] ms with
    | .ok a, .ok () => .ok a
    | a, others => .error (a.issues ++ others.issues)) v).under (.member model)

/-- One of the three rules. -/
def GroupRule.check (v : Json) : Checked GroupRule :=
  .firstOf [
    (checkOnly "DateTimeGroupRule" "date_time" checkDateRule v).map .dateTime,
    (checkOnly "HistogramGroupRule" "histogram" HistogramRule.check v).map .histogram,
    (checkOnly "ManualGroupRule" "manual" checkManualRule v).map .manual]

/-! ## Groups, values and filters -/

/-- Column letters and nothing else. -/
def checkColumnLetters (v : Json) : Checked String :=
  (checkText v).ensure (fun s => s != "" && s.toList.all isAsciiLetter) (.patternMismatch columnPattern)

/-- A column by its index or by its letters. -/
def checkColumn (v : Json) : Checked Json :=
  .firstOf [
    .under (.member "constrained-int") ((checkIntFrom 0 v).map Json.int),
    .under (.member "constrained-str") ((checkColumnLetters v).map Json.str)]

/-- A grouping of rows or of columns. The order sorts by label, or by the value of the given index
where there is one. -/
structure PivotGroup where
  sourceColumn : Json
  label : Option String := none
  showTotals : Bool := true
  sortOrder : Option SortOrder := none
  sortByValue : Option Int := none
  groupRule : Option GroupRule := none
  groupLimit : Option Int := none
  deriving Inhabited

/-- An aggregation of a column, or a formula. -/
structure PivotValue where
  sourceColumn : Option Json := none
  formula : Option String := none
  aggregation : Aggregation
  name : Option String := none
  percentOf : Option PercentOf := none
  deriving Inhabited

/-- A condition with its operands. -/
structure FilterCondition where
  type : ConditionType
  values : Option (List Scalar) := none
  deriving DecidableEq, Inhabited

/-- A filter of the source: values to keep, or a condition. -/
structure PivotFilter where
  sourceColumn : Json
  visibleValues : Option (List String) := none
  condition : Option FilterCondition := none
  deriving Inhabited

/-- The index of a value to sort by. -/
def checkSortByValue : Json → Checked Int :=
  checkObject "SortByValue" (required "value_index" (checkIntFrom 0))

/-- A grouping. -/
def PivotGroup.check : Json → Checked PivotGroup :=
  checkObject "PivotGroup" fun ms =>
    match required "source_column" checkColumn ms, optional "label" none (checkNullable checkText) ms,
        optional "show_totals" true checkBool ms,
        optional "sort_order" none (checkNullable (checkName SortOrder.all SortOrder.name)) ms,
        optional "sort_by_value" none (checkNullable checkSortByValue) ms,
        optional "group_rule" none (checkNullable GroupRule.check) ms,
        optional "group_limit" none (checkNullable (checkIntAbove 0)) ms with
    | .ok column, .ok label, .ok totals, .ok order, .ok byValue, .ok rule, .ok limit =>
      .ok ⟨column, label, totals, order, byValue, rule, limit⟩
    | column, label, totals, order, byValue, rule, limit =>
      .error (column.issues ++ label.issues ++ totals.issues ++ order.issues ++ byValue.issues
        ++ rule.issues ++ limit.issues)

/-- The complaint about a value with two sources. -/
def bothSources : String := "Cannot specify both source_column and formula"

/-- The complaint about a value without a source. -/
def noSource : String := "Either source_column or formula is required"

/-- A value has a column or a formula, and not both. -/
def PivotValue.sourceFault? (v : PivotValue) : Option String :=
  match v.sourceColumn, v.formula with
  | some _, some _ => some bothSources
  | none, none => some noSource
  | _, _ => none

/-- An aggregation. -/
def PivotValue.check : Json → Checked PivotValue :=
  checkObject "PivotValue" fun ms =>
    match optional "source_column" none (checkNullable checkColumn) ms,
        optional "formula" none (checkNullable checkText) ms,
        required "summarize_function" (checkName Aggregation.all Aggregation.name) ms,
        optional "name" none (checkNullable checkText) ms,
        optional "calculated_display_type" none
          (checkNullable (checkName PercentOf.all PercentOf.name)) ms with
    | .ok column, .ok formula, .ok aggregation, .ok name, .ok percent =>
      let value : PivotValue := ⟨column, formula, aggregation, name, percent⟩
      match value.sourceFault? with
      | some text => issueHere (.rule text)
      | none => .ok value
    | column, formula, aggregation, name, percent =>
      .error (column.issues ++ formula.issues ++ aggregation.issues ++ name.issues ++ percent.issues)

/-- A condition. -/
def FilterCondition.check : Json → Checked FilterCondition :=
  checkObject "FilterCondition" fun ms =>
    match required "type" (checkName ConditionType.all ConditionType.name) ms,
        optional "values" none (checkNullable (checkList checkExactScalar)) ms with
    | .ok type, .ok values => .ok ⟨type, values⟩
    | type, values => .error (type.issues ++ values.issues)

/-- A filter. -/
def PivotFilter.check : Json → Checked PivotFilter :=
  checkObject "PivotFilter" fun ms =>
    match required "source_column" checkColumn ms,
        optional "visible_values" none (checkNullable (checkList checkText)) ms,
        optional "condition" none (checkNullable FilterCondition.check) ms with
    | .ok column, .ok visible, .ok condition => .ok ⟨column, visible, condition⟩
    | column, visible, condition =>
      .error (column.issues ++ visible.issues ++ condition.issues)

/-! ## The whole specification -/

/-- The specification of a pivot table: a source range, groupings, values and filters, and the sheet
where the table is placed, or the title of a new one. -/
structure PivotSpec where
  spreadsheetId : String
  sourceRange : String
  destinationSheetId : Option Int := none
  destinationSheetName : String := "Pivot Table"
  rows : Option (List PivotGroup) := none
  columns : Option (List PivotGroup) := none
  values : List PivotValue
  filters : Option (List PivotFilter) := none
  valueLayout : ValueLayout := .horizontal
  deriving Inhabited

/-- The names of the members of a specification. -/
def PivotSpec.memberNames : List String :=
  ["spreadsheet_id", "source_range", "destination_sheet_id", "destination_sheet_name", "rows",
    "columns", "values", "filters", "value_layout"]

/-- The complaint about a table without groupings. -/
def noGrouping : String := "At least one row or column grouping is required"

/-- The complaint about a table without values. -/
def noValues : String := "At least one value aggregation is required"

/-- A specification. -/
def PivotSpec.check : Json → Checked PivotSpec :=
  checkObject "PivotTableSpec" fun ms =>
    match required "spreadsheet_id" checkNonemptyText ms,
        required "source_range" checkNonemptyText ms,
        optional "destination_sheet_id" none (checkNullable checkInt) ms,
        optional "destination_sheet_name" "Pivot Table" checkText ms,
        optional "rows" none (checkNullable (checkList PivotGroup.check)) ms,
        optional "columns" none (checkNullable (checkList PivotGroup.check)) ms,
        required "values" (checkNonemptyList PivotValue.check) ms,
        optional "filters" none (checkNullable (checkList PivotFilter.check)) ms,
        optional "value_layout" .horizontal (checkName ValueLayout.all ValueLayout.name) ms,
        noOthers PivotSpec.memberNames ms with
    | .ok id, .ok range, .ok sheet, .ok title, .ok rows, .ok columns, .ok values, .ok filters,
        .ok layout, .ok () =>
      if (rows.getD []).isEmpty && (columns.getD []).isEmpty then issueHere (.rule noGrouping)
      else .ok ⟨id, range, sheet, title, rows, columns, values, filters, layout⟩
    | id, range, sheet, title, rows, columns, values, filters, layout, others =>
      .error (id.issues ++ range.issues ++ sheet.issues ++ title.issues ++ rows.issues
        ++ columns.issues ++ values.issues ++ filters.issues ++ layout.issues ++ others.issues)

/-! ## Models as documents -/

/-- A value or null. -/
def Json.ofOption {α : Type} (f : α → Json) : Option α → Json
  | some a => f a
  | none => .null

/-- A rule for dates as a document. -/
def dateRuleJson (unit : DateUnit) : Json := .obj [("type", .str unit.name)]

/-- All members. -/
def HistogramRule.toJson (r : HistogramRule) : Json :=
  .obj [("interval", .float r.interval), ("start", Json.ofOption .float r.start),
    ("end", Json.ofOption .float r.stop)]

/-- All members. -/
def ManualGroup.toJson (g : ManualGroup) : Json :=
  .obj [("group_name", .str g.groupName), ("items", .arr (g.items.map Scalar.toJson))]

/-- Named buckets as a document. -/
def manualRuleJson (groups : List ManualGroup) : Json :=
  .obj [("groups", .arr (groups.map ManualGroup.toJson))]

/-- The one member of a rule. -/
def GroupRule.toJson : GroupRule → Json
  | .dateTime unit => .obj [("date_time", dateRuleJson unit)]
  | .histogram rule => .obj [("histogram", rule.toJson)]
  | .manual groups => .obj [("manual", manualRuleJson groups)]

/-- An index to sort by as a document. -/
def sortByValueJson (index : Int) : Json := .obj [("value_index", .int index)]

/-- All members. -/
def PivotGroup.toJson (g : PivotGroup) : Json :=
  .obj [("source_column", g.sourceColumn), ("label", Json.ofText? g.label),
    ("show_totals", .bool g.showTotals), ("sort_order", Json.ofText? (g.sortOrder.map SortOrder.name)),
    ("sort_by_value", Json.ofOption sortByValueJson g.sortByValue),
    ("group_rule", Json.ofOption GroupRule.toJson g.groupRule),
    ("group_limit", Json.ofOption .int g.groupLimit)]

/-- All members. -/
def PivotValue.toJson (v : PivotValue) : Json :=
  .obj [("source_column", v.sourceColumn.getD .null), ("formula", Json.ofText? v.formula),
    ("summarize_function", .str v.aggregation.name), ("name", Json.ofText? v.name),
    ("calculated_display_type", Json.ofText? (v.percentOf.map PercentOf.name))]

/-- All members. -/
def FilterCondition.toJson (c : FilterCondition) : Json :=
  .obj [("type", .str c.type.name),
    ("values", Json.ofOption (fun vs => .arr (vs.map Scalar.toJson)) c.values)]

/-- All members. -/
def PivotFilter.toJson (f : PivotFilter) : Json :=
  .obj [("source_column", f.sourceColumn), ("visible_values", Json.ofOption Json.ofTexts f.visibleValues),
    ("condition", Json.ofOption FilterCondition.toJson f.condition)]

/-- A list as a document. -/
def Json.ofList {α : Type} (f : α → Json) (as : List α) : Json := .arr (as.map f)

/-- All members. -/
def PivotSpec.toJson (s : PivotSpec) : Json :=
  .obj [("spreadsheet_id", .str s.spreadsheetId), ("source_range", .str s.sourceRange),
    ("destination_sheet_id", Json.ofOption .int s.destinationSheetId),
    ("destination_sheet_name", .str s.destinationSheetName),
    ("rows", Json.ofOption (Json.ofList PivotGroup.toJson) s.rows),
    ("columns", Json.ofOption (Json.ofList PivotGroup.toJson) s.columns),
    ("values", Json.ofList PivotValue.toJson s.values),
    ("filters", Json.ofOption (Json.ofList PivotFilter.toJson) s.filters),
    ("value_layout", .str s.valueLayout.name)]

end WorkspaceTools
