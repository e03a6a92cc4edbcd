import WorkspaceTools.Pivot.Spec
import WorkspaceTools.Schema.Keyword

/-!
# The schema of pivot tables

`pivotSchema` describes the specification of a pivot table. It uses a definition for each model and each
enumeration, `pivotDefinitions`. It demands less than `PivotSpec.check`: rules that tie several members
together are not part of it.
-/

namespace WorkspaceTools

namespace Pivot

open Schema

/-- A named schema. -/
structure Definition where
  name : String
  schema : Schema

/-- A reference to a definition. -/
def Definition.ref (d : Definition) : Keyword := .ref d.name d.schema

/-- A schema for one type. -/
def ofType (name : TypeName) : Schema := [.type [name]]

/-- The schemas of a value that may be null. -/
def orNull (schemas : List Schema) : Keyword := .anyOf (schemas ++ [ofType .null])

/-- A member that may be null, and is so when it is missing. -/
def nullable (schemas : List Schema) (description : String) : Schema :=
  [orNull schemas, default .null, about description]

/-- A definition of an enumeration. -/
def enumeration (name : String) (description : List Keyword) (names : List String) : Definition :=
  ⟨name, description ++ [.enum names, titled name, .type [.string]]⟩

/-! ## Enumerations -/

/-- The schema of `PercentOf`. -/
def percentOf : Definition :=
  enumeration "CalculatedDisplayType" [] (PercentOf.all.map PercentOf.name)

/-- The schema of `DateUnit`. -/
def dateUnit : Definition :=
  enumeration "DateTimeRuleType" [about "Date/time truncation granularities understood by the Sheets API."]
    (DateUnit.all.map DateUnit.name)

/-- The schema of `ConditionType`. -/
def conditionType : Definition :=
  enumeration "FilterConditionType" [about "Boolean condition types accepted in pivot filter criteria."]
    (ConditionType.all.map ConditionType.name)

/-- The schema of `SortOrder`. -/
def sortOrder : Definition := enumeration "SortOrder" [] (SortOrder.all.map SortOrder.name)

/-- The schema of `Aggregation`. -/
def aggregation : Definition :=
  enumeration "SummarizeFunction" [about "Aggregation applied to a pivot value."]
    (Aggregation.all.map Aggregation.name)

/-- The schema of `ValueLayout`. -/
def valueLayout : Definition := enumeration "ValueLayout" [] (ValueLayout.all.map ValueLayout.name)

/-! ## Parts of members -/

/-- The schemas of a column: its index, or its letters. -/
def columnSchemas : List Schema := [[.minimum 0, .type [.integer]], [.columnLetters, .type [.string]]]

/-- A column that has to be given. -/
def column (description : String) : Schema :=
  [.anyOf columnSchemas, about description, titled "Source Column"]

/-- The schema of a text or a number. -/
def scalar : Schema := [.anyOf [ofType .string, ofType .integer, ofType .number]]

/-- The schema of a list. -/
def listOf (items : Schema) : Schema := [.items items, .type [.array]]

/-- A definition of an object. -/
def model (name : String) (before : List Keyword) (members : List (String × Schema))
    (required : List String) : Definition :=
  ⟨name, before ++ [.properties members, .required required, titled name, .type [.object]]⟩

/-! ## Rules for groups -/

/-- The schema of a rule for dates. -/
def dateRule : Definition :=
  model "DateTimeRule" [] [("type", [dateUnit.ref, about "How to group date/time values"])] ["type"]

/-- The schema of `HistogramRule`. -/
def histogramRule : Definition :=
  model "HistogramRule"
    [about "Numeric bucketing; values outside start/end fall into open-ended buckets."]
    [("interval", [about "Bucket size (e.g., 100 for 0-100, 100-200)", .exclusiveMinimum 0,
        titled "Interval", .type [.number]]),
      ("start", nullable [ofType .number] "Minimum bucketed value" ++ [titled "Start"]),
      ("end", nullable [ofType .number] "Maximum bucketed value" ++ [titled "End"])]
    ["interval"]

/-- The schema of `ManualGroup`. -/
def manualGroup : Definition :=
  model "ManualGroup" []
    [("group_name", [about "Name for this group", titled "Group Name", .type [.string]]),
      ("items", [about "Values to include in this group", .items scalar, titled "Items", .type [.array]])]
    ["group_name", "items"]

/-- The schema of a rule of named groups. -/
def manualRule : Definition :=
  model "ManualRule" []
    [("groups", [about "Custom groups, in order", .items [manualGroup.ref], .minItems 1, titled "Groups",
      .type [.array]])]
    ["groups"]

/-- The schema of an object with one member and no other. -/
def variant (name member : String) (rule : Definition) : Definition :=
  model name [.closed] [(member, [rule.ref])] [member]

/-- The schema of a group rule for dates. -/
def dateVariant : Definition := variant "DateTimeGroupRule" "date_time" dateRule

/-- The schema of a group rule for buckets of equal size. -/
def histogramVariant : Definition := variant "HistogramGroupRule" "histogram" histogramRule

/-- The schema of a group rule for named groups. -/
def manualVariant : Definition := variant "ManualGroupRule" "manual" manualRule

/-! ## Groups, values and filters -/

/-- The schema of the order by a value. -/
def sortByValue : Definition :=
  model "SortByValue" []
    [("value_index", [about "Index into values array (0 = first value)", .minimum 0, titled "Value Index",
      .type [.integer]])]
    ["value_index"]

/-- The schema of `PivotGroup`. -/
def group : Definition :=
  model "PivotGroup"
    [about ("A row or column grouping.\n\n"
      ++ "\x60\x60sort_order\x60\x60 alone sorts group labels alphabetically in that direction.\n"
      ++ "\x60\x60sort_by_value\x60\x60 orders groups by an aggregated value instead; when both\n"
      ++ "are given, \x60\x60sort_order\x60\x60 sets the direction of the value ordering.")]
    [("source_column", column "Column index (0-based) or column letter (e.g., 'A', 'B', 'AA')"),
      ("label", nullable [ofType .string] "Custom display name for this grouping" ++ [titled "Label"]),
      ("show_totals", [default (.bool true), about "Show subtotals for this group", titled "Show Totals",
        .type [.boolean]]),
      ("sort_order", nullable [[sortOrder.ref]] "Sort order for group values"),
      ("sort_by_value",
        nullable [[sortByValue.ref]] "Sort groups by aggregated value instead of alphabetically"),
      ("group_rule", nullable [[dateVariant.ref], [histogramVariant.ref], [manualVariant.ref]]
        "How to bucket values (date_time, histogram, or manual)" ++ [titled "Group Rule"]),
      ("group_limit", nullable [[.exclusiveMinimum 0, .type [.integer]]]
        "Maximum number of groups to display" ++ [titled "Group Limit"])]
    ["source_column"]

/-- The schema of `PivotValue`. -/
def value : Definition :=
  model "PivotValue" [about "An aggregation over a source column or a custom formula (never both)."]
    [("source_column",
        nullable columnSchemas "Column to aggregate (omit if using formula)" ++ [titled "Source Column"]),
      ("formula", nullable [ofType .string] "Custom formula starting with '=' (e.g., '=Revenue/Quantity')"
        ++ [titled "Formula"]),
      ("summarize_function", [aggregation.ref, about "Aggregation function (use CUSTOM with formula)"]),
      ("name", nullable [ofType .string] "Custom display name for this value" ++ [titled "Name"]),
      ("calculated_display_type", nullable [[percentOf.ref]] "Display as percentage instead of raw value")]
    ["summarize_function"]

/-- The schema of `FilterCondition`. -/
def condition : Definition :=
  model "FilterCondition" []
    [("type", [conditionType.ref, about "Condition type"]),
      ("values", nullable [listOf scalar]
        "Condition operands (e.g., [100] for NUMBER_GREATER, [10, 50] for NUMBER_BETWEEN)"
        ++ [titled "Values"])]
    ["type"]

/-- The schema of `PivotFilter`. -/
def filter : Definition :=
  model "PivotFilter" []
    [("source_column", column "Column to filter on"),
      ("visible_values", nullable [listOf (ofType .string)]
        "Only show rows where the column matches these values" ++ [titled "Visible Values"]),
      ("condition", nullable [[condition.ref]] "Filter by condition (alternative to visible_values)")]
    ["source_column"]

/-! ## The whole specification -/

/-- All definitions by name. -/
def definitions : List Definition := [
  percentOf, dateVariant, dateRule, dateUnit, condition, conditionType, histogramVariant, histogramRule,
  manualGroup, manualVariant, manualRule, filter, group, value, sortByValue, sortOrder, aggregation,
  valueLayout]

/-- A text that has to be given and is not empty. -/
def nonempty (description title : String) : Schema :=
  [about description, .minLength 1, titled title, .type [.string]]

/-- The schemas of the members of a specification. -/
def specMembers : List (String × Schema) := [
  ("spreadsheet_id", nonempty "The ID of the Google Spreadsheet" "Spreadsheet Id"),
  ("source_range",
    nonempty "A1 notation range containing the source data (e.g., 'Sheet1!A1:E100', 'Data!A:F')"
      "Source Range"),
  ("destination_sheet_id", nullable [ofType .integer]
    "Sheet ID where the pivot table is placed (default: creates a new sheet)"
    ++ [titled "Destination Sheet Id"]),
  ("destination_sheet_name", [default (.str "Pivot Table"),
    about "Name for the new sheet if destination_sheet_id is not provided", titled "Destination Sheet Name",
    .type [.string]]),
  ("rows", nullable [listOf [group.ref]] "Row groupings" ++ [titled "Rows"]),
  ("columns", nullable [listOf [group.ref]] "Column groupings" ++ [titled "Columns"]),
  ("values", [about "Value aggregations (e.g., SUM of Revenue)", .items [value.ref], .minItems 1,
    titled "Values", .type [.array]]),
  ("filters", nullable [listOf [filter.ref]] "Filter source data before pivoting" ++ [titled "Filters"]),
  ("value_layout", [valueLayout.ref, default (.str ValueLayout.horizontal.name),
    about "Layout for multiple values: HORIZONTAL (side by side) or VERTICAL (stacked)"])]

/-- The schema of a specification, with schemas for more members. -/
def specSchema (more : List (String × Schema)) : Schema := [
  .definitions (definitions.map fun d => (d.name, d.schema)),
  .closed,
  about "Arguments of the \x60\x60sheets_create_pivot_table\x60\x60 tool.",
  .properties (specMembers ++ more),
  .required ["spreadsheet_id", "source_range", "values"],
  titled "PivotTableSpec",
  .type [.object]]

end Pivot

end WorkspaceTools
