import WorkspaceTools.Report.Layout

/-!
# Reports on spreadsheets

Reports on spreadsheets, their values and changes to them. `valuesTable` sets a block of values as a
table, whose lines have as many cells as the longest row.
-/

namespace WorkspaceTools.Report

open Number

/-- A line of a table. -/
def tableLine (cells : List String) : String := "| " ++ " | ".intercalate cells ++ " |"

/-- A cell: empty for null. -/
def cellText : Json → String
  | .null => ""
  | v => v.display

/-- The cells of a row, with empty ones up to a width. -/
def paddedCells (width : Nat) (row : List Json) : List String :=
  let cells := row.map cellText
  cells ++ List.replicate (width - cells.length) ""

/-- The headings of the columns. -/
def headings (width : Nat) : List String :=
  (List.range width).map fun i => "Col " ++ natText (i + 1)

/-- A block of values as a table. -/
def tableOfRows (range : String) (rows : List (List Json)) : String :=
  let width := rows.foldl (fun n row => max n row.length) 0
  unlines (["## Data from " ++ range, "", tableLine (headings width),
    tableLine (List.replicate width "---")] ++ rows.map fun row => tableLine (paddedCells width row))

/-- The values of a range as a table, or a remark where there are none. -/
def valuesTable (values : Json) (range : String) : Shaped String := do
  if !values.isTruthy then return "No data found in range: " ++ range
  else
    let rows ← values.elements
    let _ ← rows.mapM Json.size
    return tableOfRows range (← rows.mapM Json.elements)

/-- A sheet in a list. -/
def sheetSummary (sheet : Json) : Shaped (List String) := do
  let title ← shownItem "title" sheet
  let id ← shownItem "sheet_id" sheet
  let type ← shownOr "sheet_type" "GRID" sheet
  let rows ← shownOr "row_count" "0" sheet
  let columns ← shownOr "column_count" "0" sheet
  return ["- **" ++ title ++ "** (ID: " ++ id ++ ")", "  - Type: " ++ type, "  - Rows: " ++ rows,
    "  - Columns: " ++ columns]

/-- One spreadsheet. -/
def spreadsheet (result : Json) : Shaped String := do
  let sheets ← (← (← result.lookup "sheets" (.arr [])).elements).mapM sheetSummary
  let title ← shownField "title" result
  let id ← shownField "spreadsheet_id" result
  let address ← shownOr "spreadsheet_url" "N/A" result
  let locale ← shownField "locale" result
  let lines := unlines sheets.flatten
  return unlines ["# " ++ title, "", entitled "Spreadsheet ID" id, entitled "URL" address,
    entitled "Locale" locale, "", "## Sheets", "", if lines = "" then "No sheets found" else lines]

/-- The values of a range. -/
def values (result : Json) : Shaped String := do
  let block ← result.field "values"
  valuesTable block (← shownOr "range" "Unknown" result)

/-- The values of several ranges. -/
def batchValues (result : Json) : Shaped String := do
  let tables ← (← (← result.lookup "value_ranges" (.arr [])).elements).mapM values
  return "\n\n---\n\n".intercalate tables

/-- Values that were written. -/
def update (result : Json) : Shaped String := do
  let range ← shownField "updated_range" result
  let cells ← shownFieldOr "updated_cells" (.int 0) result
  let rows ← shownFieldOr "updated_rows" (.int 0) result
  let columns ← shownFieldOr "updated_columns" (.int 0) result
  return unlines ["Values updated successfully.", "", entitled "Range" range,
    entitled "Cells updated" (cells ++ " (" ++ rows ++ " rows × " ++ columns ++ " columns)")]

/-- Rows that were added. -/
def append (result : Json) : Shaped String := do
  let table ← shownOr "table_range" "N/A" result
  let range ← shownField "updated_range" result
  let rows ← shownFieldOr "updated_rows" (.int 0) result
  return unlines ["Data appended successfully.", "", entitled "Table range" table,
    entitled "Appended to" range, entitled "Rows added" rows]

/-- A spreadsheet that was made. -/
def createdSpreadsheet (result : Json) : Shaped String := do
  let title ← shownField "title" result
  let id ← shownField "spreadsheet_id" result
  let address ← shownField "spreadsheet_url" result
  let titles ← (← (← result.lookup "sheets" (.arr [])).elements).mapM (Json.item "title")
  return unlines ["Spreadsheet created successfully.", "", entitled "Title" title, entitled "ID" id,
    entitled "URL" address, entitled "Sheets" (← Json.joinItems ", " titles)]

/-- Operations that were carried out. -/
def batchUpdate (result : Json) : Shaped String := do
  let id ← shownField "spreadsheet_id" result
  let count ← (← result.lookup "replies" (.arr [])).size
  return unlines ["Batch update applied successfully to spreadsheet " ++ id ++ ".", "",
    natText count ++ " operation(s) completed."]

/-- Values that were cleared. -/
def clear (result : Json) : Shaped String := do
  let range ← shownField "cleared_range" result
  return unlines ["Values cleared successfully.", "", entitled "Cleared range" range]

/-- A sheet that was copied. -/
def duplicateSheet (result : Json) : Shaped String := do
  let title ← shownField "title" result
  let id ← shownField "sheet_id" result
  return unlines ["Sheet duplicated successfully.", "", entitled "New Sheet Name" title,
    entitled "Sheet ID" id]

/-- A pivot table that was made. -/
def pivotTable (result : Json) : Shaped String := do
  let name ← shownField "pivot_table_sheet_name" result
  let id ← shownField "pivot_table_sheet_id" result
  let source ← shownField "source_range" result
  let rows ← shownField "row_groups" result
  let columns ← shownField "column_groups" result
  let values ← shownField "value_aggregations" result
  let filters ← shownField "filters" result
  return unlines ["Pivot table created successfully.", "",
    entitled "Sheet" (name ++ " (ID: " ++ id ++ ")"), entitled "Source" source,
    entitled "Row Groups" rows, entitled "Column Groups" columns, entitled "Values" values,
    entitled "Filters" filters]

end WorkspaceTools.Report
