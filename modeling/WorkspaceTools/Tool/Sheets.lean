import WorkspaceTools.Pivot.Table
import WorkspaceTools.Tool.Mail

/-!
# Tools for spreadsheets

The tools that read and write spreadsheets and their values, and the one that makes a pivot table. The
sheets of a spreadsheet are a `SheetDirectory` that asks the service.
-/

namespace WorkspaceTools.Tool

open Text

/-! ## Spreadsheets -/

/-- A sheet of a spreadsheet. -/
def sheetInfo (sheet : Json) : Shaped Json := do
  let props ← sheet.lookup "properties" (.obj [])
  let grid ← props.lookup "gridProperties" (.obj [])
  let id ← props.lookup "sheetId" (.int 0)
  let title ← props.lookup "title" (text "Untitled")
  let index ← props.lookup "index" (.int 0)
  let type ← props.lookup "sheetType" (text "GRID")
  let rows ← grid.lookup "rowCount" (.int 0)
  let columns ← grid.lookup "columnCount" (.int 0)
  return .obj [("sheet_id", id), ("title", title), ("index", index), ("sheet_type", type),
    ("row_count", rows), ("column_count", columns)]

/-- The cells of all sheets, if they were asked for. -/
def gridData (withGrid : Json) (sheets : List Json) : Shaped Members := do
  if !withGrid.isTruthy then return []
  let data ← sheets.mapM fun sheet => sheet.lookup "data" (.arr [])
  return [("grid_data", .arr data)]

/-- Read a spreadsheet. -/
def runGetSpreadsheet (args : Json) : Program Json := do
  let wanted ← args.item "spreadsheet_id"
  let withGrid ← args.lookup "include_grid_data" (.bool false)
  let response ← Program.get (Service.spreadsheet wanted.display) (some [("includeGridData", withGrid)])
  let list ← (← response.lookup "sheets" (.arr [])).elements
  let sheets ← (list.mapM sheetInfo : Shaped (List Json))
  let properties ← response.lookup "properties" (.obj [])
  let id ← response.lookup "spreadsheetId" wanted
  let title ← properties.lookup "title" (text "Untitled")
  let locale ← properties.lookup "locale" (text "en_US")
  let address ← response.field "spreadsheetUrl"
  let grid ← gridData withGrid list
  return .obj ([("spreadsheet_id", id), ("title", title), ("locale", locale),
    ("spreadsheet_url", address), ("sheets", .arr sheets)] ++ grid)

/-- A sheet of a new spreadsheet. -/
def newSheet (index : Nat) (title : Json) : Json :=
  .obj [("properties", .obj [("title", title), ("index", .ofNat index)])]

/-- A sheet of a spreadsheet that was made. -/
def madeSheet (sheet : Json) : Shaped Json := do
  let props ← sheet.lookup "properties" (.obj [])
  let id ← props.lookup "sheetId" (.int 0)
  let title ← props.lookup "title" (text "")
  return .obj [("sheet_id", id), ("title", title)]

/-- Make a spreadsheet. -/
def runCreateSpreadsheet (args : Json) : Program Json := do
  let title ← args.item "title"
  let titles ← ((← args.field "sheet_titles").orElse (.arr [text "Sheet1"])).elements
  let response ← Program.post Service.sheetsBase
    (.obj [("properties", .obj [("title", title)]), ("sheets", .arr (titles.mapIdx newSheet))]) none
  let id ← response.lookup "spreadsheetId" (text "")
  let madeTitle ← (← response.lookup "properties" (.obj [])).lookup "title" title
  let address ← response.lookup "spreadsheetUrl"
    (text ("https://docs.google.com/spreadsheets/d/" ++ id.display))
  let sheets ← (← response.lookup "sheets" (.arr [])).mapItems madeSheet
  return .obj [("spreadsheet_id", id), ("title", madeTitle), ("spreadsheet_url", address),
    ("sheets", .arr sheets)]

/-- Carry out several changes. -/
def runBatchUpdate (args : Json) : Program Json := do
  let wanted ← args.item "spreadsheet_id"
  let requests ← args.item "requests"
  if !requests.isTruthy then Program.fail .noRequests
  else
    let response ← Program.post (Service.spreadsheetUpdate wanted.display)
      (.obj [("requests", requests)]) none
    let id ← response.lookup "spreadsheetId" wanted
    let replies ← response.lookup "replies" (.arr [])
    return .obj [("spreadsheet_id", id), ("replies", replies)]

/-- The properties of a sheet in the first reply to a change. -/
def repliedSheet (change : String) (response : Json) : Shaped Json := do
  let replies := (← response.field "replies").orElse (.arr [.obj []])
  (← (← replies.first).lookup change (.obj [])).lookup "properties" (.obj [])

/-- Copy a sheet. -/
def runDuplicateSheet (args : Json) : Program Json := do
  let wanted ← args.item "spreadsheet_id"
  let newName ← args.field "new_sheet_name"
  let source ← args.item "sheet_id"
  let named := if newName.isTruthy then [("newSheetName", newName)] else []
  let response ← Program.post (Service.spreadsheetUpdate wanted.display)
    (.obj [("requests", .arr [.obj [("duplicateSheet", .obj (("sourceSheetId", source) :: named))]])])
    none
  let props ← repliedSheet "duplicateSheet" response
  let id ← props.lookup "sheetId" (.int 0)
  let title ← props.field "title"
  let index ← props.lookup "index" (.int 0)
  return .obj [("spreadsheet_id", wanted), ("sheet_id", id),
    ("title", title.orElse (newName.orElse (text "Copy"))), ("index", index)]

/-! ## Values -/

/-- The address of the values of a range. -/
def valuesAddress (id range : Json) (ending : String) : Shaped String :=
  match range with
  | .str range => .ok (Service.rangeValues id.display range ending)
  | _ => .error .notBytes

/-- Read the values of a range. -/
def runGetValues (args : Json) : Program Json := do
  let id ← args.item "spreadsheet_id"
  let wanted ← args.item "range"
  let address ← valuesAddress id wanted ""
  let dimension ← args.lookup "major_dimension" (text "ROWS")
  let response ← Program.get address (some [("majorDimension", dimension)])
  let values ← response.lookup "values" (.arr [])
  let range ← response.lookup "range" wanted
  let given ← response.lookup "majorDimension" dimension
  let count ← values.size
  return .obj [("spreadsheet_id", id), ("range", range), ("major_dimension", given),
    ("values", values), ("row_count", .ofNat count)]

/-- The values of one of several ranges. -/
def valueRange (v : Json) : Shaped Json := do
  let range ← v.field "range"
  let dimension ← v.field "majorDimension"
  let values ← v.lookup "values" (.arr [])
  return .obj [("range", range), ("major_dimension", dimension), ("values", values)]

/-- Read the values of several ranges. -/
def runBatchGetValues (args : Json) : Program Json := do
  let wanted ← args.item "spreadsheet_id"
  let ranges ← args.item "ranges"
  let dimension ← args.lookup "major_dimension" (text "ROWS")
  let response ← Program.get (Service.spreadsheet wanted.display ++ "/values:batchGet")
    (some [("ranges", ranges), ("majorDimension", dimension)])
  let id ← response.lookup "spreadsheetId" wanted
  let blocks ← (← response.lookup "valueRanges" (.arr [])).mapItems valueRange
  return .obj [("spreadsheet_id", id), ("value_ranges", .arr blocks)]

/-- Write the values of a range. -/
def runUpdateValues (args : Json) : Program Json := do
  let id ← args.item "spreadsheet_id"
  let wanted ← args.item "range"
  let address ← valuesAddress id wanted ""
  let option ← args.lookup "value_input_option" (text "USER_ENTERED")
  let values ← args.item "values"
  let response ← Program.put address (.obj [("range", wanted), ("values", values)])
    (some [("valueInputOption", option)])
  let range ← response.lookup "updatedRange" wanted
  let rows ← response.lookup "updatedRows" (.int 0)
  let columns ← response.lookup "updatedColumns" (.int 0)
  let cells ← response.lookup "updatedCells" (.int 0)
  return .obj [("spreadsheet_id", id), ("updated_range", range), ("updated_rows", rows),
    ("updated_columns", columns), ("updated_cells", cells)]

/-- Add rows behind the values of a range. -/
def runAppendValues (args : Json) : Program Json := do
  let id ← args.item "spreadsheet_id"
  let wanted ← args.item "range"
  let address ← valuesAddress id wanted ":append"
  let option ← args.lookup "value_input_option" (text "USER_ENTERED")
  let insertion ← args.lookup "insert_data_option" (text "INSERT_ROWS")
  let values ← args.item "values"
  let response ← Program.post address (.obj [("values", values)])
    (some [("valueInputOption", option), ("insertDataOption", insertion)])
  let updates ← response.lookup "updates" (.obj [])
  let table ← response.field "tableRange"
  let range ← updates.lookup "updatedRange" (text "")
  let rows ← updates.lookup "updatedRows" (.int 0)
  let columns ← updates.lookup "updatedColumns" (.int 0)
  let cells ← updates.lookup "updatedCells" (.int 0)
  return .obj [("spreadsheet_id", id), ("table_range", table), ("updated_range", range),
    ("updated_rows", rows), ("updated_columns", columns), ("updated_cells", cells)]

/-- Clear the values of a range. -/
def runClearValues (args : Json) : Program Json := do
  let id ← args.item "spreadsheet_id"
  let wanted ← args.item "range"
  let address ← valuesAddress id wanted ":clear"
  let response ← Program.post address (.obj []) none
  let range ← response.lookup "clearedRange" wanted
  return .obj [("spreadsheet_id", id), ("cleared_range", range)]

/-! ## Pivot tables -/

/-- A sheet in the answer of the service, which leaves out the number 0. -/
def sheetRef (sheet : Json) : Shaped SheetRef := do
  let props ← sheet.lookup "properties" (.obj [])
  let id ← props.lookup "sheetId" (.int 0)
  let title ← props.lookup "title" (text "")
  return ⟨id, title⟩

/-- The sheets of a spreadsheet. -/
def listSheets (id : String) : Program (List SheetRef) := do
  let response ← Program.get (Service.spreadsheet id)
    (some [("fields", text "sheets.properties(sheetId,title)")])
  (← response.lookup "sheets" (.arr [])).mapItems sheetRef

/-- The number of the first sheet of a title; null is none. -/
def numberOf? (title : String) (sheets : List SheetRef) : Option Json :=
  match sheets.find? fun s => s.title.isText title with
  | some ⟨.null, _⟩ => none
  | some s => some s.sheetId
  | none => none

/-- Add a sheet. -/
def addSheet (id : String) (title : Json) : Program SheetRef := do
  let response ← Program.post (Service.spreadsheetUpdate id)
    (.obj [("requests", .arr [.obj [("addSheet",
      .obj [("properties", .obj [("title", title)])])]])]) none
  let props ← repliedSheet "addSheet" response
  let number ← props.lookup "sheetId" (.int 0)
  let made ← props.lookup "title" title
  return ⟨number, made⟩

/-- The sheets of spreadsheets, as the service knows them. -/
def serviceSheets : SheetDirectory Program where
  lookup id title := do return numberOf? title (← listSheets id.display)
  list id := listSheets id.display
  create id := addSheet id.display

/-- The arguments without the one that chooses the format of the answer. -/
def withoutFormat (args : Members) : Members := args.filter fun m => m.1 != "response_format"

/-- Make a pivot table. -/
def runCreatePivotTable (args : Members) : Program Json := do
  let spec ← ((PivotSpec.check (.obj (withoutFormat args))).mapError Fault.issues)
  let compiled ← (compileSpec serviceSheets spec).run
  let table ← (compiled.mapError Fault.pivot)
  let _ ← Program.post (Service.spreadsheetUpdate spec.spreadsheetId)
    (.obj [("requests", .arr [table.updateRequest])]) none
  return .obj [("spreadsheet_id", text spec.spreadsheetId),
    ("pivot_table_sheet_id", table.destinationSheet),
    ("pivot_table_sheet_name",
      (table.destinationTitle.getD .null).orElse (text "(existing sheet)")),
    ("source_range", text spec.sourceRange), ("row_groups", .ofNat table.rows.length),
    ("column_groups", .ofNat table.columns.length),
    ("value_aggregations", .ofNat table.values.length), ("filters", .ofNat table.filters.length)]

end WorkspaceTools.Tool
