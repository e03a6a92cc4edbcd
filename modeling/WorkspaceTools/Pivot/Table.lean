import WorkspaceTools.Pivot.Draft

/-!
# Pivot tables

* `compileDraft` turns a draft into a `PivotTable`: the source range is read and checked, its sheet is
  looked up in a `SheetDirectory`, then groupings, values and filters are compiled, and only then a new
  sheet is added where no destination is given. So a failure leaves the directory as it was, unless it is
  the layout that is none, which is found out last.
* `compileSpec` does so with a specification.
* `PivotTable.updateRequest` is the request that writes a compiled table at the first cell of its
  sheet.
-/

namespace WorkspaceTools

/-! ## Sheets -/

/-- A sheet as the service reports it. -/
structure SheetRef where
  sheetId : Json
  title : Json
  deriving Inhabited

/-- The sheets of spreadsheets: look one up by title, list all, or add one. -/
structure SheetDirectory (m : Type → Type) where
  lookup : (spreadsheetId : Json) → (title : String) → m (Option Json)
  list : (spreadsheetId : Json) → m (List SheetRef)
  create : (spreadsheetId title : Json) → m SheetRef

/-- The sheet of a title, or the first sheet for an empty title. -/
def resolveSheet {m : Type → Type} [Monad m] (sheets : SheetDirectory m)
    (spreadsheetId : Json) (title : String) : ExceptT PivotError m Json := do
  if title = "" then
    match ← (sheets.list spreadsheetId : m _) with
    | [] => throw (.sheetNotFound spreadsheetId none)
    | first :: _ => return first.sheetId
  else
    match ← (sheets.lookup spreadsheetId title : m _) with
    | none => throw (.sheetNotFound spreadsheetId (some title))
    | some id => return id

/-! ## The whole table -/

/-- A compiled pivot table and the sheet it belongs on. -/
structure PivotTable where
  sourceSheet : Json
  source : CellRange
  rows : List Json
  columns : List Json
  values : List Json
  filters : List Json
  valueLayout : ValueLayout
  destinationSheet : Json
  /-- The title of a sheet that was added for the table. -/
  destinationTitle : Option Json
  deriving Inhabited

/-- The sheet that a table is placed on: the given one, or a new one with its title. -/
def placeTable {m : Type → Type} [Monad m] (sheets : SheetDirectory m) (d : PivotDraft) :
    m (Json × Option Json) :=
  match d.destinationSheet with
  | some id => pure (id, none)
  | none => do
    let created ← sheets.create d.spreadsheetId d.destinationTitle
    pure (created.sheetId, some created.title)

/-- The table of a draft. -/
def compileDraft {m : Type → Type} [Monad m] (sheets : SheetDirectory m) (d : PivotDraft) :
    ExceptT PivotError m PivotTable := do
  let range ← liftExcept d.range
  let sheet ← resolveSheet sheets d.spreadsheetId range.sheetTitle
  let parts ← liftExcept d.compileParts
  let (destination, title) ← (placeTable sheets d : m _)
  let layout ← liftExcept (compileLayoutPart d.valueLayout)
  return ⟨sheet, range, parts.rows, parts.columns, parts.values, parts.filters, layout, destination,
    title⟩
where
  /-- A result without effects. -/
  liftExcept {α : Type} (r : Except PivotError α) : ExceptT PivotError m α := ExceptT.mk (pure r)

/-- The table of a specification. -/
def compileSpec {m : Type → Type} [Monad m] (sheets : SheetDirectory m) (spec : PivotSpec) :
    ExceptT PivotError m PivotTable :=
  compileDraft sheets spec.draft

namespace PivotTable

/-- The source region. -/
def regionJson (t : PivotTable) : Json :=
  .obj [("sheetId", t.sourceSheet), ("startRowIndex", .int t.source.startRow),
    ("startColumnIndex", .int t.source.startColumn), ("endRowIndex", .int t.source.endRow),
    ("endColumnIndex", .int t.source.endColumn)]

/-- A list that is left out when it is empty. -/
def nonemptyList (name : String) (items : List Json) : Members :=
  if items.isEmpty then [] else [(name, .arr items)]

/-- The table as the service wants it. -/
def tableJson (t : PivotTable) : Json :=
  .obj ([("source", t.regionJson), ("values", .arr t.values), ("valueLayout", .str t.valueLayout.name)]
    ++ nonemptyList "rows" t.rows ++ nonemptyList "columns" t.columns
    ++ nonemptyList "filterSpecs" t.filters)

/-- The request that writes the table at the first cell of its sheet. -/
def updateRequest (t : PivotTable) : Json :=
  .obj [("updateCells", .obj [
    ("rows", .arr [.obj [("values", .arr [.obj [("pivotTable", t.tableJson)]])]]),
    ("start", .obj [("sheetId", t.destinationSheet), ("rowIndex", .int 0), ("columnIndex", .int 0)]),
    ("fields", .str "pivotTable")])]

end PivotTable

end WorkspaceTools
