import WorkspaceTools.Pivot.Table

/-!
# Sheets in memory

A `SheetStore` holds sheets in order and the number of the next one, and notes what it is asked.
`SheetStore.directory` is its directory, and `SheetStore.compile` compiles a pivot table against it.
-/

namespace WorkspaceTools

/-- A sheet with its number and title. -/
structure Sheet where
  sheetId : Int
  title : Json
  deriving Inhabited

/-- A question to a directory. -/
inductive SheetCall where
  | lookup (spreadsheetId : Json) (title : String)
  | list (spreadsheetId : Json)
  | create (spreadsheetId title : Json)

/-- Sheets in memory, the number of the next one, and the questions so far, last one first. -/
structure SheetStore where
  sheets : List Sheet
  nextId : Int
  calls : List SheetCall := []
  deriving Inhabited

/-- A sheet as it is reported. -/
def Sheet.ref (s : Sheet) : SheetRef := ⟨.int s.sheetId, s.title⟩

namespace SheetStore

/-- The number of the first sheet of a title. -/
def idOf? (store : SheetStore) (title : String) : Option Int :=
  (store.sheets.find? (·.title.isText title)).map Sheet.sheetId

/-- The store with a question noted. -/
def note (call : SheetCall) (store : SheetStore) : SheetStore :=
  { store with calls := call :: store.calls }

/-- The store with a sheet added at the end. -/
def add (title : Json) (store : SheetStore) : SheetStore :=
  { store with sheets := store.sheets ++ [⟨store.nextId, title⟩], nextId := store.nextId + 1 }

/-- The directory of a store. -/
def directory : SheetDirectory (StateM SheetStore) where
  lookup id title := fun store =>
    ((store.idOf? title).map .int, store.note (.lookup id title))
  list id := fun store => (store.sheets.map Sheet.ref, store.note (.list id))
  create id title := fun store =>
    (Sheet.ref ⟨store.nextId, title⟩, (store.note (.create id title)).add title)

/-- Compile a draft against a store. -/
def compile (d : PivotDraft) (store : SheetStore) : Except PivotError PivotTable × SheetStore :=
  (compileDraft directory d).run store

end SheetStore

end WorkspaceTools
