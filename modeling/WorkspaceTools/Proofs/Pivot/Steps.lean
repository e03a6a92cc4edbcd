import WorkspaceTools.Pivot.Table

/-!
# The steps of a compilation

A table is compiled in a fixed order, whatever the directory of sheets does: the range, the source
sheet, the parts, the place, the layout. `run_compileDraft` and `run_resolveSheet` write the two
computations out as sequences of questions to the directory with pure steps between them.
-/

namespace WorkspaceTools

variable {m : Type → Type} [Monad m] [LawfulMonad m] (sheets : SheetDirectory m)

/-- The number of the first of the listed sheets. -/
def firstSheet (spreadsheetId : Json) : List SheetRef → Except PivotError Json
  | [] => .error (.sheetNotFound spreadsheetId none)
  | first :: _ => .ok first.sheetId

/-- The number that was found for a title. -/
def foundSheet (spreadsheetId : Json) (title : String) : Option Json → Except PivotError Json
  | none => .error (.sheetNotFound spreadsheetId (some title))
  | some id => .ok id

/-- A question to the directory and what is done with its answer. -/
theorem run_ask_bind {α β : Type} (x : m α) (f : α → ExceptT PivotError m β) :
    ((liftM x : ExceptT PivotError m α) >>= f).run = x >>= fun a => (f a).run :=
  ExceptT.run_bind_lift x f

theorem run_liftExcept_bind {α β : Type} (r : Except PivotError α)
    (f : α → ExceptT PivotError m β) :
    ((compileDraft.liftExcept (m := m) r) >>= f).run =
      match r with
      | .error e => pure (.error e)
      | .ok a => (f a).run := by
  rw [compileDraft.liftExcept, ExceptT.run_bind, ExceptT.run_mk, pure_bind]
  cases r <;> rfl

/-- One question to the directory finds the source sheet. -/
theorem run_resolveSheet (id : Json) (title : String) :
    (resolveSheet sheets id title).run =
      if title = "" then firstSheet id <$> sheets.list id
      else foundSheet id title <$> sheets.lookup id title := by
  unfold resolveSheet
  split
  · rw [run_ask_bind, map_eq_pure_bind]
    congr 1
    funext found
    cases found <;> rfl
  · rw [run_ask_bind, map_eq_pure_bind]
    congr 1
    funext found
    cases found <;> rfl

/-- The table that a draft and its place make, unless the layout is none. -/
def tableOf (d : PivotDraft) (range : CellRange) (sheet : Json) (parts : CompiledParts)
    (place : Json × Option Json) : Except PivotError PivotTable :=
  (compileLayoutPart d.valueLayout).map fun layout =>
    ⟨sheet, range, parts.rows, parts.columns, parts.values, parts.filters, layout, place.1, place.2⟩

theorem tableOf_eq_ok {d : PivotDraft} {range : CellRange} {sheet : Json} {parts : CompiledParts}
    {place : Json × Option Json} {table : PivotTable}
    (h : tableOf d range sheet parts place = .ok table) :
    table.sourceSheet = sheet ∧ table.destinationSheet = place.1 := by
  unfold tableOf at h
  cases hl : compileLayoutPart d.valueLayout with
  | error e => rw [hl] at h; cases h
  | ok layout => rw [hl] at h; cases h; exact ⟨rfl, rfl⟩

/-- What is done with a draft once its source sheet is known. -/
def placeDraft (d : PivotDraft) (range : CellRange) (sheet : Json) : m (Except PivotError PivotTable) :=
  match d.compileParts with
  | .error e => pure (.error e)
  | .ok parts => tableOf d range sheet parts <$> placeTable sheets d

/-- **The order of a compilation.** -/
theorem run_compileDraft (d : PivotDraft) :
    (compileDraft sheets d).run =
      match d.range with
      | .error e => pure (.error e)
      | .ok range =>
        (resolveSheet sheets d.spreadsheetId range.sheetTitle).run >>= fun found =>
          match found with
          | .error e => pure (.error e)
          | .ok sheet => placeDraft sheets d range sheet := by
  unfold compileDraft
  rw [run_liftExcept_bind]
  cases d.range with
  | error e => rfl
  | ok range =>
    simp only
    rw [ExceptT.run_bind]
    congr 1
    funext found
    cases found with
    | error e => rfl
    | ok sheet =>
      simp only [placeDraft]
      rw [run_liftExcept_bind]
      cases d.compileParts with
      | error e => rfl
      | ok parts =>
        simp only
        rw [run_ask_bind, map_eq_pure_bind]
        congr 1
        funext place
        rw [run_liftExcept_bind, tableOf]
        cases compileLayoutPart d.valueLayout <;> rfl

end WorkspaceTools
