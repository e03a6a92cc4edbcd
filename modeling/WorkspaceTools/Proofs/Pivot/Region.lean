import Mathlib
import WorkspaceTools.Proofs.Grid.Grammar
import WorkspaceTools.Proofs.Pivot.Checked

/-!
# The source region of a table

The region that a table is made from has cells, and its bounds count from zero, but for one spelling of its
first row.

* `CellRange.exists_refs_of_read?`: a range that was read has the bounds of two references, and their columns
  are not negative (`CellRef.column_nonneg`).
* `CellRange.BeginsInRowZero` holds of a range whose first row is written as zero. Rows are written from 1
  on, but zero is read as well, and then the region begins one row above the sheet
  (`CellRange.startRow_of_read?`).
* `compileSpec_region`: for every directory of sheets, the region of a compiled table is one of the sheet
  exactly if its range does not begin so. What every outcome of a directory satisfies is a `SatisfiesM`, for which
  the library is imported whole: no part of it has that predicate.
-/

namespace WorkspaceTools

open Number Text

/-! ## Ranges -/

namespace CellRange

/-- The first row of a range is written as zero: with digits, each of which is a zero of some script. -/
def BeginsInRowZero (range : String) : Prop :=
  ∃ ref, CellRef.read? (cutAt ':' (cellsOf range)).1 = some ref ∧ ref.digits ≠ [] ∧
    ∀ c ∈ ref.digits, digitValue? c = some 0

/-- A region of a sheet: it has cells, and its bounds count from zero. -/
structure IsRegion (r : CellRange) : Prop where
  rows : 0 ≤ r.startRow ∧ r.startRow < r.endRow
  columns : 0 ≤ r.startColumn ∧ r.startColumn < r.endColumn

/-- **A range that was read** has the bounds of two references, the first of which stands in front. -/
theorem exists_refs_of_read? {s : String} {r : CellRange} (h : read? s = .ok r) :
    ∃ first last cs startRow endRow, CellRef.read? (cutAt ':' (cellsOf s)).1 = some first ∧
      CellRef.read? cs = some last ∧ first.row? = .ok startRow ∧ last.row? = .ok endRow ∧
      r.startColumn = first.column ∧ r.startRow = (startRow.map (· - 1)).getD 0 ∧
      r.endRow = endRow.getD openEndRow := by
  obtain ⟨title, htitle⟩ := exists_read?_eq_ofCells s
  rw [htitle, ofCells] at h
  simp only at h
  split at h
  · rename_i first last hfirst hlast
    obtain ⟨startRow, hstart, h⟩ := bind_eq_ok.1 h
    obtain ⟨endRow, hend, h⟩ := bind_eq_ok.1 h
    obtain rfl := Except.ok.inj h
    exact ⟨first, last, _, startRow, endRow, hfirst, hlast, hstart, hend, rfl, rfl, rfl⟩
  · cases h

/-- The first row of a range that was read is one above the sheet if it is written as zero, and otherwise
one of the sheet. -/
theorem startRow_of_read? {s : String} {r : CellRange} (h : read? s = .ok r) :
    (BeginsInRowZero s → r.startRow = -1) ∧ (¬ BeginsInRowZero s → 0 ≤ r.startRow) := by
  obtain ⟨first, -, -, row, -, hfirst, -, hrow, -, -, hstart, -⟩ := exists_refs_of_read? h
  have hdigits := (CellRef.eq_text_of_read? hfirst).1.digits
  have hzero : BeginsInRowZero s ↔ first.digits ≠ [] ∧ natOfDigits first.digits = 0 := by
    rw [natOfDigits_eq_zero_iff hdigits, BeginsInRowZero, hfirst]
    constructor
    · rintro ⟨ref, href, hall⟩
      obtain rfl := Option.some.inj href
      exact hall
    · exact fun hall => ⟨first, rfl, hall⟩
  rw [hstart, hzero, CellRef.row?_eq_ok hrow]
  by_cases hne : first.digits = []
  · simp [hne]
  · simp only [hne, if_false, Option.map_some, Option.getD_some, ne_eq, not_false_eq_true, true_and]
    omega

/-- The other bounds of a range that was read and has cells. -/
theorem bounds_of_read? {s : String} {r : CellRange} (h : read? s = .ok r) (hr : r.isReversed = false) :
    r.startRow < r.endRow ∧ 0 ≤ r.endRow ∧ 0 ≤ r.startColumn ∧ r.startColumn < r.endColumn := by
  obtain ⟨first, last, _, _, row, hfirst, -, -, hrow, hcolumn, -, hend⟩ := exists_refs_of_read? h
  have hnonneg := CellRef.column_nonneg (CellRef.eq_text_of_read? hfirst).1
  have hrow : 0 ≤ r.endRow := by
    rw [hend, CellRef.row?_eq_ok hrow]
    by_cases hne : last.digits = []
    · rw [if_pos hne]
      decide
    · rw [if_neg hne]
      exact Int.natCast_nonneg _
  simp only [isReversed, Bool.or_eq_false_iff, decide_eq_false_iff_not, Int.not_le] at hr
  exact ⟨hr.2, hrow, hcolumn ▸ hnonneg, hr.1⟩

end CellRange

/-! ## Tables -/

theorem sourceRange_eq_ok {s : String} {r : CellRange} (h : sourceRange s = .ok r) :
    CellRange.read? s = .ok r ∧ r.isReversed = false := by
  obtain ⟨range, hread, h⟩ := bind_eq_ok.1 h
  rw [mapError_eq_ok] at hread
  split at h
  · cases h
  · split at h
    · cases h
    · rename_i hr
      obtain rfl := Except.ok.inj h
      exact ⟨hread, Bool.eq_false_iff.2 hr⟩

section

variable {m : Type → Type} [Monad m] [LawfulMonad m] (sheets : SheetDirectory m)

/-- Whatever a directory does, a table has the range and the compiled parts of its draft. -/
theorem compileDraft_made (d : PivotDraft) :
    SatisfiesM (fun r => ∀ table, r = .ok table →
      d.range = .ok table.source ∧ d.compileParts = .ok table.parts) (compileDraft sheets d).run := by
  rw [run_compileDraft]
  cases hrange : d.range with
  | error e => exact .pure (by rintro table ⟨⟩)
  | ok range =>
    refine .bind (p := fun _ => True) (.of_true fun _ => trivial) fun found _ => ?_
    cases found with
    | error e => exact .pure (by rintro table ⟨⟩)
    | ok sheet =>
      simp only [placeDraft]
      cases d.compileParts with
      | error e => exact .pure (by rintro table ⟨⟩)
      | ok parts =>
        refine .map_pre (.of_true fun place table htable => ?_)
        obtain ⟨layout, -, rfl⟩ := map_eq_ok.1 htable
        exact ⟨rfl, rfl⟩

theorem compileDraft_source (d : PivotDraft) :
    SatisfiesM (fun r => ∀ table, r = .ok table → d.range = .ok table.source)
      (compileDraft sheets d).run :=
  (compileDraft_made sheets d).imp fun hmade table htable => (hmade table htable).1

/-- **The source region of a table**, for every directory of sheets: it has cells and its bounds count from
zero, unless the first row of the source range is written as zero. Then the region begins with row -1, and
that is its only bound below zero. -/
theorem compileSpec_region (spec : PivotSpec) :
    SatisfiesM (fun r => ∀ table, r = .ok table →
      (table.source.IsRegion ↔ ¬ CellRange.BeginsInRowZero spec.sourceRange) ∧
      (CellRange.BeginsInRowZero spec.sourceRange → table.source.startRow = -1 ∧
        0 ≤ table.source.endRow ∧ 0 ≤ table.source.startColumn ∧
        table.source.startColumn < table.source.endColumn)) (compileSpec sheets spec).run := by
  apply (compileDraft_source sheets spec.draft).imp
  intro r hsource table htable
  obtain ⟨hread, hr⟩ := sourceRange_eq_ok (hsource table htable)
  obtain ⟨hzero, hrow⟩ := CellRange.startRow_of_read? hread
  obtain ⟨hrows, hend, hcolumn, hcolumns⟩ := CellRange.bounds_of_read? hread hr
  refine ⟨⟨?_, ?_⟩, ?_⟩
  · intro hregion hbegins
    have hstart := hregion.rows.1
    rw [hzero hbegins] at hstart
    omega
  · intro hbegins
    exact ⟨⟨hrow hbegins, hrows⟩, hcolumn, hcolumns⟩
  · intro hbegins
    exact ⟨hzero hbegins, hend, hcolumn, hcolumns⟩

end

/-- A specification whose range begins with row 0. -/
def rowZeroDocument : Json :=
  .obj [("spreadsheet_id", .str "book"), ("source_range", .str "Data!A0:B5"),
    ("rows", .arr [.obj [("source_column", .str "A")]]),
    ("values", .arr [.obj [("source_column", .str "B"), ("summarize_function", .str "SUM")]])]

/-- What the document says. -/
def rowZeroSpec : PivotSpec where
  spreadsheetId := "book"
  sourceRange := "Data!A0:B5"
  rows := some [{ sourceColumn := .str "A" }]
  values := [{ sourceColumn := some (.str "B"), aggregation := .sum }]

/-- A spreadsheet with a sheet for it. -/
def dataStore : SheetStore := ⟨[⟨4, .str "Data"⟩], 5, []⟩

/-- It is accepted, and its table begins above the sheet. -/
theorem compileSpec_region_rowZero :
    PivotSpec.check rowZeroDocument = .ok rowZeroSpec ∧ CellRange.BeginsInRowZero rowZeroSpec.sourceRange ∧
      ∃ table, ((compileSpec SheetStore.directory rowZeroSpec).run dataStore).1 = .ok table ∧
        table.source.startRow = -1 ∧ ¬ table.source.IsRegion := by
  have hzero : CellRange.BeginsInRowZero rowZeroSpec.sourceRange :=
    ⟨⟨['A'], ['0']⟩, rfl, List.cons_ne_nil _ _, List.forall_mem_singleton.2 rfl⟩
  obtain ⟨table, htable⟩ :
      ∃ table, ((compileSpec SheetStore.directory rowZeroSpec).run dataStore).1 = .ok table := ⟨_, rfl⟩
  have hregion := SatisfiesM_StateT_eq.1 (compileSpec_region SheetStore.directory rowZeroSpec) dataStore
  rw [SatisfiesM_Id_eq] at hregion
  obtain ⟨hiff, hbounds⟩ := hregion table htable
  exact ⟨rfl, hzero, table, htable, (hbounds hzero).1, fun h => hiff.1 h hzero⟩

end WorkspaceTools
