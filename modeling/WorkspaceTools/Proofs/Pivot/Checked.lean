import WorkspaceTools.Pivot.Store
import WorkspaceTools.Proofs.Check.Field
import WorkspaceTools.Proofs.Grid.Column
import WorkspaceTools.Proofs.Pivot.Steps

/-!
# Checked specifications compile

What is checked of a specification is all that its parts need to be compiled.

* `PivotSpec.ensures_check`: the columns of a checked specification are references to columns, a value has
  one source, and there are a grouping and a value (`PivotSpec.IsSound`).
* `PivotSpec.IsSound.compileParts`: the parts of such a specification compile, and they name its columns by
  their indices (`CompiledParts.NamesColumns`).
* `compileSpec_failsOnSource`: so a compilation fails exactly on its source, as `SourceFault` says.
-/

namespace WorkspaceTools

/-! ## What is checked -/

theorem ensures_checkColumn : Ensures checkColumn IsColumn := by
  intro v w h
  rcases List.mem_cons.1 (mem_of_firstOf h) with hint | hstr
  · obtain ⟨i, hi, rfl⟩ := map_eq_ok.1 (under_eq_ok.1 hint.symm)
    have hle : (0 : Int) ≤ i := of_decide_eq_true (ensure_eq_ok.1 hi).2
    exact hle
  · obtain ⟨s, hs, rfl⟩ := map_eq_ok.1 (under_eq_ok.1 (List.mem_singleton.1 hstr).symm)
    have hletters := (ensure_eq_ok.1 hs).2
    rw [Bool.and_eq_true, bne_iff_ne, List.all_eq_true] at hletters
    exact hletters

/-- A value has one source: a reference to a column, or a formula. -/
inductive PivotValue.HasSource (v : PivotValue) : Prop
  | column {c : Json} (hv : v.sourceColumn = some c) (hf : v.formula = none) (hc : IsColumn c)
  | formula {f : String} (hv : v.sourceColumn = none) (hf : v.formula = some f)

/-- What the parts of a specification need to be compiled. -/
structure PivotSpec.IsSound (spec : PivotSpec) : Prop where
  rows : ∀ g ∈ spec.rows.getD [], IsColumn g.sourceColumn
  columns : ∀ g ∈ spec.columns.getD [], IsColumn g.sourceColumn
  grouped : spec.rows.getD [] ≠ [] ∨ spec.columns.getD [] ≠ []
  valued : spec.values ≠ []
  values : ∀ v ∈ spec.values, v.HasSource
  filters : ∀ f ∈ spec.filters.getD [], IsColumn f.sourceColumn

theorem PivotGroup.ensures_check : Ensures PivotGroup.check fun g => IsColumn g.sourceColumn := by
  intro v g h
  obtain ⟨ms, -, h⟩ := checkObject_eq_ok.1 h
  split at h
  · rename_i hcolumn _ _ _ _ _ _
    cases h
    exact ensures_checkColumn.required hcolumn
  · cases h

theorem PivotFilter.ensures_check : Ensures PivotFilter.check fun f => IsColumn f.sourceColumn := by
  intro v f h
  obtain ⟨ms, -, h⟩ := checkObject_eq_ok.1 h
  split at h
  · rename_i hcolumn _ _
    cases h
    exact ensures_checkColumn.required hcolumn
  · cases h

theorem PivotValue.ensures_check : Ensures PivotValue.check PivotValue.HasSource := by
  intro v w h
  obtain ⟨ms, -, h⟩ := checkObject_eq_ok.1 h
  split at h
  · rename_i column formula aggregation name percent hcolumn _ _ _ _
    have hc := ensures_checkColumn.nullable.optional (by rintro c ⟨⟩) hcolumn
    simp only at h
    split at h
    · cases h
    · rename_i hsource
      cases h
      -- of the four pairs of sources only those of one remain
      cases column with
      | none =>
        cases formula with
        | none => cases hsource
        | some f => exact .formula rfl rfl
      | some c =>
        cases formula with
        | none => exact .column rfl rfl (hc c rfl)
        | some f => cases hsource
  · cases h

/-- Whatever is checked of a grouping holds of all groupings of a checked specification. -/
theorem PivotSpec.ensures_groups {P : PivotGroup → Prop} (h : Ensures PivotGroup.check P) :
    Ensures PivotSpec.check fun spec => (∀ g ∈ spec.rows.getD [], P g) ∧ ∀ g ∈ spec.columns.getD [], P g := by
  intro v spec hspec
  obtain ⟨ms, -, hspec⟩ := checkObject_eq_ok.1 hspec
  split at hspec
  · rename_i hrows hcolumns _ _ _ _
    split at hspec
    · cases hspec
    · cases hspec
      exact ⟨h.optionalList hrows, h.optionalList hcolumns⟩
  · cases hspec

/-- **What is checked is sound.** -/
theorem PivotSpec.ensures_check : Ensures PivotSpec.check PivotSpec.IsSound := by
  intro v spec h
  obtain ⟨hrows, hcolumns⟩ := PivotSpec.ensures_groups PivotGroup.ensures_check v spec h
  obtain ⟨ms, -, h⟩ := checkObject_eq_ok.1 h
  split at h
  · rename_i hvalues hfilters _ _
    split at h
    · cases h
    · rename_i hgrouped
      cases h
      obtain ⟨hvalued, hvalues⟩ := PivotValue.ensures_check.nonemptyList.required hvalues
      refine ⟨hrows, hcolumns, ?_, hvalued, hvalues, PivotFilter.ensures_check.optionalList hfilters⟩
      by_contra hnone
      rw [not_or, not_not, not_not] at hnone
      exact hgrouped (by simp [hnone])
  · cases h

/-! ## Compiled parts -/

/-- The member of the name is the index of the column. -/
def NamesColumn (name : String) (column part : Json) : Prop :=
  ∃ n : Nat, resolveColumn column = .ok n ∧ part.member? name = some (.int n)

/-- A compiled value names the column of the value, or has its formula and names no column. -/
inductive PivotValue.NamesSource (v : PivotValue) (part : Json) : Prop
  | column {c : Json} (hv : v.sourceColumn = some c) (h : NamesColumn "sourceColumnOffset" c part)
  | formula {f : String} (hv : v.formula = some f) (hf : part.member? "formula" = some (.str f))
    (h : part.member? "sourceColumnOffset" = none)

/-- Compiled parts name the columns of a specification by their indices, part by part. -/
structure CompiledParts.NamesColumns (parts : CompiledParts) (spec : PivotSpec) : Prop where
  rows : List.Forall₂ (fun g => NamesColumn "sourceColumnOffset" g.sourceColumn)
    (spec.rows.getD []) parts.rows
  columns : List.Forall₂ (fun g => NamesColumn "sourceColumnOffset" g.sourceColumn)
    (spec.columns.getD []) parts.columns
  values : List.Forall₂ PivotValue.NamesSource spec.values parts.values
  filters : List.Forall₂ (fun f => NamesColumn "columnOffsetIndex" f.sourceColumn)
    (spec.filters.getD []) parts.filters

/-- The compiled parts of a table. -/
def PivotTable.parts (t : PivotTable) : CompiledParts := ⟨t.rows, t.columns, t.values, t.filters⟩

theorem compileColumn_of_resolveColumn {v : Json} {index : Int} (h : resolveColumn v = .ok index) :
    compileColumn v = .ok index := by
  rw [compileColumn, h, mapError_ok]

theorem PivotGroup.compile_of_isColumn {g : PivotGroup} (h : IsColumn g.sourceColumn) :
    ∃ part, g.compile = .ok part ∧ NamesColumn "sourceColumnOffset" g.sourceColumn part := by
  obtain ⟨n, hn⟩ := resolveColumn_of_isColumn h
  exact ⟨_, by rw [PivotGroup.compile, compileColumn_of_resolveColumn hn]; rfl, n, hn, rfl⟩

theorem PivotFilter.compile_of_isColumn {f : PivotFilter} (h : IsColumn f.sourceColumn) :
    ∃ part, f.compile = .ok part ∧ NamesColumn "columnOffsetIndex" f.sourceColumn part := by
  obtain ⟨n, hn⟩ := resolveColumn_of_isColumn h
  exact ⟨_, by rw [PivotFilter.compile, compileColumn_of_resolveColumn hn]; rfl, n, hn, rfl⟩

theorem PivotValue.compile_of_hasSource {v : PivotValue} (h : v.HasSource) :
    ∃ part, v.compile = .ok part ∧ v.NamesSource part := by
  cases h with
  | column hv hf hc =>
    obtain ⟨n, hn⟩ := resolveColumn_of_isColumn hc
    have hsource : v.source = .ok ("sourceColumnOffset", .int n) := by
      rw [PivotValue.source, hv, hf]
      simp only [compileColumn_of_resolveColumn hn, map_ok]
    refine ⟨_, by rw [PivotValue.compile, hsource]; rfl, .column hv ⟨n, hn, ?_⟩⟩
    rfl
  | formula hv hf =>
    refine ⟨_, by rw [PivotValue.compile, PivotValue.source, hv, hf]; rfl, .formula hf rfl ?_⟩
    cases hname : nonempty v.name <;> cases hpercent : v.percentOf <;>
      simp [memberOf, Json.member?, Members.find?]

/-- The models of a draft compile when each of them does. -/
theorem exists_mapM_checked {α : Type} (compile : DraftPart α → Except PivotError Json)
    {R : α → Json → Prop} {models : List α}
    (h : ∀ a ∈ models, ∃ part, compile (.checked a) = .ok part ∧ R a part) :
    ∃ parts, (models.map DraftPart.checked).mapM compile = .ok parts ∧
      List.Forall₂ R models parts := by
  rw [List.mapM_map]
  exact exists_mapM_eq_ok h

/-- Related lists are empty together. -/
theorem isEmpty_eq_of_forall₂ {α β : Type} {R : α → β → Prop} {as : List α} {bs : List β}
    (h : List.Forall₂ R as bs) : bs.isEmpty = as.isEmpty := by
  cases h <;> rfl

/-- **The parts of a sound specification compile.** -/
theorem PivotSpec.IsSound.compileParts {spec : PivotSpec} (h : spec.IsSound) :
    ∃ parts, spec.draft.compileParts = .ok parts ∧ parts.NamesColumns spec := by
  obtain ⟨rows, hrows, hrowsNamed⟩ := exists_mapM_checked compileGroupPart fun g hg =>
    PivotGroup.compile_of_isColumn (h.rows g hg)
  obtain ⟨columns, hcolumns, hcolumnsNamed⟩ := exists_mapM_checked compileGroupPart fun g hg =>
    PivotGroup.compile_of_isColumn (h.columns g hg)
  obtain ⟨values, hvalues, hvaluesNamed⟩ := exists_mapM_checked compileValuePart fun v hv =>
    PivotValue.compile_of_hasSource (h.values v hv)
  obtain ⟨filters, hfilters, hfiltersNamed⟩ := exists_mapM_checked compileFilterPart fun f hf =>
    PivotFilter.compile_of_isColumn (h.filters f hf)
  have hgrouped : ¬(rows.isEmpty && columns.isEmpty) = true := by
    rw [isEmpty_eq_of_forall₂ hrowsNamed, isEmpty_eq_of_forall₂ hcolumnsNamed, Bool.and_eq_true,
      List.isEmpty_iff, List.isEmpty_iff]
    exact fun hnone => h.grouped.elim (absurd hnone.1) (absurd hnone.2)
  have hvalued : ¬(spec.values.map DraftPart.checked).isEmpty = true := by
    rw [List.isEmpty_iff, List.map_eq_nil_iff]
    exact h.valued
  refine ⟨⟨rows, columns, values, filters⟩, ?_,
    ⟨hrowsNamed, hcolumnsNamed, hvaluesNamed, hfiltersNamed⟩⟩
  simp only [PivotDraft.compileParts, PivotSpec.draft, items_ofModels, ok_bind, hrows, hcolumns,
    hgrouped, hvalued, hvalues, hfilters]
  rfl

/-! ## The source -/

/-- What is wrong with a source range: it cannot be read, it begins after the row where ranges without an
end row stop, or it has no cells. -/
inductive RangeFault (text : String) : PivotError → Prop
  | unreadable {e : RangeError} (h : CellRange.read? text = .error e) :
    RangeFault text (.ofRange e)
  | startsPastEnd {range : CellRange} (h : CellRange.read? text = .ok range)
    (hend : range.endRow = openEndRow ∧ openEndRow ≤ range.startRow) :
    RangeFault text (.grid (.startsPastEnd (range.startRow + 1) text))
  | noCells {range : CellRange} (h : CellRange.read? text = .ok range)
    (hend : ¬(range.endRow = openEndRow ∧ openEndRow ≤ range.startRow)) (hr : range.isReversed = true) :
    RangeFault text (.grid (.emptyRange text))

theorem sourceRange_eq_error_iff {s : String} {e : PivotError} :
    sourceRange s = .error e ↔ RangeFault s e := by
  cases hread : CellRange.read? s with
  | error e' =>
    rw [sourceRange, hread, mapError_error, error_bind]
    constructor
    · rintro ⟨⟩
      exact .unreadable hread
    · rintro (h | ⟨h, -⟩ | ⟨h, -, -⟩)
      · rw [hread] at h
        cases h
        rfl
      · rw [hread] at h
        cases h
      · rw [hread] at h
        cases h
  | ok range =>
    rw [sourceRange, hread, mapError_ok, ok_bind]
    constructor
    · intro h
      split at h
      · rename_i hend
        cases h
        exact .startsPastEnd hread hend
      · rename_i hend
        split at h
        · rename_i hr
          cases h
          exact .noCells hread hend hr
        · cases h
    · rintro (h | ⟨h, hend⟩ | ⟨h, hend, hr⟩)
      · rw [hread] at h
        cases h
      · rw [hread] at h
        cases h
        rw [if_pos hend]
        rfl
      · rw [hread] at h
        cases h
        rw [if_neg hend, if_pos hr]
        rfl

section

variable {σ : Type} (sheets : SheetDirectory (StateM σ)) (s : σ)

/-- The source sheet is not found: no sheets are listed, or none has the title. -/
inductive SheetFault (id : Json) (title : String) : PivotError → Prop
  | noSheets (ht : title = "") (h : (sheets.list id s).1 = []) :
    SheetFault id title (.sheetNotFound id none)
  | noSheet (ht : title ≠ "") (h : (sheets.lookup id title s).1 = none) :
    SheetFault id title (.sheetNotFound id (some title))

/-- What a compilation fails on: the source range, or the sheet that it names. -/
inductive SourceFault (spec : PivotSpec) (e : PivotError) : Prop
  | range (h : RangeFault spec.sourceRange e)
  | sheet {range : CellRange} (hr : sourceRange spec.sourceRange = .ok range)
    (h : SheetFault sheets s (.str spec.spreadsheetId) range.sheetTitle e)

theorem resolveSheet_eq_error_iff {id : Json} {title : String} {e : PivotError} :
    ((resolveSheet sheets id title).run s).1 = .error e ↔ SheetFault sheets s id title e := by
  rw [run_resolveSheet]
  split
  · rename_i ht
    change firstSheet id (sheets.list id s).1 = .error e ↔ _
    constructor
    · intro h
      cases hl : (sheets.list id s).1 with
      | nil =>
        rw [hl] at h
        cases h
        exact .noSheets ht hl
      | cons ref rest =>
        rw [hl] at h
        cases h
    · rintro (⟨-, h⟩ | ⟨hne, -⟩)
      · rw [h]
        rfl
      · exact absurd ht hne
  · rename_i ht
    change foundSheet id title (sheets.lookup id title s).1 = .error e ↔ _
    constructor
    · intro h
      cases hl : (sheets.lookup id title s).1 with
      | none =>
        rw [hl] at h
        cases h
        exact .noSheet ht hl
      | some v =>
        rw [hl] at h
        cases h
    · rintro (⟨he, -⟩ | ⟨-, h⟩)
      · exact absurd he ht
      · rw [h]
        rfl

theorem sourceFault_iff {spec : PivotSpec} {e : PivotError} :
    SourceFault sheets s spec e ↔ sourceRange spec.sourceRange = .error e ∨
      ∃ range, sourceRange spec.sourceRange = .ok range ∧
        ((resolveSheet sheets (.str spec.spreadsheetId) range.sheetTitle).run s).1 = .error e := by
  constructor
  · rintro (h | ⟨hr, h⟩)
    · exact .inl (sourceRange_eq_error_iff.2 h)
    · exact .inr ⟨_, hr, (resolveSheet_eq_error_iff sheets s).2 h⟩
  · rintro (h | ⟨range, hr, h⟩)
    · exact .range (sourceRange_eq_error_iff.1 h)
    · exact .sheet hr ((resolveSheet_eq_error_iff sheets s).1 h)

/-- A sound specification makes a table once its source sheet is found. -/
theorem placeDraft_of_isSound {spec : PivotSpec} (h : spec.IsSound) (range : CellRange) (sheet : Json) :
    ∃ table, (placeDraft sheets spec.draft range sheet s).1 = .ok table ∧
      table.parts.NamesColumns spec := by
  obtain ⟨parts, hparts, hnamed⟩ := h.compileParts
  unfold placeDraft
  rw [hparts]
  exact ⟨_, rfl, hnamed⟩

/-- **A checked specification fails on its source only.** For every directory of sheets a compilation fails
exactly as `SourceFault` says, and a table that it makes names the columns of the specification by their
indices. -/
theorem compileSpec_failsOnSource {v : Json} {spec : PivotSpec} (h : PivotSpec.check v = .ok spec) :
    (∀ e, ((compileSpec sheets spec).run s).1 = .error e ↔ SourceFault sheets s spec e) ∧
      ∀ table, ((compileSpec sheets spec).run s).1 = .ok table → table.parts.NamesColumns spec := by
  rw [compileSpec, run_compileDraft, range_draft]
  simp only [sourceFault_iff]
  cases hr : sourceRange spec.sourceRange with
  | error e' =>
    refine ⟨fun e => ?_, by rintro table ⟨⟩⟩
    change (Except.error e' : Except PivotError PivotTable) = .error e ↔ _
    simp
  | ok range =>
    simp only [Except.ok.injEq, reduceCtorEq, false_or, exists_eq_left', bind, StateT.bind]
    cases hfound : (resolveSheet sheets (.str spec.spreadsheetId) range.sheetTitle).run s with
    | mk found after =>
      rw [show spec.draft.spreadsheetId = .str spec.spreadsheetId from rfl, hfound]
      cases found with
      | error e' =>
        refine ⟨fun e => ?_, by rintro table ⟨⟩⟩
        change (Except.error e' : Except PivotError PivotTable) = .error e ↔ _
        simp
      | ok sheet =>
        obtain ⟨table, htable, hnamed⟩ :=
          placeDraft_of_isSound sheets after (PivotSpec.ensures_check v spec h) range sheet
        refine ⟨fun e => ?_, fun table' htable' => ?_⟩
        · change (placeDraft sheets spec.draft range sheet after).1 = .error e ↔ _
          rw [htable]
          simp
        · change (placeDraft sheets spec.draft range sheet after).1 = .ok table' at htable'
          rw [htable] at htable'
          cases htable'
          exact hnamed

end

/-- A specification of which the columns are given in several ways. -/
def mixedDocument : Json :=
  .obj [("spreadsheet_id", .str "book"), ("source_range", .str "Data!A1:AC9"),
    ("rows", .arr [.obj [("source_column", .str "ab")]]),
    ("columns", .arr [.obj [("source_column", .str "3")]]),
    ("values", .arr [.obj [("source_column", .bool true), ("summarize_function", .str "SUM")],
      .obj [("formula", .str "=1"), ("summarize_function", .str "MAX")]])]

/-- What the document says. -/
def mixedSpec : PivotSpec where
  spreadsheetId := "book"
  sourceRange := "Data!A1:AC9"
  rows := some [{ sourceColumn := .str "ab" }]
  columns := some [{ sourceColumn := .int 3 }]
  values := [{ sourceColumn := some (.int 1), aggregation := .sum },
    { formula := some "=1", aggregation := .max }]

/-- It compiles where there is a sheet for it, and fails on the sheet where there is none. -/
theorem compileSpec_failsOnSource_mixed :
    PivotSpec.check mixedDocument = .ok mixedSpec ∧
      ((compileSpec SheetStore.directory mixedSpec).run ⟨[], 1, []⟩).1 =
        .error (.sheetNotFound (.str "book") (some "Data")) ∧
      ∃ table, ((compileSpec SheetStore.directory mixedSpec).run ⟨[⟨4, .str "Data"⟩], 5, []⟩).1 =
        .ok table ∧ table.parts.NamesColumns mixedSpec := by
  have hcheck : PivotSpec.check mixedDocument = .ok mixedSpec := rfl
  have hempty := compileSpec_failsOnSource SheetStore.directory ⟨[], 1, []⟩ hcheck
  have hdata := compileSpec_failsOnSource SheetStore.directory ⟨[⟨4, .str "Data"⟩], 5, []⟩ hcheck
  refine ⟨hcheck, (hempty.1 _).2 (.sheet rfl (.noSheet (by decide) rfl)), _, rfl, hdata.2 _ rfl⟩

end WorkspaceTools
