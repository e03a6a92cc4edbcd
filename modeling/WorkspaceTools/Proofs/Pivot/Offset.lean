import WorkspaceTools.Proofs.Grid.ColumnOrder
import WorkspaceTools.Proofs.Pivot.Checked
import WorkspaceTools.Proofs.Pivot.Region

/-!
# The offsets of columns that are given by letters

In the source range letters name columns of the sheet. In a grouping, a value or a filter they stand for an offset,
and offsets are counted from the first column of the source range.

* `NamesSheetColumn`: letters name a column of the sheet, and lead to its index
  (`NamesSheetColumn.resolveColumn_eq`).
* `CompiledParts.OffsetsFrom`: the offsets of the columns of a range that are given by letters are counted from a
  base.
* `CompiledParts.NamesColumns.offsetsFrom_iff`: in compiled parts they are counted from column A, and so from
  another base only if no such column is given.
* `compileSpec_offsets` says so of the first column of the source range, for all checked specifications.
-/

namespace WorkspaceTools

open Number Text

/-! ## Letters -/

/-- The letters name a column of the sheet, in capitals or not. -/
def NamesSheetColumn (v : Json) (index : Nat) : Prop :=
  ∃ s, v = .str s ∧ IsColumn v ∧ columnName? (.int index) = .ok s.toUpper

theorem eq_of_columnName?_eq {i j : Nat} (h : columnName? (.int i) = columnName? (.int j)) : i = j := by
  have hletters : columnLetters i = columnLetters j := String.ofList_injective (Except.ok.inj h)
  have hvalue := lettersValue_columnLetters i
  rw [hletters, lettersValue_columnLetters] at hvalue
  omega

/-- Letters lead to the column that they name. -/
theorem NamesSheetColumn.resolveColumn_eq {v : Json} {index : Nat} (h : NamesSheetColumn v index) :
    resolveColumn v = .ok index := by
  obtain ⟨s, rfl, hs, hname⟩ := h
  obtain ⟨i, -, hi, hname'⟩ := exists_columnIndex hs
  obtain rfl := eq_of_columnName?_eq (hname.trans hname'.symm)
  exact hi

/-- The column is given by letters and is one of the range. -/
def CellRange.HasLetters (range : CellRange) (column : Json) : Prop :=
  ∃ i : Nat, NamesSheetColumn column i ∧ range.startColumn ≤ i ∧ i < range.endColumn

/-! ## Offsets -/

/-- If the column is given by letters and is one of the range, then the member of the name is its offset from the
base. -/
def OffsetFrom (base : Int) (range : CellRange) (name : String) (column part : Json) : Prop :=
  ∀ i : Nat, NamesSheetColumn column i → range.startColumn ≤ i → i < range.endColumn →
    part.member? name = some (.int (i - base))

/-- The columns of the range that are given by letters have offsets from the base, part by part. -/
structure CompiledParts.OffsetsFrom (parts : CompiledParts) (base : Int) (range : CellRange) (spec : PivotSpec) :
    Prop where
  rows : List.Forall₂ (fun g => OffsetFrom base range "sourceColumnOffset" g.sourceColumn)
    (spec.rows.getD []) parts.rows
  columns : List.Forall₂ (fun g => OffsetFrom base range "sourceColumnOffset" g.sourceColumn)
    (spec.columns.getD []) parts.columns
  values : List.Forall₂ (fun v part => ∀ c, v.sourceColumn = some c → OffsetFrom base range "sourceColumnOffset" c part)
    spec.values parts.values
  filters : List.Forall₂ (fun f => OffsetFrom base range "columnOffsetIndex" f.sourceColumn)
    (spec.filters.getD []) parts.filters

/-- Some column of a specification is given by letters and is one of the range. -/
inductive PivotSpec.HasLettersIn (spec : PivotSpec) (range : CellRange) : Prop
  | row {g : PivotGroup} (hg : g ∈ spec.rows.getD []) (h : range.HasLetters g.sourceColumn)
  | column {g : PivotGroup} (hg : g ∈ spec.columns.getD []) (h : range.HasLetters g.sourceColumn)
  | value {v : PivotValue} {c : Json} (hv : v ∈ spec.values) (hc : v.sourceColumn = some c) (h : range.HasLetters c)
  | filter {f : PivotFilter} (hf : f ∈ spec.filters.getD []) (h : range.HasLetters f.sourceColumn)

/-- A part that carries the index of its column has an offset from column A, and from another base only if there is
nothing to count. -/
theorem NamesColumn.offsetFrom_iff {name : String} {column part : Json} (h : NamesColumn name column part)
    (base : Int) (range : CellRange) :
    OffsetFrom base range name column part ↔ (range.HasLetters column → base = 0) := by
  obtain ⟨n, hn, hmember⟩ := h
  have hindex {i : Nat} (hi : NamesSheetColumn column i) : n = i := by
    rw [hi.resolveColumn_eq, Except.ok.injEq] at hn
    omega
  constructor
  · rintro hoffset ⟨i, hi, hstart, hend⟩
    have hcounted := hoffset i hi hstart hend
    rw [hmember, hindex hi, Option.some.injEq, Json.int.injEq] at hcounted
    omega
  · intro hbase i hi hstart hend
    rw [hmember, hindex hi, hbase ⟨i, hi, hstart, hend⟩, sub_zero]

theorem PivotValue.NamesSource.offsetFrom_iff {v : PivotValue} {part : Json} (hv : v.HasSource)
    (h : v.NamesSource part) (base : Int) (range : CellRange) :
    (∀ c, v.sourceColumn = some c → OffsetFrom base range "sourceColumnOffset" c part) ↔
      ∀ c, v.sourceColumn = some c → range.HasLetters c → base = 0 := by
  refine forall₂_congr fun c hc => ?_
  cases h with
  | column hc' hnames =>
    obtain rfl := Option.some.inj (hc.symm.trans hc')
    exact hnames.offsetFrom_iff base range
  | formula hf =>
    -- a value with a formula has no column
    cases hv with
    | column _ hnone => cases hnone.symm.trans hf
    | formula hnone => cases hnone.symm.trans hc

/-- **Offsets are counted from column A.** Counted from another base, they are none of a column that is given by
letters. -/
theorem CompiledParts.NamesColumns.offsetsFrom_iff {spec : PivotSpec} {parts : CompiledParts}
    (h : parts.NamesColumns spec) (hsound : spec.IsSound) (base : Int) (range : CellRange) :
    parts.OffsetsFrom base range spec ↔ base = 0 ∨ ¬ spec.HasLettersIn range := by
  have hrows := forall₂_iff_of_forall₂ h.rows fun _ _ hpart => hpart.offsetFrom_iff base range
  have hcolumns := forall₂_iff_of_forall₂ h.columns fun _ _ hpart => hpart.offsetFrom_iff base range
  have hvalues := forall₂_iff_of_forall₂ ((List.forall₂_and_left _ _).2 ⟨hsound.values, h.values⟩)
    fun _ _ hpart => hpart.2.offsetFrom_iff hpart.1 base range
  have hfilters := forall₂_iff_of_forall₂ h.filters fun _ _ hpart => hpart.offsetFrom_iff base range
  rw [or_iff_not_imp_right, not_not]
  constructor
  · rintro ⟨hr, hc, hv, hf⟩ (⟨hg, hin⟩ | ⟨hg, hin⟩ | ⟨hmem, hcolumn, hin⟩ | ⟨hmem, hin⟩)
    · exact hrows.1 hr _ hg hin
    · exact hcolumns.1 hc _ hg hin
    · exact hvalues.1 hv _ hmem _ hcolumn hin
    · exact hfilters.1 hf _ hmem hin
  · intro hbase
    exact ⟨hrows.2 fun _ hg hin => hbase (.row hg hin), hcolumns.2 fun _ hg hin => hbase (.column hg hin),
      hvalues.2 fun _ hmem _ hcolumn hin => hbase (.value hmem hcolumn hin),
      hfilters.2 fun _ hmem hin => hbase (.filter hmem hin)⟩

/-! ## Tables -/

section

variable {m : Type → Type} [Monad m] [LawfulMonad m] (sheets : SheetDirectory m)

/-- **The offsets of a checked specification**, for every directory of sheets. The parts of the specification compile,
and a table that is made has them and the source range. Letters are counted from column A. Counted from the first
column of the source range they are exactly if that is column A, or if no column of the range is given by letters. -/
theorem compileSpec_offsets {v : Json} {spec : PivotSpec} (h : PivotSpec.check v = .ok spec) :
    ∃ parts, spec.draft.compileParts = .ok parts ∧
      (∀ range, sourceRange spec.sourceRange = .ok range →
        parts.OffsetsFrom 0 range spec ∧
        (parts.OffsetsFrom range.startColumn range spec ↔ range.startColumn = 0 ∨ ¬ spec.HasLettersIn range)) ∧
      SatisfiesM (fun r => ∀ table, r = .ok table →
        sourceRange spec.sourceRange = .ok table.source ∧ table.parts = parts) (compileSpec sheets spec).run := by
  have hsound := PivotSpec.ensures_check v spec h
  obtain ⟨parts, hparts, hnames⟩ := hsound.compileParts
  have hoffsets := hnames.offsetsFrom_iff hsound
  refine ⟨parts, hparts, fun range _ => ⟨(hoffsets 0 range).2 (.inl rfl), hoffsets range.startColumn range⟩,
    (compileDraft_made sheets spec.draft).imp fun hmade table htable => ?_⟩
  obtain ⟨hrange, hmadeParts⟩ := hmade table htable
  exact ⟨hrange, Except.ok.inj (hmadeParts.symm.trans hparts)⟩

end

/-- A specification of a range that begins with column C. -/
def shiftedDocument : Json :=
  .obj [("spreadsheet_id", .str "book"), ("source_range", .str "Data!C1:F10"),
    ("rows", .arr [.obj [("source_column", .str "D")]]),
    ("values", .arr [.obj [("source_column", .str "E"), ("summarize_function", .str "SUM")]])]

/-- What the document says. -/
def shiftedSpec : PivotSpec where
  spreadsheetId := "book"
  sourceRange := "Data!C1:F10"
  rows := some [{ sourceColumn := .str "D" }]
  values := [{ sourceColumn := some (.str "E"), aggregation := .sum }]

/-- Its columns D and E are counted from column A, though the range begins with column C. -/
theorem compileSpec_offsets_shifted :
    PivotSpec.check shiftedDocument = .ok shiftedSpec ∧
      ∃ table, ((compileSpec SheetStore.directory shiftedSpec).run dataStore).1 = .ok table ∧
        table.source = ⟨"Data", 2, 0, 6, 10⟩ ∧ table.parts.OffsetsFrom 0 table.source shiftedSpec ∧
        ¬ table.parts.OffsetsFrom 2 table.source shiftedSpec := by
  have hcheck : PivotSpec.check shiftedDocument = .ok shiftedSpec := rfl
  have hrange : sourceRange shiftedSpec.sourceRange = .ok ⟨"Data", 2, 0, 6, 10⟩ := rfl
  obtain ⟨parts, -, hoffsets, hmade⟩ := compileSpec_offsets SheetStore.directory hcheck
  obtain ⟨hzero, hiff⟩ := hoffsets _ hrange
  have hmade := SatisfiesM_StateT_eq.1 hmade dataStore
  rw [SatisfiesM_Id_eq] at hmade
  have hD : NamesSheetColumn (.str "D") 3 := by
    have hcolumn : IsColumn (.str "D") := by simp [IsColumn, isAsciiLetter]
    obtain ⟨i, -, hi, hname⟩ := exists_columnIndex hcolumn
    obtain rfl : 3 = i := Int.ofNat.inj (Except.ok.inj hi)
    exact ⟨"D", rfl, hcolumn, hname⟩
  have hletters : shiftedSpec.HasLettersIn ⟨"Data", 2, 0, 6, 10⟩ :=
    .row (List.mem_singleton.2 rfl) ⟨3, hD, by decide, by decide⟩
  obtain ⟨table, htable⟩ :
      ∃ table, ((compileSpec SheetStore.directory shiftedSpec).run dataStore).1 = .ok table := ⟨_, rfl⟩
  obtain ⟨hsource, hparts⟩ := hmade table htable
  have hsource : table.source = ⟨"Data", 2, 0, 6, 10⟩ := Except.ok.inj (hsource.symm.trans hrange)
  refine ⟨hcheck, table, htable, hsource, ?_⟩
  rw [hparts, hsource]
  exact ⟨hzero, fun hshifted => (hiff.1 hshifted).elim (by decide) (absurd hletters)⟩

end WorkspaceTools
