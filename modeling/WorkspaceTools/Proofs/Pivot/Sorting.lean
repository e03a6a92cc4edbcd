import WorkspaceTools.Proofs.Pivot.Agreement
import WorkspaceTools.Proofs.Pivot.Region

/-!
# Groupings that are sorted by a value

A grouping may be sorted by a value of its table, which it names by its index. The index is handed on as it is, and
is not compared with the number of values.

* `PivotGroup.valuesIndex?_of_compile`: a compiled grouping carries the index of the grouping, or none.
* `PivotTable.CarriesSorts.sortsInside_iff`: the sorts of a table point to its values exactly if those of the
  specification do.
* `run_compileSpec_withoutSorts`: nothing but the compiled groupings depends on the sorts, neither whether there is
  a table nor what becomes of the sheets.
* `compileSpec_sorts` puts these together, and `compileSpec_sortsOutside` is a table that is sorted by a value it
  does not have.
-/

namespace WorkspaceTools

open Number Text

/-! ## Compiled parts -/

/-- Compiled parts are those of a specification, one by one. -/
structure CompiledParts.AreOf (parts : CompiledParts) (spec : PivotSpec) : Prop where
  rows : (spec.rows.getD []).mapM PivotGroup.compile = .ok parts.rows
  columns : (spec.columns.getD []).mapM PivotGroup.compile = .ok parts.columns
  values : spec.values.mapM PivotValue.compile = .ok parts.values
  filters : (spec.filters.getD []).mapM PivotFilter.compile = .ok parts.filters

theorem CompiledParts.areOf {spec : PivotSpec} {parts : CompiledParts} (h : spec.draft.compileParts = .ok parts) :
    parts.AreOf spec := by
  simp only [PivotDraft.compileParts, PivotSpec.draft, items_ofModels, ok_bind, List.mapM_map] at h
  obtain ⟨rows, hrows, h⟩ := bind_eq_ok.1 h
  obtain ⟨columns, hcolumns, h⟩ := bind_eq_ok.1 h
  split at h
  · cases h
  · split at h
    · cases h
    · obtain ⟨values, hvalues, h⟩ := bind_eq_ok.1 h
      obtain ⟨filters, hfilters, h⟩ := bind_eq_ok.1 h
      obtain rfl := Except.ok.inj h
      exact ⟨hrows, hcolumns, hvalues, hfilters⟩

/-! ## Sorts by value -/

/-- The index of the value that a compiled grouping is sorted by. -/
def valuesIndex? (part : Json) : Option Json := (part.member? "valueBucket").bind (Json.member? "valuesIndex")

/-- A compiled grouping carries the index of the value that the grouping is sorted by. Indices count from zero. -/
structure CarriesSort (g : PivotGroup) (part : Json) : Prop where
  nonneg : ∀ i, g.sortByValue = some i → 0 ≤ i
  index : valuesIndex? part = g.sortByValue.map .int

theorem ensures_checkSortByValue : Ensures checkSortByValue fun i => 0 ≤ i := by
  intro v i h
  obtain ⟨ms, -, h⟩ := checkObject_eq_ok.1 h
  obtain ⟨w, -, hw⟩ := required_eq_ok.1 h
  exact of_decide_eq_true (ensure_eq_ok.1 hw).2

theorem PivotGroup.ensures_sort : Ensures PivotGroup.check fun g => ∀ i, g.sortByValue = some i → 0 ≤ i := by
  intro v g h
  obtain ⟨ms, -, h⟩ := checkObject_eq_ok.1 h
  split at h
  · rename_i hsort _ _
    cases h
    exact ensures_checkSortByValue.nullable.optional (by rintro i ⟨⟩) hsort
  · cases h

/-- **A sort by value is handed on.** -/
theorem PivotGroup.valuesIndex?_of_compile {g : PivotGroup} {part : Json} (h : g.compile = .ok part) :
    valuesIndex? part = g.sortByValue.map .int := by
  obtain ⟨column, hcolumn, -⟩ := bind_eq_ok.1 h
  rw [compileColumn, mapError_eq_ok] at hcolumn
  obtain rfl := Except.ok.inj (h.symm.trans (compile_eq hcolumn))
  have hbucket : (Members.present (g.fields column)).find? "valueBucket" = g.bucket := by
    rw [Members.find?_present (by rw [names_fields]; decide) (o := g.bucket.map id) (by simp [fields]), Option.map_id,
      id]
  change ((Members.present (g.fields column)).find? "valueBucket").bind (Json.member? "valuesIndex") = _
  rw [hbucket, bucket]
  cases g.sortByValue with
  | some i => rfl
  | none => cases g.sortOrder <;> rfl

/-- All groupings that are sorted by a value name one of the specification. -/
def PivotSpec.SortsInside (spec : PivotSpec) : Prop :=
  ∀ g ∈ spec.rows.getD [] ++ spec.columns.getD [], ∀ i, g.sortByValue = some i → i < spec.values.length

/-- All compiled groupings that are sorted by a value name one of the table. -/
def PivotTable.SortsInside (t : PivotTable) : Prop :=
  ∀ part ∈ t.rows ++ t.columns, ∀ v, valuesIndex? part = some v → ∃ i : Nat, v = .int i ∧ i < t.values.length

/-- The compiled groupings of a table carry the sorts of the specification, and there is a compiled value for each of
its values. -/
structure PivotTable.CarriesSorts (t : PivotTable) (spec : PivotSpec) : Prop where
  rows : List.Forall₂ CarriesSort (spec.rows.getD []) t.rows
  columns : List.Forall₂ CarriesSort (spec.columns.getD []) t.columns
  values : t.values.length = spec.values.length

theorem carriesSorts_of_areOf {spec : PivotSpec} {table : PivotTable} {v : Json} (h : PivotSpec.check v = .ok spec)
    (hparts : table.parts.AreOf spec) : table.CarriesSorts spec := by
  obtain ⟨hrows, hcolumns⟩ := PivotSpec.ensures_groups PivotGroup.ensures_sort v spec h
  have hcarries {gs : List PivotGroup} {parts : List Json}
      (hnonneg : ∀ g ∈ gs, ∀ i, g.sortByValue = some i → 0 ≤ i) (hgs : gs.mapM PivotGroup.compile = .ok parts) :
      List.Forall₂ CarriesSort gs parts := by
    have hall := (List.forall₂_and_left gs parts).2 ⟨hnonneg, mapM_eq_ok_iff.1 hgs⟩
    exact hall.imp fun g part hg => ⟨hg.1, PivotGroup.valuesIndex?_of_compile hg.2⟩
  exact ⟨hcarries hrows hparts.rows, hcarries hcolumns hparts.columns, length_of_mapM hparts.values⟩

/-- **The sorts of a table** point to its values exactly if those of the specification do. -/
theorem PivotTable.CarriesSorts.sortsInside_iff {table : PivotTable} {spec : PivotSpec} (h : table.CarriesSorts spec) :
    table.SortsInside ↔ spec.SortsInside := by
  have hsort (g : PivotGroup) (part : Json) (hpart : CarriesSort g part) :
      (∀ v, valuesIndex? part = some v → ∃ i : Nat, v = .int i ∧ i < table.values.length) ↔
        ∀ i, g.sortByValue = some i → i < spec.values.length := by
    rw [hpart.index, ← h.values]
    cases hi : g.sortByValue with
    | none => simp
    | some i =>
      obtain ⟨n, rfl⟩ := Int.eq_ofNat_of_zero_le (hpart.nonneg i hi)
      simp
  rw [SortsInside, PivotSpec.SortsInside, List.forall_mem_append, List.forall_mem_append,
    forall_mem_iff_of_forall₂ h.rows hsort, forall_mem_iff_of_forall₂ h.columns hsort]

/-! ## Groupings without their sorts -/

/-- The grouping, not sorted by a value. -/
def PivotGroup.withoutSort (g : PivotGroup) : PivotGroup := { g with sortByValue := none }

/-- The specification, with no grouping sorted by a value. -/
def PivotSpec.withoutSorts (spec : PivotSpec) : PivotSpec :=
  { spec with rows := spec.rows.map (List.map PivotGroup.withoutSort)
              columns := spec.columns.map (List.map PivotGroup.withoutSort) }

theorem getD_map_withoutSort (gs : Option (List PivotGroup)) :
    (gs.map (List.map PivotGroup.withoutSort)).getD [] = (gs.getD []).map PivotGroup.withoutSort := by
  cases gs <;> rfl

theorem PivotSpec.IsSound.withoutSorts {spec : PivotSpec} (h : spec.IsSound) : spec.withoutSorts.IsSound where
  rows := by
    rw [PivotSpec.withoutSorts, getD_map_withoutSort, List.forall_mem_map]
    exact h.rows
  columns := by
    rw [PivotSpec.withoutSorts, getD_map_withoutSort, List.forall_mem_map]
    exact h.columns
  grouped := by
    rw [PivotSpec.withoutSorts, getD_map_withoutSort, getD_map_withoutSort, ne_eq, ne_eq, List.map_eq_nil_iff,
      List.map_eq_nil_iff]
    exact h.grouped
  valued := h.valued
  values := h.values
  filters := h.filters

/-- Parts with other compiled groupings. -/
def CompiledParts.withGroupings (rows columns : List Json) (parts : CompiledParts) : CompiledParts :=
  { parts with rows := rows, columns := columns }

/-- A table with other compiled groupings. -/
def PivotTable.withGroupings (rows columns : List Json) (table : PivotTable) : PivotTable :=
  { table with rows := rows, columns := columns }

theorem tableOf_withGroupings (d : PivotDraft) (range : CellRange) (sheet : Json) (parts : CompiledParts)
    (rows columns : List Json) (place : Json × Option Json) :
    tableOf d range sheet (parts.withGroupings rows columns) place =
      (tableOf d range sheet parts place).map (PivotTable.withGroupings rows columns) := by
  unfold tableOf
  cases compileLayoutPart d.valueLayout <;> rfl

/-- Without its sorts a specification has the same compiled values and filters. -/
theorem CompiledParts.AreOf.eq_withGroupings {spec : PivotSpec} {parts bare : CompiledParts} (h : parts.AreOf spec)
    (hbare : bare.AreOf spec.withoutSorts) : parts = bare.withGroupings parts.rows parts.columns := by
  have hvalues : parts.values = bare.values := Except.ok.inj (h.values.symm.trans hbare.values)
  have hfilters : parts.filters = bare.filters := Except.ok.inj (h.filters.symm.trans hbare.filters)
  rw [withGroupings, ← hvalues, ← hfilters]

section

variable {m : Type → Type} [Monad m] [LawfulMonad m] (sheets : SheetDirectory m)

/-- **Sorts leave the rest of a compilation as it is**: whether there is a table, and what the directory is asked and
told. Only the compiled groupings of the table are others. -/
theorem run_compileSpec_withoutSorts {spec : PivotSpec} (h : spec.IsSound) :
    ∃ rows columns, (compileSpec sheets spec).run =
      Except.map (PivotTable.withGroupings rows columns) <$> (compileSpec sheets spec.withoutSorts).run := by
  obtain ⟨parts, hparts, -⟩ := h.compileParts
  obtain ⟨bare, hbare, -⟩ := h.withoutSorts.compileParts
  have hrest := (CompiledParts.areOf hparts).eq_withGroupings (CompiledParts.areOf hbare)
  refine ⟨parts.rows, parts.columns, ?_⟩
  -- of a draft, only the parts are those of its groupings
  have hrange : spec.withoutSorts.draft.range = spec.draft.range := rfl
  have hplace : placeTable sheets spec.withoutSorts.draft = placeTable sheets spec.draft := rfl
  rw [compileSpec, compileSpec, run_compileDraft, run_compileDraft, hrange]
  cases spec.draft.range with
  | error e => simp only [map_pure, map_error]
  | ok range =>
    simp only [map_bind]
    refine bind_congr fun found => ?_
    cases found with
    | error e => simp only [map_pure, map_error]
    | ok sheet =>
      simp only [placeDraft, hparts, hbare, hplace, Functor.map_map]
      refine map_congr fun place => ?_
      rw [hrest]
      exact tableOf_withGroupings spec.withoutSorts.draft range sheet bare _ _ place

/-- **The sorts of a compiled table**, for every directory of sheets. Each compiled grouping carries the index that
its grouping is sorted by, and so a sort of the table points to one of its values exactly if the specification says
so. Nothing else depends on the indices: a table is made, and a sheet is added for it, whether or not they are those
of values. -/
theorem compileSpec_sorts {v : Json} {spec : PivotSpec} (h : PivotSpec.check v = .ok spec) :
    SatisfiesM (fun r => ∀ table, r = .ok table →
      table.CarriesSorts spec ∧ (table.SortsInside ↔ spec.SortsInside)) (compileSpec sheets spec).run ∧
    ∃ rows columns, (compileSpec sheets spec).run =
      Except.map (PivotTable.withGroupings rows columns) <$> (compileSpec sheets spec.withoutSorts).run := by
  refine ⟨(compileDraft_made sheets spec.draft).imp fun hmade table htable => ?_,
    run_compileSpec_withoutSorts sheets (PivotSpec.ensures_check v spec h)⟩
  have hsorts := carriesSorts_of_areOf h (CompiledParts.areOf (hmade table htable).2)
  exact ⟨hsorts, hsorts.sortsInside_iff⟩

end

/-- A specification with one value and a grouping that is sorted by the value of an index. -/
def sortedDocument (index : Int) : Json :=
  .obj [("spreadsheet_id", .str "book"), ("source_range", .str "Data!A1:B9"),
    ("rows", .arr [.obj [("source_column", .str "A"),
      ("sort_by_value", .obj [("value_index", .int index)])]]),
    ("values", .arr [.obj [("source_column", .str "B"), ("summarize_function", .str "SUM")]])]

/-- What the document says. -/
def sortedSpec (index : Int) : PivotSpec where
  spreadsheetId := "book"
  sourceRange := "Data!A1:B9"
  rows := some [{ sourceColumn := .str "A", sortByValue := some index }]
  values := [{ sourceColumn := some (.str "B"), aggregation := .sum }]

/-- Sorted by its only value, the table has a sort that points to a value. -/
theorem compileSpec_sorts_first :
    PivotSpec.check (sortedDocument 0) = .ok (sortedSpec 0) ∧
      ∃ table, ((compileSpec SheetStore.directory (sortedSpec 0)).run dataStore).1 = .ok table ∧
        table.SortsInside := by
  have hcheck : PivotSpec.check (sortedDocument 0) = .ok (sortedSpec 0) := rfl
  have hsorts := SatisfiesM_StateT_eq.1 (compileSpec_sorts SheetStore.directory hcheck).1 dataStore
  rw [SatisfiesM_Id_eq] at hsorts
  refine ⟨hcheck, _, rfl, (hsorts _ rfl).2.2 ?_⟩
  intro g hg i hi
  obtain rfl := List.mem_singleton.1 hg
  obtain rfl := Option.some.inj hi
  decide

/-- **Sorted by a value that there is not**, a specification is accepted, its table points past its only value, and a
sheet is added for it. -/
theorem compileSpec_sortsOutside :
    PivotSpec.check (sortedDocument 3) = .ok (sortedSpec 3) ∧
      ∃ table store, (compileSpec SheetStore.directory (sortedSpec 3)).run dataStore = (.ok table, store) ∧
        ¬ table.SortsInside ∧ store.sheets = dataStore.sheets ++ [⟨5, .str "Pivot Table"⟩] := by
  refine ⟨rfl, _, _, rfl, fun hinside => ?_, rfl⟩
  obtain ⟨i, hi, hlt⟩ := hinside _ (List.mem_singleton.2 rfl) (.int 3) rfl
  obtain rfl : i = 3 := by
    injection hi with hi
    omega
  exact absurd hlt (by decide)

end WorkspaceTools
