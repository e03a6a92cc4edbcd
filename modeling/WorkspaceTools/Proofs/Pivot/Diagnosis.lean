import WorkspaceTools.Proofs.Pivot.Region

/-!
# What is reported of a source range

A source range that is read may still have no cells. There is a report of its own for a range without an end row
that begins after the row where such ranges stop, and another one for all other ranges without cells.

* `reportsNoRange_compileParts`: the parts of a table are no reason for either report.
* `CellRange.diagnosis`: what is to be reported of a range, by its references; nothing, exactly if the range has
  cells (`CellRange.diagnosis_eq_none_iff`).
* `compileDraft_report`: what is reported, for every directory of sheets. It is the diagnosis unless the range ends
  in the row where ranges without an end row stop and begins after it (`CellRange.EndsInOpenEndRow`): an end row
  that is given is not told from one that is left out.
-/

namespace WorkspaceTools

open Number Text

/-! ## Errors of the parts -/

/-- The report of an error on the source range: that it begins after the row where ranges without an end row stop,
or that it has no cells. -/
def PivotError.rangeReport? : PivotError → Option GridError
  | .grid (.startsPastEnd row range) => some (.startsPastEnd row range)
  | .grid (.emptyRange range) => some (.emptyRange range)
  | _ => none

/-- No error of the result is a report on the source range. -/
def ReportsNoRange {α : Type} : Except PivotError α → Prop := FailsOnly fun e => e.rangeReport? = none

theorem failsOnly_resolveColumn (v : Json) :
    FailsOnly (fun e => (PivotError.grid e).rangeReport? = none) (resolveColumn v) := by
  unfold resolveColumn
  split
  · exact .error rfl
  · split
    · exact .error rfl
    · exact .ok _
  · unfold columnIndex?
    split
    · simp only
      split
      · exact .ok _
      · exact .error rfl
    · exact .error rfl

theorem reportsNoRange_compileColumn (v : Json) : ReportsNoRange (compileColumn v) :=
  .mapError (failsOnly_resolveColumn v)

theorem reportsNoRange_noPart {α : Type} (v : Json) (name : String) : ReportsNoRange (noPart v name : Except _ α) :=
  .error rfl

theorem reportsNoRange_unusable (name part : String) (ms : Members) : ReportsNoRange (unusable name part ms) := by
  unfold unusable
  split
  · exact reportsNoRange_noPart _ _
  · exact .ok ()

theorem reportsNoRange_takenColumn (ms : Members) : ReportsNoRange (takenColumn ms) := by
  unfold takenColumn
  split
  · exact reportsNoRange_compileColumn _
  · exact reportsNoRange_noPart _ _

theorem reportsNoRange_compileGroupPart (part : DraftPart PivotGroup) : ReportsNoRange (compileGroupPart part) := by
  cases part with
  | checked g => exact .bind (reportsNoRange_compileColumn _) fun _ => .ok _
  | taken ms =>
    refine .bind (reportsNoRange_takenColumn ms) fun _ => .bind (reportsNoRange_unusable _ _ ms) fun _ =>
      .bind (reportsNoRange_unusable _ _ ms) fun _ => ?_
    split
    · exact .error rfl
    · exact .ok _
  | foreign v => exact reportsNoRange_noPart _ _

theorem reportsNoRange_source (v : PivotValue) : ReportsNoRange v.source := by
  unfold PivotValue.source
  split
  · exact .error rfl
  · exact .error rfl
  · exact .map _ (reportsNoRange_compileColumn _)
  · exact .ok _

theorem reportsNoRange_takenSource (ms : Members) : ReportsNoRange (takenSource ms) := by
  unfold takenSource
  split
  · exact .error rfl
  · exact .error rfl
  · exact .map _ (reportsNoRange_compileColumn _)
  · exact .ok _

theorem reportsNoRange_takenAggregation (ms : Members) : ReportsNoRange (takenAggregation ms) := by
  unfold takenAggregation
  simp only
  split
  · exact .ok _
  · exact reportsNoRange_noPart _ _

theorem reportsNoRange_compileValuePart (part : DraftPart PivotValue) : ReportsNoRange (compileValuePart part) := by
  cases part with
  | checked v => exact .bind (reportsNoRange_source v) fun _ => .ok _
  | taken ms =>
    exact .bind (reportsNoRange_takenSource ms) fun _ => .bind (reportsNoRange_takenAggregation ms) fun _ =>
      .bind (reportsNoRange_unusable _ _ ms) fun _ => .ok _
  | foreign v => exact reportsNoRange_noPart _ _

theorem reportsNoRange_compileFilterPart (part : DraftPart PivotFilter) :
    ReportsNoRange (compileFilterPart part) := by
  cases part with
  | checked f => exact .bind (reportsNoRange_compileColumn _) fun _ => .ok _
  | taken ms =>
    have hcolumn (criteria : Members) : ReportsNoRange (takenColumn ms >>= fun column =>
        pure (Json.obj [("columnOffsetIndex", .int column), ("filterCriteria", .obj criteria)])) :=
      .bind (reportsNoRange_takenColumn ms) fun _ => .ok _
    unfold compileFilterPart compileTakenFilter
    simp only
    split
    · exact .bind (.map _ (.mapError fun _ _ => rfl)) hcolumn
    · exact .bind (reportsNoRange_unusable _ _ ms) fun _ => hcolumn []
  | foreign v => exact reportsNoRange_noPart _ _

theorem reportsNoRange_items {α : Type} (parts : DraftParts α) : ReportsNoRange parts.items := by
  cases parts with
  | parts ps => exact .ok ps
  | foreign v =>
    unfold DraftParts.items
    simp only
    split
    · exact .ok []
    · split
      · exact .ok _
      · exact .error rfl

/-- **The parts of a table** are no reason for a report on its range. -/
theorem reportsNoRange_compileParts (d : PivotDraft) : ReportsNoRange d.compileParts := by
  refine .bind (reportsNoRange_items _) fun rows => .bind (.mapM reportsNoRange_compileGroupPart rows) fun rows =>
    .bind (reportsNoRange_items _) fun columns => .bind (.mapM reportsNoRange_compileGroupPart columns) fun columns =>
      ?_
  simp only
  split
  · exact .error rfl
  · refine .bind (reportsNoRange_items _) fun values => ?_
    split
    · exact .error rfl
    · exact .bind (.mapM reportsNoRange_compileValuePart values) fun values =>
        .bind (reportsNoRange_items _) fun filters =>
          .bind (.mapM reportsNoRange_compileFilterPart filters) fun filters => .ok _

theorem reportsNoRange_compileLayoutPart (part : DraftPart ValueLayout) : ReportsNoRange (compileLayoutPart part) := by
  cases part with
  | checked layout => exact .ok layout
  | taken ms => exact reportsNoRange_noPart _ _
  | foreign v => exact reportsNoRange_noPart _ _

/-! ## References and rows -/

/-- The number of the row that a reference names. A reference without digits names the first one. -/
def CellRef.rowNumber (ref : CellRef) : Nat := if ref.digits = [] then 1 else natOfDigits ref.digits

namespace CellRange

variable {first last : CellRef} {title : List Char} {s : String} {r : CellRange}

/-- The references of a range, which are the same if there is only one. -/
def HasRefs (s : String) (first last : CellRef) : Prop := ∃ feed, IsRange feed first last s.toList

/-- A range that was read has references. -/
theorem exists_hasRefs (h : read? s = .ok r) : ∃ first last, HasRefs s first last := by
  by_contra hnone
  rw [read?_of_not_isRange] at h
  · cases h
  · rintro ⟨feed, first, last, hrange⟩
    exact hnone ⟨first, last, feed, hrange⟩

/-- The bounds of a range are those of its references. -/
structure IsBetween (r : CellRange) (first last : CellRef) : Prop where
  startColumn : r.startColumn = first.column
  endColumn : r.endColumn = last.column + 1
  startRow : r.startRow = first.rowNumber - 1
  endRow : r.endRow = if last.digits = [] then openEndRow else (last.rowNumber : Int)

theorem isBetween_of_read? (h : read? s = .ok r) (hrefs : HasRefs s first last) : r.IsBetween first last := by
  obtain ⟨feed, hrange⟩ := hrefs
  obtain ⟨title, htitle⟩ := read?_of_isRange hrange
  rw [htitle, ofRefs] at h
  obtain ⟨startRow, hstart, h⟩ := bind_eq_ok.1 h
  obtain ⟨endRow, hend, h⟩ := bind_eq_ok.1 h
  obtain rfl := Except.ok.inj h
  rw [CellRef.row?_eq_ok hstart, CellRef.row?_eq_ok hend]
  refine ⟨rfl, rfl, ?_, ?_⟩
  · simp only [CellRef.rowNumber]
    split <;> simp
  · simp only [CellRef.rowNumber]
    split <;> simp

/-! ## Ranges without cells -/

/-- No end row is given, and the range begins after the row where such ranges stop. -/
def StartsPastEnd (first last : CellRef) : Prop := last.digits = [] ∧ openEndRow < first.rowNumber

/-- The last column stands in front of the first one, or the end row that is given above the first row. -/
def EndsBeforeStart (first last : CellRef) : Prop :=
  last.column < first.column ∨ (last.digits ≠ [] ∧ last.rowNumber < first.rowNumber)

/-- The end row that is given is the one where ranges without an end row stop, and the range begins after it. -/
def EndsInOpenEndRow (first last : CellRef) : Prop :=
  (last.digits ≠ [] ∧ last.rowNumber = openEndRow) ∧ openEndRow < first.rowNumber

instance (first last : CellRef) : Decidable (StartsPastEnd first last) := inferInstanceAs (Decidable (_ ∧ _))

instance (first last : CellRef) : Decidable (EndsBeforeStart first last) := inferInstanceAs (Decidable (_ ∨ _))

instance (first last : CellRef) : Decidable (EndsInOpenEndRow first last) := inferInstanceAs (Decidable (_ ∧ _))

/-- What is to be reported of a range: nothing, if it has cells. -/
def diagnosis (s : String) (first last : CellRef) : Option GridError :=
  if StartsPastEnd first last then some (.startsPastEnd first.rowNumber s)
  else if EndsBeforeStart first last then some (.emptyRange s)
  else none

/-- A range has no cells if it begins past its end, or ends before its start. -/
theorem isReversed_iff_refs (h : r.IsBetween first last) :
    r.isReversed = true ↔ StartsPastEnd first last ∨ EndsBeforeStart first last := by
  obtain ⟨hstartColumn, hendColumn, hstartRow, hendRow⟩ := h
  simp only [isReversed, Bool.or_eq_true, decide_eq_true_eq, hstartColumn, hendColumn, hstartRow, hendRow,
    StartsPastEnd, EndsBeforeStart]
  by_cases hdigits : last.digits = []
  · simp only [hdigits, if_true, true_and, ne_eq, not_true_eq_false, false_and, or_false]
    omega
  · simp only [hdigits, if_false, false_and, ne_eq, not_false_eq_true, true_and, false_or]
    omega

theorem diagnosis_eq_none_iff (h : r.IsBetween first last) :
    diagnosis s first last = none ↔ ∃ row column, r.Contains row column := by
  have hcells : (∃ row column, r.Contains row column) ↔ ¬(r.isReversed = true) := by
    rw [isReversed_iff]
    push Not
    rfl
  rw [hcells, isReversed_iff_refs h, diagnosis]
  by_cases hpast : StartsPastEnd first last
  · simp [hpast]
  · by_cases hbefore : EndsBeforeStart first last
    · simp [hpast, hbefore]
    · simp [hpast, hbefore]

/-- The row where ranges without an end row stop is compared with the end row, whether or not that is given. -/
theorem endsPastOpenEndRow_iff (h : r.IsBetween first last) :
    r.endRow = openEndRow ∧ openEndRow ≤ r.startRow ↔ StartsPastEnd first last ∨ EndsInOpenEndRow first last := by
  obtain ⟨-, -, hstartRow, hendRow⟩ := h
  simp only [hstartRow, hendRow, StartsPastEnd, EndsInOpenEndRow]
  by_cases hdigits : last.digits = []
  · simp only [hdigits, if_true, true_and, ne_eq, not_true_eq_false, false_and, or_false]
    omega
  · simp only [hdigits, if_false, false_and, ne_eq, not_false_eq_true, true_and, false_or]
    omega

theorem diagnosis_of_endsInOpenEndRow (h : EndsInOpenEndRow first last) (s : String) :
    diagnosis s first last = some (.emptyRange s) := by
  obtain ⟨⟨hdigits, hend⟩, hstart⟩ := h
  have hpast : ¬StartsPastEnd first last := fun hpast => hdigits hpast.1
  have hbefore : EndsBeforeStart first last := .inr ⟨hdigits, by omega⟩
  rw [diagnosis, if_neg hpast, if_pos hbefore]

end CellRange

/-! ## Reports -/

/-- A range is read, and its diagnosis is an error, but where the end row is mistaken for one that is left out. -/
theorem sourceRange_of_isBetween {s : String} {r : CellRange} {first last : CellRef}
    (hread : CellRange.read? s = .ok r) (h : r.IsBetween first last) :
    sourceRange s =
      if CellRange.EndsInOpenEndRow first last then .error (.grid (.startsPastEnd first.rowNumber s))
      else match CellRange.diagnosis s first last with
        | some e => .error (.grid e)
        | none => .ok r := by
  have hrow : r.startRow + 1 = first.rowNumber := by
    rw [h.startRow]
    omega
  have hpast := CellRange.endsPastOpenEndRow_iff h
  have hreversed := CellRange.isReversed_iff_refs h
  rw [sourceRange, hread, mapError_ok, ok_bind, hrow, CellRange.diagnosis]
  by_cases hopen : CellRange.EndsInOpenEndRow first last
  · rw [if_pos (hpast.2 (.inr hopen)), if_pos hopen]
    rfl
  · rw [if_neg hopen]
    by_cases hstarts : CellRange.StartsPastEnd first last
    · rw [if_pos (hpast.2 (.inl hstarts)), if_pos hstarts]
      rfl
    · rw [if_neg fun hend => (hpast.1 hend).elim hstarts hopen, if_neg hstarts]
      by_cases hbefore : CellRange.EndsBeforeStart first last
      · rw [if_pos (hreversed.2 (.inr hbefore)), if_pos hbefore]
        rfl
      · rw [if_neg fun hr => (hreversed.1 hr).elim hstarts hbefore, if_neg hbefore]
        rfl

section

variable {m : Type → Type} [Monad m] [LawfulMonad m] (sheets : SheetDirectory m)

/-- A source sheet that is not found is no reason for a report. -/
theorem reportsNoRange_resolveSheet (id : Json) (title : String) :
    SatisfiesM ReportsNoRange (resolveSheet sheets id title).run := by
  rw [run_resolveSheet]
  split
  · refine .map_pre (.of_true fun found => ?_)
    cases found with
    | nil => exact .error rfl
    | cons ref rest => exact .ok _
  · refine .map_pre (.of_true fun found => ?_)
    cases found with
    | none => exact .error rfl
    | some v => exact .ok v

/-- Once the range is known to have cells, nothing is reported of it. -/
theorem reportsNoRange_compileDraft {d : PivotDraft} {r : CellRange} (h : d.range = .ok r) :
    SatisfiesM ReportsNoRange (compileDraft sheets d).run := by
  rw [run_compileDraft, h]
  refine .bind (reportsNoRange_resolveSheet sheets _ _) fun found hfound => ?_
  cases found with
  | error e => exact .pure (.error (hfound e rfl))
  | ok sheet =>
    simp only [placeDraft]
    cases hparts : d.compileParts with
    | error e => exact .pure (.error (reportsNoRange_compileParts d e hparts))
    | ok parts =>
      exact .map_pre (.of_true fun place => .map _ (reportsNoRange_compileLayoutPart d.valueLayout))

/-- The report of a compilation: the error, before any question to the directory, or none at all. -/
structure Reports (d : PivotDraft) (report : Option GridError) : Prop where
  fails : ∀ e, report = some e → (compileDraft sheets d).run = pure (.error (.grid e))
  silent : report = none → SatisfiesM ReportsNoRange (compileDraft sheets d).run

/-- **What is reported of a source range**, for every directory of sheets and whatever else the draft holds. The
report is the diagnosis of the range, which is none exactly if the range has cells, unless the range ends in the row
where ranges without an end row stop and begins after it. Of such a range it is reported that no end row is given,
where the diagnosis is that it has no cells. -/
theorem compileDraft_report {d : PivotDraft} {s : String} {r : CellRange} (hd : d.sourceRange = .str s)
    (hread : CellRange.read? s = .ok r) :
    (∃ first last, CellRange.HasRefs s first last) ∧
      ∀ first last, CellRange.HasRefs s first last →
        (CellRange.diagnosis s first last = none ↔ ∃ row column, r.Contains row column) ∧
          (¬CellRange.EndsInOpenEndRow first last → Reports sheets d (CellRange.diagnosis s first last)) ∧
          (CellRange.EndsInOpenEndRow first last → CellRange.diagnosis s first last = some (.emptyRange s) ∧
            Reports sheets d (some (.startsPastEnd first.rowNumber s))) := by
  refine ⟨CellRange.exists_hasRefs hread, ?_⟩
  intro first last hrefs
  have hbetween := CellRange.isBetween_of_read? hread hrefs
  have hrange : d.range = sourceRange s := by
    rw [PivotDraft.range, hd]
  rw [sourceRange_of_isBetween hread hbetween] at hrange
  have hfails (e : PivotError) (he : d.range = .error e) : (compileDraft sheets d).run = pure (.error e) := by
    rw [run_compileDraft, he]
  refine ⟨CellRange.diagnosis_eq_none_iff hbetween, ?_, ?_⟩
  · intro hopen
    rw [if_neg hopen] at hrange
    constructor
    · intro e he
      rw [he] at hrange
      exact hfails _ hrange
    · intro hnone
      rw [hnone] at hrange
      exact reportsNoRange_compileDraft sheets hrange
  · intro hopen
    rw [if_pos hopen] at hrange
    refine ⟨CellRange.diagnosis_of_endsInOpenEndRow hopen s, ?_, nofun⟩
    rintro e ⟨⟩
    exact hfails _ hrange

end

/-- A draft whose range begins below its end row, which is given. -/
def belowEndDraft : PivotDraft := { rowZeroSpec.draft with sourceRange := .str "Data!A1001:B1000" }

/-- It is reported that the range has no end row. -/
theorem compileDraft_report_givenEndRow :
    belowEndDraft.sourceRange = .str "Data!A1001:B1000" ∧
      CellRange.read? "Data!A1001:B1000" = .ok ⟨"Data", 0, 1000, 2, 1000⟩ ∧
      ((compileDraft SheetStore.directory belowEndDraft).run dataStore).1 =
        .error (.grid (.startsPastEnd 1001 "Data!A1001:B1000")) := by
  have hread : CellRange.read? "Data!A1001:B1000" = .ok ⟨"Data", 0, 1000, 2, 1000⟩ := by decide +kernel
  have hfirst : CellRef.IsWellFormed ⟨['A'], ['1', '0', '0', '1']⟩ :=
    ⟨List.cons_ne_nil _ _, List.forall_mem_singleton.2 rfl, List.all_eq_true.1 rfl⟩
  have hlast : CellRef.IsWellFormed ⟨['B'], ['1', '0', '0', '0']⟩ :=
    ⟨List.cons_ne_nil _ _, List.forall_mem_singleton.2 rfl, List.all_eq_true.1 rfl⟩
  have hlist : "Data!A1001:B1000".toList = "Data".toList ++ '!' ::
      (CellRef.text ⟨['A'], ['1', '0', '0', '1']⟩ false ++ ':' ::
        CellRef.text ⟨['B'], ['1', '0', '0', '0']⟩ false) := by decide
  have hrefs : CellRange.HasRefs "Data!A1001:B1000" ⟨['A'], ['1', '0', '0', '1']⟩ ⟨['B'], ['1', '0', '0', '0']⟩ := by
    refine ⟨false, ?_⟩
    rw [hlist]
    exact .onSheet (by decide) (.two hfirst hlast false false)
  have hopen : CellRange.EndsInOpenEndRow ⟨['A'], ['1', '0', '0', '1']⟩ ⟨['B'], ['1', '0', '0', '0']⟩ := by decide
  obtain ⟨-, hreport⟩ := compileDraft_report SheetStore.directory (d := belowEndDraft) rfl hread
  obtain ⟨-, hreports⟩ := (hreport _ _ hrefs).2.2 hopen
  refine ⟨rfl, hread, ?_⟩
  rw [hreports.fails _ rfl]
  rfl

end WorkspaceTools
