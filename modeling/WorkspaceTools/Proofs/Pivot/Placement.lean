import WorkspaceTools.Pivot.Store
import WorkspaceTools.Proofs.Pivot.Steps

/-!
# Where compiled tables are placed

Drafts are compiled one after the other against one store (`SheetStore.compileAll`), so that a
compilation may look up the sheets that earlier ones have added. `SheetStore.history` lists the
single compilations.

* `compile_cases`: a compilation fails and keeps the sheets, or ends with `placeTable`.
* `compileAll_allOrNothing`: every compilation of a run is all or nothing (`Compilation.IsPlaced`).
  A failure keeps the sheets and the next number; a table without a given sheet adds exactly one
  sheet, whose number and title it carries; a table for a given sheet adds none.
-/

namespace WorkspaceTools.SheetStore

/-! ## Runs of compilations -/

/-- One compilation of a run: the draft, the store before it, the outcome, and the store after it. -/
structure Compilation where
  draft : PivotDraft
  before : SheetStore
  result : Except PivotError PivotTable
  after : SheetStore

/-- The compilation of a draft against a store. -/
def compilation (store : SheetStore) (d : PivotDraft) : Compilation :=
  ⟨d, store, (store.compile d).1, (store.compile d).2⟩

/-- The compilations of drafts, each of which finds the store that the one before it has left. -/
def history : List PivotDraft → SheetStore → List Compilation
  | [], _ => []
  | d :: rest, store => store.compilation d :: history rest (store.compile d).2

/-- The store after the compilations of drafts. -/
def compileAll (drafts : List PivotDraft) (store : SheetStore) : SheetStore :=
  drafts.foldl (fun s d => (s.compile d).2) store

/-- The same sheets and the same next number; the questions that were asked may differ. -/
structure SameSheets (s t : SheetStore) : Prop where
  sheets : t.sheets = s.sheets
  nextId : t.nextId = s.nextId

/-- The sheet that a compilation owes to the store. -/
def Compilation.newSheet? (c : Compilation) : Option Sheet :=
  match c.result, c.draft.destinationSheet with
  | .ok _, none => some ⟨c.before.nextId, c.draft.destinationTitle⟩
  | _, _ => none

/-- A compilation is all or nothing, and its table carries the sheet that it is placed on. -/
structure Compilation.IsPlaced (c : Compilation) : Prop where
  failed : ∀ e, c.result = .error e → c.before.SameSheets c.after
  onNew : ∀ table, c.result = .ok table → c.draft.destinationSheet = none →
    c.after.sheets = c.before.sheets ++ [⟨c.before.nextId, c.draft.destinationTitle⟩] ∧
      c.after.nextId = c.before.nextId + 1 ∧ table.destinationSheet = .int c.before.nextId ∧
      table.destinationTitle = some c.draft.destinationTitle
  onGiven : ∀ table id, c.result = .ok table → c.draft.destinationSheet = some id →
    c.before.SameSheets c.after ∧ table.destinationSheet = id ∧ table.destinationTitle = none

/-! ## Single compilations -/

namespace SameSheets

theorem refl (s : SheetStore) : SameSheets s s := ⟨rfl, rfl⟩

theorem note (s : SheetStore) (call : SheetCall) : SameSheets s (s.note call) := ⟨rfl, rfl⟩

end SameSheets

/-- Looking for the source sheet notes one question and changes nothing else. -/
theorem resolveSheet_directory (id : Json) (title : String) (store : SheetStore) :
    ∃ r call, (resolveSheet directory id title).run store = (r, store.note call) := by
  rw [run_resolveSheet]
  split
  · exact ⟨_, .list id, rfl⟩
  · exact ⟨_, .lookup id title, rfl⟩

/-- Placing a table on a new sheet adds one, on a given sheet none. -/
theorem placeTable_directory (d : PivotDraft) (store : SheetStore) :
    placeTable directory d store =
      match d.destinationSheet with
      | some id => ((id, none), store)
      | none => ((.int store.nextId, some d.destinationTitle),
          (store.note (.create d.spreadsheetId d.destinationTitle)).add d.destinationTitle) := by
  unfold placeTable
  cases d.destinationSheet <;> rfl

/-- The layout of the draft is one. -/
def HasLayout (d : PivotDraft) : Prop := ∃ layout, d.valueLayout = .checked layout

theorem placeDraft_directory {d : PivotDraft} (hd : HasLayout d) (range : CellRange) (sheet : Json)
    (store : SheetStore) :
    (∃ e, placeDraft directory d range sheet store = (.error e, store)) ∨
      ∃ table, placeDraft directory d range sheet store =
          (.ok table, (placeTable directory d store).2) ∧
        (table.destinationSheet, table.destinationTitle) = (placeTable directory d store).1 := by
  obtain ⟨layout, hl⟩ := hd
  unfold placeDraft
  cases d.compileParts with
  | error e => exact .inl ⟨e, rfl⟩
  | ok parts =>
    refine .inr ⟨⟨sheet, range, parts.rows, parts.columns, parts.values, parts.filters, layout,
      (placeTable directory d store).1.1, (placeTable directory d store).1.2⟩, ?_, rfl⟩
    change (tableOf d range sheet parts _, _) = _
    rw [tableOf, hl]
    rfl

/-- With a layout, all that can fail comes before the table is placed. -/
theorem compile_cases {d : PivotDraft} (hd : HasLayout d) (store : SheetStore) :
    (∃ e t, store.compile d = (.error e, t) ∧ store.SameSheets t) ∨
      ∃ table call, store.compile d = (.ok table, (placeTable directory d (store.note call)).2) ∧
        (table.destinationSheet, table.destinationTitle) =
          (placeTable directory d (store.note call)).1 := by
  rw [compile, run_compileDraft]
  cases d.range with
  | error e => exact .inl ⟨e, store, rfl, .refl store⟩
  | ok range =>
    obtain ⟨r, call, hr⟩ := resolveSheet_directory d.spreadsheetId range.sheetTitle store
    simp only [bind, StateT.bind, hr]
    cases r with
    | error e => exact .inl ⟨e, store.note call, rfl, .note store call⟩
    | ok sheet =>
      rcases placeDraft_directory hd range sheet (store.note call) with ⟨e, he⟩ | ⟨table, ht, hp⟩
      · exact .inl ⟨e, store.note call, he, .note store call⟩
      · exact .inr ⟨table, call, ht, hp⟩

/-- Every compilation of a draft with a layout is all or nothing. -/
theorem compilation_isPlaced {d : PivotDraft} (hd : HasLayout d) (store : SheetStore) :
    (store.compilation d).IsPlaced := by
  rcases compile_cases hd store with ⟨e, t, h, hs⟩ | ⟨table, call, h, hp⟩
  · have hr : (store.compilation d).result = .error e := by simp [compilation, h]
    have ha : (store.compilation d).after = t := by simp [compilation, h]
    exact ⟨fun _ _ => ha ▸ hs, by simp [hr], by simp [hr]⟩
  · have hr : (store.compilation d).result = .ok table := by simp [compilation, h]
    rw [placeTable_directory] at h hp
    refine ⟨by simp [hr], fun table' ht hn => ?_, fun table' id ht hs => ?_⟩
    · obtain rfl : table = table' := by simpa [hr] using ht
      replace hn : d.destinationSheet = none := hn
      simp only [hn, Prod.mk.injEq] at h hp
      simp [compilation, h, hp, add, note]
    · obtain rfl : table = table' := by simpa [hr] using ht
      replace hs : d.destinationSheet = some id := hs
      simp only [hs, Prod.mk.injEq] at h hp
      exact ⟨⟨by simp [compilation, h, note], by simp [compilation, h, note]⟩, hp.1, hp.2⟩

/-! ## Runs -/

namespace Compilation

/-- A compilation adds the sheet that it owes. -/
theorem IsPlaced.sheets_after {c : Compilation} (hc : c.IsPlaced) :
    c.after.sheets = c.before.sheets ++ c.newSheet?.toList ∧
      c.after.nextId = c.before.nextId + c.newSheet?.toList.length := by
  cases hr : c.result with
  | error e => simp [newSheet?, hr, (hc.failed e hr).sheets, (hc.failed e hr).nextId]
  | ok table =>
    cases hd : c.draft.destinationSheet with
    | none =>
      obtain ⟨hs, hn, -, -⟩ := hc.onNew table hr hd
      simp [newSheet?, hr, hd, hs, hn]
    | some id =>
      obtain ⟨h, -, -⟩ := hc.onGiven table id hr hd
      simp [newSheet?, hr, hd, h.sheets, h.nextId]

end Compilation

theorem compileAll_cons (d : PivotDraft) (rest : List PivotDraft) (store : SheetStore) :
    compileAll (d :: rest) store = compileAll rest (store.compilation d).after := rfl

/-- A run adds the sheets that its compilations owe, in order. -/
theorem compileAll_sheets {drafts : List PivotDraft} (hd : ∀ d ∈ drafts, HasLayout d)
    (store : SheetStore) :
    (compileAll drafts store).sheets =
        store.sheets ++ (history drafts store).filterMap Compilation.newSheet? ∧
      (compileAll drafts store).nextId =
        store.nextId + ((history drafts store).filterMap Compilation.newSheet?).length := by
  induction drafts generalizing store with
  | nil => simp [compileAll, history]
  | cons d rest ih =>
    have hc := (compilation_isPlaced (hd d (by simp)) store).sheets_after
    obtain ⟨ihs, ihn⟩ := ih (fun d' h => hd d' (by simp [h])) (store.compilation d).after
    have hf : ((history (d :: rest) store).filterMap Compilation.newSheet?) =
        (store.compilation d).newSheet?.toList ++
          (history rest (store.compilation d).after).filterMap Compilation.newSheet? := by
      rw [history, List.filterMap_cons]
      cases (store.compilation d).newSheet? <;> rfl
    rw [compileAll_cons, hf]
    refine ⟨by rw [ihs, hc.1, List.append_assoc]; rfl, ?_⟩
    rw [ihn, hc.2, List.length_append, Int.natCast_add, ← Int.add_assoc]
    rfl

theorem isPlaced_of_mem_history {drafts : List PivotDraft} (hd : ∀ d ∈ drafts, HasLayout d)
    (store : SheetStore) : ∀ c ∈ history drafts store, c.IsPlaced := by
  induction drafts generalizing store with
  | nil => simp [history]
  | cons d rest ih =>
    intro c hc
    rcases List.mem_cons.1 hc with rfl | hc
    · exact compilation_isPlaced (hd d (by simp)) store
    · exact ih (fun d' h => hd d' (by simp [h])) _ c hc

/-- **Compilations are all or nothing**, one by one and over a run: of a failure the sheets and the
next number show nothing, and the sheets after the run are the first ones and then one for each table
that was made without a given sheet, in order. -/
theorem compileAll_allOrNothing {drafts : List PivotDraft} (hd : ∀ d ∈ drafts, HasLayout d)
    (store : SheetStore) :
    (∀ c ∈ history drafts store, c.IsPlaced) ∧
      (compileAll drafts store).sheets =
        store.sheets ++ (history drafts store).filterMap Compilation.newSheet? ∧
      (compileAll drafts store).nextId =
        store.nextId + ((history drafts store).filterMap Compilation.newSheet?).length :=
  ⟨isPlaced_of_mem_history hd store, compileAll_sheets hd store⟩

/-- A draft with one grouping and one value over a range. -/
def plainDraft (range : String) : PivotDraft where
  spreadsheetId := .str "book"
  sourceRange := .str range
  destinationSheet := none
  destinationTitle := .str "Totals"
  rows := .parts [.checked { sourceColumn := .int 0 }]
  columns := .parts []
  values := .parts [.checked { sourceColumn := some (.str "B"), aggregation := .sum }]
  filters := .parts []
  valueLayout := .checked .horizontal

/-- The first draft names no sheet of the store, and the last one reads the sheet that the second
has added. -/
theorem compileAll_allOrNothing_totals :
    (∀ d ∈ [plainDraft "Gone!A1:B9", plainDraft "Data!A1:B9", plainDraft "Totals!A1:B9"],
        HasLayout d) ∧
      (compileAll [plainDraft "Gone!A1:B9", plainDraft "Data!A1:B9", plainDraft "Totals!A1:B9"]
        ⟨[⟨4, .str "Data"⟩], 7, []⟩).sheets =
        [⟨4, .str "Data"⟩, ⟨7, .str "Totals"⟩, ⟨8, .str "Totals"⟩] := by
  have hd : ∀ d ∈ [plainDraft "Gone!A1:B9", plainDraft "Data!A1:B9", plainDraft "Totals!A1:B9"],
      HasLayout d := by
    intro d h
    simp only [List.mem_cons, List.not_mem_nil, or_false] at h
    rcases h with rfl | rfl | rfl <;> exact ⟨.horizontal, rfl⟩
  exact ⟨hd, (compileAll_allOrNothing hd ⟨[⟨4, .str "Data"⟩], 7, []⟩).2.1.trans (by rfl)⟩

end WorkspaceTools.SheetStore
