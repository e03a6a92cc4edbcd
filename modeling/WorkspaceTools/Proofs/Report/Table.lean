import Mathlib.Data.List.Forall2
import Mathlib.Order.Bounds.Defs
import WorkspaceTools.Proofs.Number.Decimal
import WorkspaceTools.Proofs.Outcome
import WorkspaceTools.Report.Sheets

/-!
# Tables that can be read

A block of values is shown as a table of lines with bars between their cells.

* `barPieces` cuts a line at its bars, as a reader of tables does, and `HasCells` says what the cells of a line are.
  A line of a table has the cells that it is made of exactly if there is no bar in them (`hasCells_tableLine_iff`).
* `IsTable` is what a text has to be: a heading, a rule, and a line for each row, all with the same number of cells.
* `valuesTable_isTable_iff`: the report on some values is the table of their texts exactly if no text has a bar or
  the end of a line in it.
-/

namespace WorkspaceTools.Report

open Json Number Text

/-! ## Lines and cells -/

/-- The characters that end a line of a table. -/
def endsRow (c : Char) : Bool := c == '\n' || c == '\r'

/-- The pieces of a line between its bars; `begun` is the present one, last character first. A bar behind a
backslash belongs to its piece, and the backslash does not. -/
def barPieces : (begun : List Char) → List Char → List (List Char)
  | begun, [] => [begun.reverse]
  | begun, '\\' :: '|' :: rest => barPieces ('|' :: begun) rest
  | begun, c :: rest => if c = '|' then begun.reverse :: barPieces [] rest else barPieces (c :: begun) rest

/-- The cells of a line: what stands between its bars, with one space at both sides. -/
def HasCells (line : List Char) (cells : List String) : Prop :=
  barPieces [] line = [] :: (cells.map fun cell => ' ' :: (cell.toList ++ [' '])) ++ [[]]

/-- A table of the given cells: a heading, a rule and then the rows, on a line each, with the same number of cells
in every line. -/
def IsTable (width : Nat) (cells : List (List String)) (text : String) : Prop :=
  ∃ heading rule lines names, text.toList.splitOnP endsRow = heading :: rule :: lines ∧
    HasCells heading names ∧ names.length = width ∧ HasCells rule (List.replicate width "---") ∧
    List.Forall₂ HasCells lines cells ∧ ∀ row ∈ cells, row.length = width

/-- A line of a table, cell by cell. -/
theorem toList_tableLine {cells : List String} (h : cells ≠ []) :
    (tableLine cells).toList = '|' :: cells.flatMap fun cell => ' ' :: (cell.toList ++ [' ', '|']) := by
  have hjoined : ∀ cells : List String, cells ≠ [] → (" | ".intercalate cells ++ " |").toList =
      (cells.flatMap fun cell => ' ' :: (cell.toList ++ [' ', '|'])).tail := by
    intro cells hne
    induction cells with
    | nil => exact absurd rfl hne
    | cons cell rest ih =>
      cases rest with
      | nil => simp
      | cons next rest =>
        rw [String.intercalate_cons_cons, String.append_assoc, String.append_assoc, String.toList_append,
          String.toList_append, ih (List.cons_ne_nil _ _)]
        simp
  rw [tableLine, String.append_assoc, String.toList_append, hjoined cells h]
  cases cells with
  | nil => exact absurd rfl h
  | cons cell rest => simp

/-! ## Reading a line -/

/-- Characters without a bar belong to the piece that has begun. The space behind them is needed, since a bar may
follow a backslash at their end. -/
theorem barPieces_append {cs : List Char} (h : '|' ∉ cs) (begun rest : List Char) :
    barPieces begun (cs ++ ' ' :: rest) = barPieces (' ' :: (cs.reverse ++ begun)) rest := by
  induction cs generalizing begun with
  | nil => simp [barPieces]
  | cons c cs ih =>
    have hne : c ≠ '|' := fun hc => h (hc ▸ List.mem_cons_self)
    have hcs : '|' ∉ cs := fun hc => h (List.mem_cons_of_mem _ hc)
    have hstep : barPieces begun (c :: (cs ++ ' ' :: rest)) = barPieces (c :: begun) (cs ++ ' ' :: rest) := by
      rw [barPieces, if_neg hne]
      rintro rest' rfl hrest
      cases cs with
      | nil => cases hrest
      | cons d cs =>
        cases hrest
        exact hcs List.mem_cons_self
    rw [List.cons_append, hstep, ih hcs, List.reverse_cons, List.append_assoc, List.singleton_append]

/-- Cells without bars are read. -/
theorem hasCells_tableLine {cells : List String} (hne : cells ≠ []) (h : ∀ cell ∈ cells, '|' ∉ cell.toList) :
    HasCells (tableLine cells).toList cells := by
  have hread : ∀ cells : List String, (∀ cell ∈ cells, '|' ∉ cell.toList) →
      barPieces [] (cells.flatMap fun cell => ' ' :: (cell.toList ++ [' ', '|'])) =
        (cells.map fun cell => ' ' :: (cell.toList ++ [' '])) ++ [[]] := by
    intro cells h
    induction cells with
    | nil => rfl
    | cons cell rest ih =>
      obtain ⟨hcell, hrest⟩ := List.forall_mem_cons.1 h
      have hspace : '|' ∉ ' ' :: cell.toList := by simpa using hcell
      have hcons : (cell :: rest).flatMap (fun cell => ' ' :: (cell.toList ++ [' ', '|'])) =
          (' ' :: cell.toList) ++ ' ' :: '|' :: rest.flatMap fun cell => ' ' :: (cell.toList ++ [' ', '|']) := by
        simp
      rw [hcons, barPieces_append hspace, barPieces, if_pos rfl, ih hrest, List.map_cons]
      · simp
      · rintro rest' ⟨⟩
  rw [HasCells, toList_tableLine hne, barPieces, if_pos rfl, hread cells h]
  · rfl
  · rintro rest' ⟨⟩

/-- The characters of some pieces, and one more for the end of each. -/
def weight (ps : List (List Char)) : Nat := ps.flatten.length + ps.length

@[simp] theorem weight_nil : weight [] = 0 := rfl

@[simp] theorem weight_cons (p : List Char) (ps : List (List Char)) :
    weight (p :: ps) = p.length + 1 + weight ps := by
  simp only [weight, List.flatten_cons, List.length_append, List.length_cons]
  omega

@[simp] theorem weight_append (ps qs : List (List Char)) : weight (ps ++ qs) = weight ps + weight qs := by
  simp only [weight, List.flatten_append, List.length_append]
  omega

/-- Nothing is added to a line when it is cut. -/
theorem weight_barPieces_le (begun line : List Char) :
    weight (barPieces begun line) ≤ begun.length + line.length + 1 := by
  fun_induction barPieces begun line with
  | case1 begun => simp
  | case2 begun rest ih =>
    simp only [List.length_cons] at ih ⊢
    omega
  | case3 begun rest hline ih =>
    simp only [weight_cons, List.length_reverse, List.length_cons, List.length_nil] at ih ⊢
    omega
  | case4 begun c rest hline hc ih =>
    simp only [List.length_cons] at ih ⊢
    omega

/-- Where nothing is lost, no bar is part of a piece: a backslash would have been left out before it. -/
theorem not_mem_of_weight {begun line : List Char} (hbegun : '|' ∉ begun)
    (h : begun.length + line.length + 1 ≤ weight (barPieces begun line)) :
    ∀ piece ∈ barPieces begun line, '|' ∉ piece := by
  fun_induction barPieces begun line with
  | case1 begun => simpa using hbegun
  | case2 begun rest ih =>
    have hle := weight_barPieces_le ('|' :: begun) rest
    simp only [List.length_cons] at h hle
    omega
  | case3 begun rest hline ih =>
    simp only [weight_cons, List.length_reverse, List.length_cons] at h
    refine List.forall_mem_cons.2 ⟨by simpa using hbegun, ih List.not_mem_nil ?_⟩
    simp only [List.length_nil]
    omega
  | case4 begun c rest hline hc ih =>
    simp only [List.length_cons] at h
    refine ih (by simpa [hbegun] using Ne.symm hc) ?_
    simp only [List.length_cons]
    omega

/-- **When the cells of a line are read**: if there is no bar in them. -/
theorem hasCells_tableLine_iff {cells : List String} (hne : cells ≠ []) :
    HasCells (tableLine cells).toList cells ↔ ∀ cell ∈ cells, '|' ∉ cell.toList := by
  refine ⟨fun h => ?_, hasCells_tableLine hne⟩
  have hsum : ∀ cells : List String, weight (cells.map fun cell => ' ' :: (cell.toList ++ [' '])) =
      (cells.flatMap fun cell => ' ' :: (cell.toList ++ [' ', '|'])).length := by
    intro cells
    induction cells with
    | nil => rfl
    | cons cell rest ih =>
      rw [List.map_cons, weight_cons, ih, List.flatMap_cons, List.length_append]
      simp
  have hweight : (tableLine cells).toList.length + 1 = weight (barPieces [] (tableLine cells).toList) := by
    rw [h, toList_tableLine hne]
    simp only [List.cons_append, weight_cons, weight_append, hsum, weight_nil, List.length_cons, List.length_nil]
    omega
  have hpieces : ∀ piece ∈ barPieces [] (tableLine cells).toList, '|' ∉ piece := not_mem_of_weight List.not_mem_nil
    (Nat.le_of_eq (by rw [List.length_nil, Nat.zero_add, hweight]))
  intro cell hcell hbar
  have hmem : ' ' :: (cell.toList ++ [' ']) ∈ barPieces [] (tableLine cells).toList := by
    rw [h]
    exact List.mem_append_left _ (List.mem_cons_of_mem _ (List.mem_map.2 ⟨cell, hcell, rfl⟩))
  exact hpieces _ hmem (List.mem_cons_of_mem _ (List.mem_append_left _ hbar))

/-- A bar behind a backslash is read as a part of its cell. -/
example : HasCells "| a\\|b | c |".toList ["a|b", "c"] := by
  unfold HasCells
  decide

/-! ## Reading a table -/

theorem length_splitOnP (p : Char → Bool) (cs : List Char) : (cs.splitOnP p).length = cs.countP p + 1 := by
  induction cs with
  | nil => rfl
  | cons c cs ih =>
    rw [List.splitOnP_cons_eq_if_modifyHead, List.countP_cons]
    split
    · rw [List.length_cons, ih]
    · rw [List.length_modifyHead, ih, Nat.add_zero]

/-- Lines that are put together come apart in one more line for every end of a line within them. -/
theorem length_splitOnP_intercalate {ls : List (List Char)} (hne : ls ≠ []) :
    ((['\n'].intercalate ls).splitOnP endsRow).length = ls.length + ls.flatten.countP endsRow := by
  induction ls with
  | nil => exact absurd rfl hne
  | cons line rest ih =>
    rw [List.flatten_cons, List.countP_append]
    cases rest with
    | nil =>
      rw [List.intercalate_singleton, length_splitOnP]
      simp [Nat.add_comm]
    | cons next rest =>
      rw [List.intercalate_cons_cons, List.append_assoc, List.singleton_append,
        List.splitOnP_append_cons _ _ (by decide), List.length_append, length_splitOnP,
        ih (List.cons_ne_nil _ _)]
      simp only [List.length_cons]
      omega

/-- If no more lines come apart than were put together, then no line has an end in it. -/
theorem endsRow_of_length {ls : List (List Char)} (hne : ls ≠ [])
    (h : ((['\n'].intercalate ls).splitOnP endsRow).length = ls.length) :
    ∀ line ∈ ls, ∀ c ∈ line, endsRow c = false := by
  have hnone : ls.flatten.countP endsRow = 0 := by
    rw [length_splitOnP_intercalate hne] at h
    omega
  intro line hline c hc
  exact Bool.eq_false_iff.2 (List.countP_eq_zero.1 hnone c (List.mem_flatten_of_mem hline hc))

/-- Lines without an end of a line in them come apart as they are. -/
theorem splitOnP_intercalate {ls : List (List Char)} (hne : ls ≠ [])
    (h : ∀ line ∈ ls, ∀ c ∈ line, endsRow c = false) : (['\n'].intercalate ls).splitOnP endsRow = ls := by
  induction ls with
  | nil => exact absurd rfl hne
  | cons line rest ih =>
    obtain ⟨hline, hrest⟩ := List.forall_mem_cons.1 h
    cases rest with
    | nil => rw [List.intercalate_singleton, List.splitOnP_eq_singleton hline]
    | cons next rest =>
      rw [List.intercalate_cons_cons, List.append_assoc, List.singleton_append,
        List.splitOnP_append_cons_of_forall_mem hline _ (by decide), ih (List.cons_ne_nil _ _) hrest]

/-- A text that can be a cell: no character of it ends a cell or a line. -/
def IsCellText (text : String) : Prop := ∀ c ∈ text.toList, c ≠ '|' ∧ endsRow c = false

instance (text : String) : Decidable (IsCellText text) :=
  List.decidableBAll (fun c : Char => c ≠ '|' ∧ endsRow c = false) text.toList

theorem IsCellText.not_mem {text : String} (h : IsCellText text) : '|' ∉ text.toList := fun hbar => (h _ hbar).1 rfl

theorem isCellText_of_digits {text : String} (h : ∀ c ∈ text.toList, isAsciiDigit c = true) :
    IsCellText text := by
  intro c hc
  have hdigit := h c hc
  constructor
  · rintro rfl
    exact absurd hdigit (by decide)
  · rw [endsRow, Bool.or_eq_false_iff, beq_eq_false_iff_ne, beq_eq_false_iff_ne]
    constructor
    · rintro rfl
      exact absurd hdigit (by decide)
    · rintro rfl
      exact absurd hdigit (by decide)

theorem IsCellText.append {s t : String} (hs : IsCellText s) (ht : IsCellText t) : IsCellText (s ++ t) := by
  intro c hc
  rw [String.toList_append, List.mem_append] at hc
  exact hc.elim (hs c) (ht c)

/-- A line of a table ends within it only if one of its cells does. -/
theorem endsRow_tableLine {cells : List String} (hne : cells ≠ []) :
    (∀ c ∈ (tableLine cells).toList, endsRow c = false) ↔
      ∀ cell ∈ cells, ∀ c ∈ cell.toList, endsRow c = false := by
  have hbar : endsRow '|' = false := rfl
  have hspace : endsRow ' ' = false := rfl
  rw [toList_tableLine hne, List.forall_mem_cons]
  simp only [hbar, true_and, List.forall_mem_flatMap, List.forall_mem_cons, List.forall_mem_append, hspace,
    List.not_mem_nil, false_imp_iff, implies_true, and_true]

/-- **When lines of cells are a table**: if every cell can be one. -/
theorem isTable_iff {width : Nat} {names : List String} {cells : List (List String)} (hwidth : 0 < width)
    (hnames : names.length = width) (htexts : ∀ name ∈ names, IsCellText name)
    (hcells : ∀ row ∈ cells, row.length = width) :
    IsTable width cells
        (unlines (tableLine names :: tableLine (List.replicate width "---") :: cells.map tableLine)) ↔
      ∀ row ∈ cells, ∀ cell ∈ row, IsCellText cell := by
  have hwide : ∀ row ∈ cells, row ≠ [] := by
    rintro row hrow rfl
    exact absurd (hcells _ hrow) (Nat.ne_of_lt hwidth)
  have hnames' : names ≠ [] := List.ne_nil_of_length_pos (hnames ▸ hwidth)
  have hrules : List.replicate width "---" ≠ [] := List.ne_nil_of_length_pos (by rwa [List.length_replicate])
  have hrule : ∀ cell ∈ List.replicate width "---", IsCellText cell := by
    intro cell hcell
    rw [List.eq_of_mem_replicate hcell]
    decide
  have hlines (lines : List String) : (unlines lines).toList = ['\n'].intercalate (lines.map String.toList) :=
    String.toList_intercalate
  rw [IsTable, hlines]
  simp only [List.map_cons, List.map_map]
  constructor
  · rintro ⟨heading, rule, lines, -, hsplit, -, -, -, hread, -⟩ row hrow cell hcell c hc
    have hends := endsRow_of_length (List.cons_ne_nil _ _) (by rw [hsplit]; simp [hread.length_eq])
    have hsame := (splitOnP_intercalate (List.cons_ne_nil _ _) hends).symm.trans hsplit
    obtain ⟨-, -, rfl⟩ : _ ∧ _ ∧ cells.map (String.toList ∘ tableLine) = lines := by simpa using hsame
    have hrows : ∀ row ∈ cells, HasCells (tableLine row).toList row := by
      rwa [List.forall₂_map_left_iff, List.forall₂_same] at hread
    refine ⟨?_, ?_⟩
    · rintro rfl
      exact (hasCells_tableLine_iff (hwide row hrow)).1 (hrows row hrow) cell hcell hc
    · have hline : (tableLine row).toList ∈ cells.map (String.toList ∘ tableLine) :=
        List.mem_map.2 ⟨row, hrow, rfl⟩
      exact (endsRow_tableLine (hwide row hrow)).1
        (hends _ (List.mem_cons_of_mem _ (List.mem_cons_of_mem _ hline))) cell hcell c hc
  · intro h
    have hends (row : List String) (hne : row ≠ []) (htext : ∀ cell ∈ row, IsCellText cell) :
        ∀ c ∈ (tableLine row).toList, endsRow c = false :=
      (endsRow_tableLine hne).2 fun cell hcell c hc => (htext cell hcell c hc).2
    refine ⟨_, _, _, names, splitOnP_intercalate (List.cons_ne_nil _ _) ?_,
      hasCells_tableLine hnames' fun name hname => (htexts name hname).not_mem, hnames,
      hasCells_tableLine hrules fun cell hcell => (hrule cell hcell).not_mem, ?_, hcells⟩
    · refine List.forall_mem_cons.2 ⟨hends _ hnames' htexts, List.forall_mem_cons.2 ⟨hends _ hrules hrule, ?_⟩⟩
      intro line hline
      obtain ⟨row, hrow, rfl⟩ := List.mem_map.1 hline
      exact hends row (hwide row hrow) (h row hrow)
    · rw [List.forall₂_map_left_iff, List.forall₂_same]
      exact fun row hrow => hasCells_tableLine (hwide row hrow) fun cell hcell => (h row hrow cell hcell).not_mem

/-! ## Reports on values -/

/-- The text of the cell at a place of a row; it is empty where there is none. -/
def cellAt (row : List Json) (i : Nat) : String := (row[i]?.map cellText).getD ""

/-- The cells of a table for some rows. -/
def tableCells (width : Nat) (rows : List (List Json)) : List (List String) :=
  rows.map fun row => (List.range width).map (cellAt row)

/-- A row is filled up with empty cells. -/
theorem paddedCells_eq {width : Nat} {row : List Json} (h : row.length ≤ width) :
    paddedCells width row = (List.range width).map (cellAt row) := by
  refine List.ext_getElem (by simp [paddedCells, h]) fun i hi hi' => ?_
  simp only [paddedCells, List.length_map, List.getElem_append, List.getElem_map, List.getElem_replicate,
    List.getElem_range, cellAt]
  split
  · rename_i hrow
    rw [List.getElem?_eq_getElem hrow, Option.map_some, Option.getD_some]
  · rename_i hrow
    rw [List.getElem?_eq_none (by omega), Option.map_none, Option.getD_none]

/-- The width of a table is the length of its longest row. -/
theorem isGreatest_width {rows : List (List Json)} (hne : rows ≠ []) :
    IsGreatest {n | ∃ row ∈ rows, row.length = n} (rows.foldl (fun n row => max n row.length) 0) := by
  have hfold (rows : List (List Json)) (n : Nat) :
      let width := rows.foldl (fun n row => max n row.length) n
      n ≤ width ∧ (∀ row ∈ rows, row.length ≤ width) ∧ (width = n ∨ ∃ row ∈ rows, row.length = width) := by
    induction rows generalizing n with
    | nil => simp
    | cons row rest ih =>
      obtain ⟨hle, hrest, hwidth⟩ := ih (max n row.length)
      refine ⟨by rw [List.foldl_cons]; omega, List.forall_mem_cons.2 ⟨by rw [List.foldl_cons]; omega, hrest⟩, ?_⟩
      rw [List.foldl_cons]
      rcases hwidth with hwidth | ⟨longest, hmem, hlength⟩
      · rw [hwidth]
        rcases Nat.le_total row.length n with h | h
        · exact .inl (Nat.max_eq_left h)
        · exact .inr ⟨row, List.mem_cons_self, (Nat.max_eq_right h).symm⟩
      · exact .inr ⟨longest, List.mem_cons_of_mem _ hmem, hlength⟩
  obtain ⟨-, hbound, hwidth⟩ := hfold rows 0
  refine ⟨?_, ?_⟩
  · rcases hwidth with hwidth | hlongest
    · obtain ⟨row, rest, rfl⟩ := List.exists_cons_of_ne_nil hne
      have hfirst := hbound row List.mem_cons_self
      rw [hwidth] at hfirst ⊢
      exact ⟨row, List.mem_cons_self, Nat.le_zero.1 hfirst⟩
    · exact hlongest
  · rintro n ⟨row, hrow, rfl⟩
    exact hbound row hrow

/-- The texts that the cells of some rows are shown as can all be cells. -/
theorem isCellText_tableCells {width : Nat} {rows : List (List Json)} (h : ∀ row ∈ rows, row.length ≤ width) :
    (∀ row ∈ tableCells width rows, ∀ cell ∈ row, IsCellText cell) ↔
      ∀ row ∈ rows, ∀ cell ∈ row, IsCellText (cellText cell) := by
  have hnone : IsCellText "" := fun c hc => absurd hc List.not_mem_nil
  simp only [tableCells, List.forall_mem_map, List.mem_range]
  refine forall₂_congr fun row hrow => ⟨fun hcells cell hcell => ?_, fun hcells i _ => ?_⟩
  · obtain ⟨i, hi, rfl⟩ := List.mem_iff_getElem.1 hcell
    have hcell := hcells i (Nat.lt_of_lt_of_le hi (h row hrow))
    rwa [cellAt, List.getElem?_eq_getElem hi] at hcell
  · rw [cellAt]
    cases hi : row[i]? with
    | none => exact hnone
    | some cell => exact hcells cell (List.mem_of_getElem? hi)

/-- **When the report on some values is a table.** The report is made of a title and of lines that are as wide as
the longest row. These are a table of the texts of the values, with empty cells where there are none, exactly if no
text has a bar or the end of a line in it. -/
theorem valuesTable_isTable_iff {rows : List (List Json)} (hne : ∃ row ∈ rows, row ≠ []) (range : String) :
    ∃ width table, IsGreatest {n | ∃ row ∈ rows, row.length = n} width ∧ 0 < width ∧
      valuesTable (.arr (rows.map .arr)) range = .ok ("## Data from " ++ range ++ "\n\n" ++ table) ∧
      (IsTable width (tableCells width rows) table ↔ ∀ row ∈ rows, ∀ cell ∈ row, IsCellText (cellText cell)) := by
  obtain ⟨row, hrow, hrow'⟩ := hne
  have hrows : rows ≠ [] := List.ne_nil_of_mem hrow
  have hgreatest := isGreatest_width hrows
  have hbound : ∀ row ∈ rows, row.length ≤ _ := fun row hrow => hgreatest.2 ⟨row, hrow, rfl⟩
  have hwidth := Nat.lt_of_lt_of_le (List.length_pos_iff.2 hrow') (hbound row hrow)
  set width := rows.foldl (fun n row => max n row.length) 0 with hdef
  refine ⟨width, unlines (tableLine (headings width) :: tableLine (List.replicate width "---") ::
    (tableCells width rows).map tableLine), hgreatest, hwidth, ?_, ?_⟩
  · have helements : (rows.map Json.arr).mapM Json.elements = .ok rows :=
      mapM_eq_ok_iff.2 (List.forall₂_map_left_iff.2 (List.forall₂_same.2 fun row _ => rfl))
    have hsizes : (rows.map Json.arr).mapM Json.size = .ok (rows.map List.length) :=
      mapM_eq_ok_iff.2 (List.forall₂_map_left_iff.2 (List.forall₂_map_right_iff.2
        (List.forall₂_same.2 fun row _ => rfl)))
    have hlines : (rows.map fun row => tableLine (paddedCells width row)) =
        (tableCells width rows).map tableLine := by
      rw [tableCells, List.map_map]
      exact List.map_congr_left fun row hrow => congrArg tableLine (paddedCells_eq (hbound row hrow))
    have htruthy : (Json.arr (rows.map Json.arr)).isTruthy = true := by
      simpa [isTruthy] using hrows
    rw [valuesTable, htruthy]
    change ((rows.map Json.arr).mapM Json.size >>= fun _ => (rows.map Json.arr).mapM Json.elements >>= fun rows =>
      .ok (tableOfRows range rows)) = _
    rw [hsizes, ok_bind, helements, ok_bind, tableOfRows, ← hdef]
    simp only [List.cons_append, List.nil_append, hlines, unlines, String.intercalate_cons_cons]
    simp only [String.append_assoc]
    rfl
  · rw [isTable_iff hwidth (by simp [headings]) ?_ ?_, isCellText_tableCells hbound]
    · intro name hname
      obtain ⟨i, -, rfl⟩ := List.mem_map.1 hname
      refine .append (by decide) (isCellText_of_digits fun c hc => ?_)
      rw [natText, String.toList_ofList] at hc
      exact isAsciiDigit_of_mem_natDigits hc
    · rintro _ hrow
      obtain ⟨row, -, rfl⟩ := List.mem_map.1 hrow
      rw [List.length_map, List.length_range]

/-- A bar in a value is not told apart from one between two cells. -/
theorem valuesTable_isTable_iff_bar :
    ∃ table, valuesTable (.arr [.arr [.str "a|b"]]) "R" = .ok ("## Data from " ++ "R" ++ "\n\n" ++ table) ∧
      ¬ IsTable 1 [["a|b"]] table := by
  have hne : ∃ row ∈ [[Json.str "a|b"]], row ≠ [] := ⟨_, List.mem_singleton_self _, List.cons_ne_nil _ _⟩
  obtain ⟨width, table, ⟨⟨row, hrow, hlength⟩, -⟩, -, hreport, htable⟩ := valuesTable_isTable_iff hne "R"
  obtain rfl := List.mem_singleton.1 hrow
  obtain rfl : 1 = width := hlength
  refine ⟨table, hreport, fun h => ?_⟩
  have htext : IsCellText "a|b" :=
    htable.1 h _ (List.mem_singleton_self _) (.str "a|b") (List.mem_singleton_self _)
  exact htext.not_mem (by decide)

end WorkspaceTools.Report
