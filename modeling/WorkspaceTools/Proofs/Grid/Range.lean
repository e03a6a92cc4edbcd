import WorkspaceTools.Proofs.Grid.Reference

/-!
# Ranges that read back

Reading undoes writing, whatever the columns, the rows and the title are.

* A text is cut at the first mark (`cutAt_eq_some_iff`, `cutAt_eq_none_iff`), and quotes around a title come
  off (`stripQuotes_quoted`).
* A reference reads back from its letters and digits (`CellRef.read?_printRef`), and so do two of them
  with a colon between them, or one that stands for both (`CellRange.ofCells_two`, `CellRange.ofCells_one`).
* `CellRange.read?_printRange` puts a title in front, or none. The bounds of a range are such that it
  contains what lies between its corners, both of them included (`CellRange.Contains`).
-/

namespace WorkspaceTools

open Number Text

/-! ## Cutting at a mark -/

section

variable {mark : Char} {cs : List Char}

theorem bne_of_not_mem (h : mark ∉ cs) : ∀ c ∈ cs, (c != mark) = true := by
  intro c hc
  rw [bne_iff_ne]
  rintro rfl
  exact h hc

theorem cutAt_append (h : mark ∉ cs) (rest : List Char) :
    cutAt mark (cs ++ mark :: rest) = (cs, some rest) := by
  have hne := bne_of_not_mem h
  have hmark : (mark != mark) = false := by simp
  rw [cutAt, List.dropWhile_append_of_pos hne, List.takeWhile_append_of_pos hne]
  simp only [List.dropWhile_cons, List.takeWhile_cons, hmark, Bool.false_eq_true, if_false,
    List.append_nil]

theorem cutAt_of_not_mem (h : mark ∉ cs) : cutAt mark cs = (cs, none) := by
  rw [cutAt, List.dropWhile_eq_nil_iff.2 (bne_of_not_mem h)]

theorem cutAt_eq_some_iff {before rest : List Char} :
    cutAt mark cs = (before, some rest) ↔ mark ∉ before ∧ cs = before ++ mark :: rest := by
  constructor
  · intro h
    by_cases hmem : mark ∈ cs
    · obtain ⟨before', rest', rfl, hbefore⟩ := List.eq_append_cons_of_mem hmem
      rw [cutAt_append hbefore] at h
      cases h
      exact ⟨hbefore, rfl⟩
    · rw [cutAt_of_not_mem hmem] at h
      cases h
  · rintro ⟨hbefore, rfl⟩
    exact cutAt_append hbefore rest

theorem cutAt_eq_none_iff {before : List Char} :
    cutAt mark cs = (before, none) ↔ mark ∉ cs ∧ before = cs := by
  constructor
  · intro h
    by_cases hmem : mark ∈ cs
    · obtain ⟨before', rest', rfl, hbefore⟩ := List.eq_append_cons_of_mem hmem
      rw [cutAt_append hbefore] at h
      cases h
    · rw [cutAt_of_not_mem hmem] at h
      cases h
      exact ⟨hmem, rfl⟩
  · rintro ⟨hmem, rfl⟩
    exact cutAt_of_not_mem hmem

end

theorem stripQuotes_quoted (cs : List Char) : stripQuotes ('\'' :: (cs ++ ['\''])) = cs := by
  have hlast : (cs ++ ['\'']).getLast? = some '\'' := List.getLast?_concat
  simp only [stripQuotes, hlast, beq_self_eq_true, if_true, List.dropLast_concat]

/-! ## References -/

/-- A row number that is read: it counts from 1, and its digits are not too many. -/
def IsRowNumber (n : Nat) : Prop := 1 ≤ n ∧ (natDigits n).length ≤ maxIntDigits

/-- The digits of a row number, where there is one. -/
def rowDigits : Option Nat → List Char
  | none => []
  | some n => natDigits n

/-- The row of a first reference, counted from 0. Without a number it is the first one. -/
def rowStart : Option Nat → Int
  | none => 0
  | some n => n - 1

/-- The row after the one of a last reference. -/
def rowEnd : Option Nat → Int
  | none => openEndRow
  | some n => n

theorem isAsciiDigit_of_mem_rowDigits {row : Option Nat} {c : Char} (h : c ∈ rowDigits row) :
    isAsciiDigit c = true := by
  cases row with
  | none => cases h
  | some n => exact isAsciiDigit_of_mem_natDigits h

theorem CellRef.isWellFormed_printed (column : Nat) (row : Option Nat) :
    IsWellFormed ⟨columnLetters column, rowDigits row⟩ :=
  ⟨columnLetters_ne_nil column, fun _ hc => isAsciiLetter_of_mem_columnLetters hc,
    fun _ hc => isDigit_of_isAsciiDigit (isAsciiDigit_of_mem_rowDigits hc)⟩

theorem printRef_eq_text (column : Nat) (row : Option Nat) :
    printRef column row = CellRef.text ⟨columnLetters column, rowDigits row⟩ false := by
  cases row <;> simp [printRef, CellRef.text, rowDigits]

/-- **A reference reads back.** -/
theorem CellRef.read?_printRef (column : Nat) (row : Option Nat) :
    CellRef.read? (printRef column row) = some ⟨columnLetters column, rowDigits row⟩ := by
  rw [printRef_eq_text]
  exact read?_text (isWellFormed_printed column row) false

theorem CellRef.column_printed (column : Nat) (digits : List Char) :
    CellRef.column ⟨columnLetters column, digits⟩ = column := by
  rw [CellRef.column, lettersValue_columnLetters]
  omega

theorem CellRef.row?_printed (letters : List Char) {row : Option Nat}
    (h : ∀ n, row = some n → IsRowNumber n) :
    CellRef.row? ⟨letters, rowDigits row⟩ = .ok (row.map Nat.cast) := by
  cases row with
  | none => rfl
  | some n =>
    have hne : (natDigits n).isEmpty = false := by
      rw [List.isEmpty_eq_false_iff]
      exact natDigits_ne_nil n
    have hlen : ¬ maxIntDigits < (natDigits n).length := Nat.not_lt.2 (h n rfl).2
    simp only [CellRef.row?, rowDigits, hne, Bool.false_eq_true, if_false, hlen,
      natOfDigits_natDigits]
    rfl

/-- No mark of a range stands in a reference. -/
theorem not_mem_printRef {mark : Char} (hletter : isAsciiLetter mark = false)
    (hdigit : isDigit mark = false) (column : Nat) (row : Option Nat) :
    mark ∉ printRef column row := by
  rw [printRef_eq_text]
  exact CellRef.not_mem_text (CellRef.isWellFormed_printed column row) hletter hdigit nofun

/-! ## Ranges -/

namespace CellRange

/-- The cell at a row and a column, both counted from 0, lies in the range. -/
def Contains (r : CellRange) (row column : Int) : Prop :=
  (r.startRow ≤ row ∧ row < r.endRow) ∧ r.startColumn ≤ column ∧ column < r.endColumn

/-- A range is reversed exactly if no cell lies in it. -/
theorem isReversed_iff (r : CellRange) :
    r.isReversed = true ↔ ∀ row column, ¬ r.Contains row column := by
  simp only [isReversed, Bool.or_eq_true, decide_eq_true_eq, Contains]
  constructor
  · intro h row column hcell
    omega
  · intro h
    have := h r.startRow r.startColumn
    omega

/-- The range of a title from a first to a last reference, as far as their rows are given. -/
def spanning (title : String) (firstColumn : Nat) (firstRow : Option Nat) (lastColumn : Nat)
    (lastRow : Option Nat) : CellRange :=
  ⟨title, firstColumn, rowStart firstRow, lastColumn + 1, rowEnd lastRow⟩

/-- A range with rows contains what lies between its corners. -/
theorem contains_spanning (title : String) (c₁ n₁ c₂ n₂ : Nat) (row column : Int) :
    (spanning title c₁ (some n₁) c₂ (some n₂)).Contains row column ↔
      ((n₁ : Int) - 1 ≤ row ∧ row ≤ (n₂ : Int) - 1) ∧ c₁ ≤ column ∧ column ≤ c₂ := by
  simp only [Contains, spanning, rowStart, rowEnd]
  omega

/-- The range that a title and cells denote; `range` is their text. -/
def ofCells (range : String) (title cells : List Char) : Except RangeError CellRange :=
  let (first, second) := cutAt ':' cells
  match CellRef.read? first, CellRef.read? (second.getD first) with
  | some first, some last => do
    let startRow ← first.row?
    let endRow ← last.row?
    .ok ⟨String.ofList title, first.column, (startRow.map (· - 1)).getD 0, last.column + 1,
      endRow.getD openEndRow⟩
  | _, _ => .error (.malformed range)

theorem read?_of_title {range : String} {before cells : List Char}
    (h : cutAt '!' range.toList = (before, some cells)) :
    read? range = ofCells range (stripQuotes before) cells := by
  rw [read?, h]
  rfl

theorem read?_of_noTitle {range : String} (h : cutAt '!' range.toList = (range.toList, none)) :
    read? range = ofCells range [] range.toList := by
  rw [read?, h]
  rfl

variable {c₁ c₂ : Nat} {r₁ r₂ : Option Nat}

theorem getD_rowStart (row : Option Nat) :
    ((row.map Nat.cast).map fun n : Int => n - 1).getD 0 = rowStart row := by
  cases row <;> rfl

theorem getD_rowEnd (row : Option Nat) : (row.map Nat.cast).getD openEndRow = rowEnd row := by
  cases row <;> rfl

/-- Two references with a colon between them. -/
theorem ofCells_two (h₁ : ∀ n, r₁ = some n → IsRowNumber n) (h₂ : ∀ n, r₂ = some n → IsRowNumber n)
    (range title : String) :
    ofCells range title.toList (printRef c₁ r₁ ++ ':' :: printRef c₂ r₂) =
      .ok (spanning title c₁ r₁ c₂ r₂) := by
  have hcolon : ':' ∉ printRef c₁ r₁ := not_mem_printRef rfl rfl c₁ r₁
  have hcut := cutAt_append hcolon (printRef c₂ r₂)
  simp only [ofCells, hcut, Option.getD_some, CellRef.read?_printRef, CellRef.row?_printed _ h₁,
    CellRef.row?_printed _ h₂, CellRef.column_printed, ok_bind, getD_rowStart, getD_rowEnd,
    String.ofList_toList, spanning]

/-- One reference stands for both. -/
theorem ofCells_one (h : ∀ n, r₁ = some n → IsRowNumber n) (range title : String) :
    ofCells range title.toList (printRef c₁ r₁) = .ok (spanning title c₁ r₁ c₁ r₁) := by
  have hcolon : ':' ∉ printRef c₁ r₁ := not_mem_printRef rfl rfl c₁ r₁
  have hcut := cutAt_of_not_mem hcolon
  simp only [ofCells, hcut, Option.getD_none, CellRef.read?_printRef, CellRef.row?_printed _ h,
    CellRef.column_printed, ok_bind, getD_rowStart, getD_rowEnd, String.ofList_toList, spanning]

/-- Cells of a sheet, whose title stands between quotes in front of them. -/
def printOn (title : String) (cells : List Char) : String :=
  String.ofList ('\'' :: (title.toList ++ ['\'']) ++ '!' :: cells)

theorem printRange_eq (title : String) (c₁ : Nat) (r₁ : Option Nat) (c₂ : Nat) (r₂ : Option Nat) :
    printRange title c₁ r₁ c₂ r₂ = printOn title (printRef c₁ r₁ ++ ':' :: printRef c₂ r₂) := by
  simp [printRange, printOn]

theorem read?_printOn {title : String} (h : '!' ∉ title.toList) (cells : List Char) :
    read? (printOn title cells) = ofCells (printOn title cells) title.toList cells := by
  have hquoted : '!' ∉ '\'' :: (title.toList ++ ['\'']) := by
    simp [h]
  have hcut := cutAt_append hquoted cells
  have hlist : (printOn title cells).toList = '\'' :: (title.toList ++ ['\'']) ++ '!' :: cells :=
    String.toList_ofList
  rw [← hlist] at hcut
  rw [read?_of_title hcut, stripQuotes_quoted]

theorem read?_ofList {cells : List Char} (h : '!' ∉ cells) :
    read? (String.ofList cells) = ofCells (String.ofList cells) "".toList cells := by
  have hlist : (String.ofList cells).toList = cells := String.toList_ofList
  rw [read?_of_noTitle (cutAt_of_not_mem (hlist.symm ▸ h)), hlist]
  rfl

/-- **A written range reads back**, with one reference or two, and with a title or without one. A cell
lies in a range with both rows exactly if it lies between the corners, which belong to the range. -/
theorem read?_printRange {title : String} (htitle : '!' ∉ title.toList) (c₁ c₂ : Nat)
    {r₁ r₂ : Option Nat} (h₁ : ∀ n, r₁ = some n → IsRowNumber n)
    (h₂ : ∀ n, r₂ = some n → IsRowNumber n) :
    read? (printRange title c₁ r₁ c₂ r₂) =
        .ok ⟨title, c₁, rowStart r₁, c₂ + 1, rowEnd r₂⟩ ∧
      read? (printOn title (printRef c₁ r₁)) = read? (printRange title c₁ r₁ c₁ r₁) ∧
      read? (String.ofList (printRef c₁ r₁ ++ ':' :: printRef c₂ r₂)) =
        .ok ⟨"", c₁, rowStart r₁, c₂ + 1, rowEnd r₂⟩ ∧
      read? (String.ofList (printRef c₁ r₁)) =
        read? (String.ofList (printRef c₁ r₁ ++ ':' :: printRef c₁ r₁)) ∧
      ∀ n₁ n₂, r₁ = some n₁ → r₂ = some n₂ →
        ∃ range, read? (printRange title c₁ r₁ c₂ r₂) = .ok range ∧ ∀ row column : Int,
          range.Contains row column ↔
            ((n₁ : Int) - 1 ≤ row ∧ row ≤ (n₂ : Int) - 1) ∧ c₁ ≤ column ∧ column ≤ c₂ := by
  have hone (c : Nat) (r : Option Nat) : '!' ∉ printRef c r := not_mem_printRef rfl rfl c r
  have htwo (c₂ : Nat) (r₂ : Option Nat) : '!' ∉ printRef c₁ r₁ ++ ':' :: printRef c₂ r₂ := by
    simp [hone]
  have hrange (c₂ : Nat) {r₂ : Option Nat} (h₂ : ∀ n, r₂ = some n → IsRowNumber n) :
      read? (printRange title c₁ r₁ c₂ r₂) = .ok (spanning title c₁ r₁ c₂ r₂) := by
    rw [printRange_eq, read?_printOn htitle, ofCells_two h₁ h₂]
  refine ⟨hrange c₂ h₂, ?_, ?_, ?_, ?_⟩
  · rw [hrange c₁ h₁, read?_printOn htitle, ofCells_one h₁]
  · rw [read?_ofList (htwo c₂ r₂), ofCells_two h₁ h₂]
    rfl
  · rw [read?_ofList (hone c₁ r₁), ofCells_one h₁, read?_ofList (htwo c₁ r₁), ofCells_two h₁ h₁]
  · rintro n₁ n₂ rfl rfl
    exact ⟨_, hrange c₂ h₂, contains_spanning title c₁ n₁ c₂ n₂⟩

/-- The title has quotes and a colon of its own, and the second row is left out. -/
theorem read?_printRange_quotes :
    '!' ∉ "it's 'A1:B2'".toList ∧ IsRowNumber 7 ∧
      printRange "it's 'A1:B2'" 26 (some 7) 701 none = "'it's 'A1:B2''!AA7:ZZ" ∧
      read? (printRange "it's 'A1:B2'" 26 (some 7) 701 none) =
        .ok ⟨"it's 'A1:B2'", 26, 6, 702, 1000⟩ := by
  have htitle : '!' ∉ "it's 'A1:B2'".toList := by decide
  have hlength : (natDigits 7).length ≤ 1 := length_natDigits_le Nat.one_pos (by decide)
  have hseven : IsRowNumber 7 := ⟨by decide, Nat.le_trans hlength (by decide)⟩
  refine ⟨htitle, hseven, by decide +kernel, ?_⟩
  exact (read?_printRange htitle 26 701 (by rintro n ⟨⟩; exact hseven) (by rintro n ⟨⟩)).1

end CellRange

end WorkspaceTools
