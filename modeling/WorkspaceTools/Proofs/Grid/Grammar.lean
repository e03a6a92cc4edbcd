import WorkspaceTools.Proofs.Grid.Range

/-!
# The ranges of the reader

A range is one reference to a cell, or two with a colon between them, and a title may stand in front.

* `CellRange.IsCells`, `CellRange.IsRange`: the grammar, together with the line feed that may stand behind a
  reference. The grammar that is documented is the one without such line feeds.
* A text has its title cut off in one way (`CellRange.isRange_iff`), and its references tell whether it is read
  (`CellRange.read?_of_isRange`, `CellRange.read?_of_not_isRange`).
* `CellRange.readsAsDocumented_iff`: reading a text follows the documented grammar exactly if no line feed
  stands behind a reference and no row has too many digits.
-/

namespace WorkspaceTools

open Number Text

namespace CellRange

/-! ## Two references -/

/-- The range of a title from a first reference to a last one. -/
def ofRefs (title : List Char) (first last : CellRef) : Except RangeError CellRange := do
  let startRow ← first.row?
  let endRow ← last.row?
  .ok ⟨String.ofList title, first.column, (startRow.map (· - 1)).getD 0, last.column + 1,
    endRow.getD openEndRow⟩

/-- A row of one of the references has more digits than are read. -/
def IsTooLong (first last : CellRef) : Prop :=
  maxIntDigits < first.digits.length ∨ maxIntDigits < last.digits.length

variable {first last : CellRef} {title : List Char}

theorem exists_ofRefs_eq_ok (h : ¬IsTooLong first last) : ∃ r, ofRefs title first last = .ok r := by
  obtain ⟨hfirst, hlast⟩ := not_or.1 h
  rw [ofRefs, CellRef.row?_of_le (Nat.not_lt.1 hfirst), ok_bind, CellRef.row?_of_le (Nat.not_lt.1 hlast),
    ok_bind]
  exact ⟨_, rfl⟩

/-- The first row that has too many digits is refused. -/
theorem exists_ofRefs_eq_error (h : IsTooLong first last) :
    ∃ count, maxIntDigits < count ∧ ofRefs title first last = .error (.tooManyDigits count) := by
  rcases Nat.lt_or_ge maxIntDigits first.digits.length with hfirst | hfirst
  · refine ⟨_, hfirst, ?_⟩
    rw [ofRefs, CellRef.row?_of_lt hfirst, error_bind]
  · have hlast := h.resolve_left (Nat.not_lt.2 hfirst)
    refine ⟨_, hlast, ?_⟩
    rw [ofRefs, CellRef.row?_of_le hfirst, ok_bind, CellRef.row?_of_lt hlast, error_bind]

/-! ## Cells -/

/-- One reference, or two with a colon between them, and whether a line feed stands behind one of them. -/
inductive IsCells : Bool → CellRef → CellRef → List Char → Prop
  | one {ref : CellRef} (h : ref.IsWellFormed) (feed : Bool) : IsCells feed ref ref (ref.text feed)
  | two {first last : CellRef} (hfirst : first.IsWellFormed) (hlast : last.IsWellFormed) (feed feed' : Bool) :
    IsCells (feed || feed') first last (first.text feed ++ ':' :: last.text feed')

variable {feed : Bool} {cells : List Char}

/-- No title ends inside of cells. -/
theorem IsCells.not_mem (h : IsCells feed first last cells) : '!' ∉ cells := by
  have hmark : isAsciiLetter '!' = false ∧ isDigit '!' = false ∧ '!' ≠ '\n' := by decide
  have htext {ref : CellRef} (h : ref.IsWellFormed) (feed : Bool) : '!' ∉ ref.text feed :=
    CellRef.not_mem_text h hmark.1 hmark.2.1 fun _ => hmark.2.2
  cases h with
  | one h feed => exact htext h feed
  | two hfirst hlast feed feed' => simp [htext hfirst, htext hlast]

theorem IsCells.lineFeed_mem_iff (h : IsCells feed first last cells) : '\n' ∈ cells ↔ feed = true := by
  cases h with
  | one h feed => exact CellRef.lineFeed_mem_text_iff h
  | two hfirst hlast feed feed' =>
    simp [CellRef.lineFeed_mem_text_iff hfirst, CellRef.lineFeed_mem_text_iff hlast]

theorem not_colon_mem_text {ref : CellRef} (h : ref.IsWellFormed) (feed : Bool) : ':' ∉ ref.text feed := by
  have hmark : isAsciiLetter ':' = false ∧ isDigit ':' = false ∧ ':' ≠ '\n' := by decide
  exact CellRef.not_mem_text h hmark.1 hmark.2.1 fun _ => hmark.2.2

/-- Cells are cut at their colon, and the range is that of their references. -/
theorem ofCells_of_isCells (h : IsCells feed first last cells) (range : String) (title : List Char) :
    ofCells range title cells = ofRefs title first last := by
  cases h with
  | one h feed =>
    have hcut := cutAt_of_not_mem (not_colon_mem_text h feed)
    simp only [ofCells, hcut, Option.getD_none, CellRef.read?_text h, ofRefs]
  | two hfirst hlast feed feed' =>
    have hcut := cutAt_append (not_colon_mem_text hfirst feed) (last.text feed')
    simp only [ofCells, hcut, Option.getD_some, CellRef.read?_text hfirst, CellRef.read?_text hlast, ofRefs]

/-- What is read as one reference or two is one reference or two. -/
theorem exists_isCells_of_cutAt {before : List Char} {after : Option (List Char)}
    (hcut : cutAt ':' cells = (before, after)) (hfirst : CellRef.read? before = some first)
    (hlast : CellRef.read? (after.getD before) = some last) : ∃ feed, IsCells feed first last cells := by
  obtain ⟨hfirst', feed, hbefore⟩ := CellRef.read?_eq_some_iff.1 hfirst
  cases after with
  | none =>
    obtain ⟨-, hcells⟩ := cutAt_eq_none_iff.1 hcut
    obtain rfl : first = last := Option.some.inj (hfirst.symm.trans hlast)
    rw [← hcells, hbefore]
    exact ⟨feed, .one hfirst' feed⟩
  | some after =>
    obtain ⟨-, hcells⟩ := cutAt_eq_some_iff.1 hcut
    obtain ⟨hlast', feed', hafter⟩ := CellRef.read?_eq_some_iff.1 hlast
    rw [Option.getD_some] at hafter
    rw [hcells, hbefore, hafter]
    exact ⟨_, .two hfirst' hlast' feed feed'⟩

theorem ofCells_of_not_isCells (h : ¬∃ feed first last, IsCells feed first last cells) (range : String)
    (title : List Char) : ofCells range title cells = .error (.malformed range) := by
  rw [ofCells]
  cases hcut : cutAt ':' cells with
  | mk before after =>
    cases hfirst : CellRef.read? before with
    | none => simp only [hfirst]
    | some first =>
      cases hlast : CellRef.read? (after.getD before) with
      | none => simp only [hfirst, hlast]
      | some last =>
        obtain ⟨feed, hcells⟩ := exists_isCells_of_cutAt hcut hfirst hlast
        exact absurd ⟨feed, first, last, hcells⟩ h

/-! ## Ranges -/

/-- Cells, or cells behind a title and the first exclamation mark. -/
inductive IsRange (feed : Bool) (first last : CellRef) : List Char → Prop
  | here {cells : List Char} (h : IsCells feed first last cells) : IsRange feed first last cells
  | onSheet {title cells : List Char} (htitle : '!' ∉ title) (h : IsCells feed first last cells) :
    IsRange feed first last (title ++ '!' :: cells)

/-- The cells that a range names, behind its title. -/
def cellsOf (range : String) : List Char :=
  match cutAt '!' range.toList with
  | (_, some cells) => cells
  | (cells, none) => cells

theorem exists_read?_eq_ofCells (range : String) :
    ∃ title, read? range = ofCells range title (cellsOf range) := by
  unfold cellsOf
  cases hcut : cutAt '!' range.toList with
  | mk before after =>
    cases after with
    | some cells => exact ⟨_, read?_of_title hcut⟩
    | none =>
      refine ⟨[], ?_⟩
      rw [read?, hcut]
      rfl

variable {s : String}

/-- A title is cut off at the first mark, and cells have none. -/
theorem isRange_iff : IsRange feed first last s.toList ↔ IsCells feed first last (cellsOf s) := by
  unfold cellsOf
  generalize s.toList = cs
  constructor
  · intro h
    cases h with
    | here h =>
      rw [cutAt_of_not_mem h.not_mem]
      exact h
    | onSheet htitle h =>
      rw [cutAt_append htitle]
      exact h
  · cases hcut : cutAt '!' cs with
    | mk before after =>
      intro h
      cases after with
      | none =>
        obtain ⟨-, rfl⟩ := cutAt_eq_none_iff.1 hcut
        exact .here h
      | some cells =>
        obtain ⟨htitle, rfl⟩ := cutAt_eq_some_iff.1 hcut
        exact .onSheet htitle h

theorem read?_of_isRange (h : IsRange feed first last s.toList) : ∃ title, read? s = ofRefs title first last := by
  obtain ⟨title, htitle⟩ := exists_read?_eq_ofCells s
  refine ⟨title, ?_⟩
  rw [htitle, ofCells_of_isCells (isRange_iff.1 h)]

theorem read?_of_not_isRange (h : ¬∃ feed first last, IsRange feed first last s.toList) :
    read? s = .error (.malformed s) := by
  obtain ⟨title, htitle⟩ := exists_read?_eq_ofCells s
  rw [htitle]
  refine ofCells_of_not_isCells ?_ s title
  rintro ⟨feed, first, last, hcells⟩
  exact h ⟨feed, first, last, isRange_iff.2 hcells⟩

/-- A line feed stands behind a reference or behind none, in whatever way a range is taken apart. -/
theorem feed_eq_of_isRange {feed' : Bool} {first' last' : CellRef} (h : IsRange feed first last s.toList)
    (h' : IsRange feed' first' last' s.toList) : feed = feed' := by
  rw [Bool.eq_iff_iff, ← (isRange_iff.1 h).lineFeed_mem_iff, (isRange_iff.1 h').lineFeed_mem_iff]

/-! ## The documented grammar -/

/-- A range with a line feed behind one of its references. -/
def HasLineFeed (s : String) : Prop := ∃ first last, IsRange true first last s.toList

/-- A range with a row of more digits than are read. -/
def HasLongRow (s : String) : Prop :=
  ∃ feed first last, IsRange feed first last s.toList ∧ IsTooLong first last

/-- What is documented of the reader: it reads the ranges of the grammar without line feeds, and refuses all
other texts with an error that carries them. -/
structure ReadsAsDocumented (s : String) : Prop where
  reads_iff : (∃ r, read? s = .ok r) ↔ ∃ first last, IsRange false first last s.toList
  refuses : ∀ fault, read? s = .error fault → fault = .malformed s

theorem read?_of_hasLongRow (h : HasLongRow s) :
    ∃ count, maxIntDigits < count ∧ read? s = .error (.tooManyDigits count) := by
  obtain ⟨feed, first, last, hrange, hlong⟩ := h
  obtain ⟨title, htitle⟩ := read?_of_isRange hrange
  rw [htitle]
  exact exists_ofRefs_eq_error hlong

theorem exists_read?_of_isRange (h : IsRange feed first last s.toList) (hlong : ¬HasLongRow s) :
    ∃ r, read? s = .ok r := by
  obtain ⟨title, htitle⟩ := read?_of_isRange h
  rw [htitle]
  apply exists_ofRefs_eq_ok
  intro htoolong
  exact hlong ⟨feed, first, last, h, htoolong⟩

theorem readsAsDocumented_of_not (hfeed : ¬HasLineFeed s) (hlong : ¬HasLongRow s) : ReadsAsDocumented s := by
  by_cases hrange : ∃ feed first last, IsRange feed first last s.toList
  · obtain ⟨feed, first, last, hrange⟩ := hrange
    obtain ⟨r, hr⟩ := exists_read?_of_isRange hrange hlong
    refine ⟨?_, ?_⟩
    · cases feed with
      | true => exact absurd ⟨first, last, hrange⟩ hfeed
      | false => exact iff_of_true ⟨r, hr⟩ ⟨first, last, hrange⟩
    · intro fault hfault
      rw [hr] at hfault
      cases hfault
  · have hmalformed := read?_of_not_isRange hrange
    refine ⟨iff_of_false ?_ ?_, ?_⟩
    · rintro ⟨r, hr⟩
      rw [hmalformed] at hr
      cases hr
    · rintro ⟨first, last, h⟩
      exact hrange ⟨false, first, last, h⟩
    · intro fault hfault
      exact (Except.error.inj (hmalformed.symm.trans hfault)).symm

/-- **The reader follows its grammar up to two cases**: a line feed behind a reference, with which a range is
read, and a row of too many digits, which is refused for their count. -/
theorem readsAsDocumented_iff (s : String) :
    (ReadsAsDocumented s ↔ ¬HasLineFeed s ∧ ¬HasLongRow s) ∧
      (HasLongRow s → ∃ count, maxIntDigits < count ∧ read? s = .error (.tooManyDigits count)) ∧
      (HasLineFeed s → ¬HasLongRow s → ∃ r, read? s = .ok r) := by
  have hfed : HasLineFeed s → ¬HasLongRow s → ∃ r, read? s = .ok r := by
    rintro ⟨first, last, hrange⟩ hlong
    exact exists_read?_of_isRange hrange hlong
  refine ⟨⟨?_, ?_⟩, read?_of_hasLongRow, hfed⟩
  · intro hdocumented
    have hlong : ¬HasLongRow s := by
      intro hlong
      obtain ⟨count, -, hcount⟩ := read?_of_hasLongRow hlong
      cases hdocumented.refuses _ hcount
    refine ⟨?_, hlong⟩
    intro hfeed
    obtain ⟨first, last, hplain⟩ := hdocumented.reads_iff.1 (hfed hfeed hlong)
    obtain ⟨first', last', hrange⟩ := hfeed
    cases feed_eq_of_isRange hplain hrange
  · rintro ⟨hfeed, hlong⟩
    exact readsAsDocumented_of_not hfeed hlong

/-- A line feed behind the one reference of a range. -/
theorem readsAsDocumented_iff_lineFeed :
    HasLineFeed "A1\n" ∧ ¬HasLongRow "A1\n" ∧ ¬ReadsAsDocumented "A1\n" ∧
      read? "A1\n" = .ok ⟨"", 0, 0, 1, 1⟩ := by
  have href : CellRef.IsWellFormed ⟨['A'], ['1']⟩ :=
    ⟨List.cons_ne_nil _ _, List.forall_mem_singleton.2 rfl, List.forall_mem_singleton.2 rfl⟩
  have hlist : "A1\n".toList = CellRef.text ⟨['A'], ['1']⟩ true := by decide
  have hfeed : HasLineFeed "A1\n" := by
    refine ⟨⟨['A'], ['1']⟩, ⟨['A'], ['1']⟩, ?_⟩
    rw [hlist]
    exact .here (.one href true)
  have hread : read? "A1\n" = .ok ⟨"", 0, 0, 1, 1⟩ := by decide +kernel
  obtain ⟨hdocumented, hlong, -⟩ := readsAsDocumented_iff "A1\n"
  have hshort : ¬HasLongRow "A1\n" := by
    intro h
    obtain ⟨count, -, hcount⟩ := hlong h
    rw [hread] at hcount
    cases hcount
  exact ⟨hfeed, hshort, fun h => (hdocumented.1 h).1 hfeed, hread⟩

end CellRange

end WorkspaceTools
