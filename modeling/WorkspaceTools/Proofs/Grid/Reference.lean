import Mathlib.Data.List.TakeWhile
import WorkspaceTools.Grid.Range
import WorkspaceTools.Proofs.Grid.Column
import WorkspaceTools.Proofs.Number.Decimal
import WorkspaceTools.Proofs.Outcome

/-!
# References to cells

A reference is letters and the digits of a row, which may be missing.

* `CellRef.read?_eq_some_iff`: what is read as a reference is its text (`CellRef.text`), behind which a line
  feed may stand. No digit of any script is a letter (`not_isAsciiLetter_of_isDigit`), so the letters and the
  digits of a text are told apart.
* `CellRef.not_mem_text`: no mark of a range stands in the text of a reference.
* `CellRef.row?_of_le`, `CellRef.row?_of_lt`: the row of a reference is read unless its digits are too many.
-/

namespace WorkspaceTools

open Number Text

/-! ## Letters and digits -/

theorem exists_zero_of_isDigit {c : Char} (h : isDigit c = true) :
    ∃ z ∈ digitZeros, z ≤ c.toNat ∧ c.toNat < z + 10 := by
  rw [isDigit, digitValue?, Option.isSome_map, List.find?_isSome] at h
  simpa only [Bool.and_eq_true, decide_eq_true_eq] using h

/-- The letters stand between two blocks of digits. -/
theorem not_isAsciiLetter_of_isDigit {c : Char} (h : isDigit c = true) : isAsciiLetter c = false := by
  have hblocks : ∀ z ∈ digitZeros, z + 10 ≤ 65 ∨ 123 ≤ z := by decide
  obtain ⟨z, hmem, hlow, hhigh⟩ := exists_zero_of_isDigit h
  have hblock := hblocks z hmem
  simp only [isAsciiLetter, Bool.or_eq_false_iff, Bool.and_eq_false_iff, decide_eq_false_iff_not,
    Char.le_def, UInt32.le_iff_toNat_le]
  rw [Char.toNat] at hlow hhigh
  have hA : 'A'.val.toNat = 65 := rfl
  have hZ : 'Z'.val.toNat = 90 := rfl
  have ha : 'a'.val.toNat = 97 := rfl
  have hz : 'z'.val.toNat = 122 := rfl
  omega

theorem isDigit_of_isAsciiDigit {c : Char} (h : isAsciiDigit c = true) : isDigit c = true := by
  simp only [isAsciiDigit, Bool.and_eq_true, decide_eq_true_eq, Char.le_def,
    UInt32.le_iff_toNat_le] at h
  have hzero : '0'.val.toNat = 0x30 := rfl
  have hnine : '9'.val.toNat = 0x39 := rfl
  have hlow : 0x30 ≤ c.toNat := by
    rw [Char.toNat]
    omega
  have hhigh : c.toNat < 0x30 + 10 := by
    rw [Char.toNat]
    omega
  simp [isDigit, digitValue?, digitZeros, hlow, hhigh]

/-! ## Texts of references -/

namespace CellRef

/-- One or more letters, and digits of any script or none. -/
structure IsWellFormed (ref : CellRef) : Prop where
  ne_nil : ref.letters ≠ []
  letters : ∀ c ∈ ref.letters, isAsciiLetter c = true
  digits : ∀ c ∈ ref.digits, isDigit c = true

/-- The letters and the digits of a reference, and a line feed if there is one. -/
def text (ref : CellRef) (feed : Bool) : List Char :=
  ref.letters ++ (ref.digits ++ if feed then ['\n'] else [])

variable {ref : CellRef} {cs : List Char} {feed : Bool} {mark : Char}

/-- Whatever is read is a reference, and nothing else stands in its text. -/
theorem eq_text_of_read? (h : read? cs = some ref) : ref.IsWellFormed ∧ ∃ feed, cs = ref.text feed := by
  unfold read? at h
  simp only at h
  split at h
  · rename_i hread
    obtain rfl := Option.some.inj h
    rw [Bool.and_eq_true, Bool.not_eq_true', List.isEmpty_eq_false_iff, Bool.or_eq_true, List.isEmpty_iff,
      beq_iff_eq] at hread
    obtain ⟨hne, htail⟩ := hread
    have hletters : ∀ c ∈ cs.takeWhile isAsciiLetter, isAsciiLetter c = true := fun c => List.mem_takeWhile_imp
    have hdigits : ∀ c ∈ (cs.dropWhile isAsciiLetter).takeWhile isDigit, isDigit c = true :=
      fun c => List.mem_takeWhile_imp
    refine ⟨⟨hne, hletters, hdigits⟩, ?_⟩
    have hcs := List.takeWhile_append_dropWhile (p := isAsciiLetter) (l := cs)
    have hrest := List.takeWhile_append_dropWhile (p := isDigit) (l := cs.dropWhile isAsciiLetter)
    rcases htail with hnil | hfeed
    · rw [hnil] at hrest
      exact ⟨false, (hrest.symm ▸ hcs).symm⟩
    · rw [hfeed] at hrest
      exact ⟨true, (hrest.symm ▸ hcs).symm⟩
  · cases h

/-- The text of a reference is taken apart at its first digit, and at the line feed. -/
theorem read?_text (h : ref.IsWellFormed) (feed : Bool) : read? (ref.text feed) = some ref := by
  have hfeed : isAsciiLetter '\n' = false ∧ isDigit '\n' = false := by decide
  have hdigit : ∀ c ∈ (if feed then ['\n'] else []).head?, isDigit c = false := by
    cases feed with
    | false => rintro c ⟨⟩
    | true =>
      rintro c ⟨⟩
      exact hfeed.2
  have hletter : ∀ c ∈ (ref.digits ++ if feed then ['\n'] else []).head?, isAsciiLetter c = false := by
    cases hdigits : ref.digits with
    | nil =>
      cases feed with
      | false => rintro c ⟨⟩
      | true =>
        rintro c ⟨⟩
        exact hfeed.1
    | cons digit digits =>
      rintro c ⟨⟩
      exact not_isAsciiLetter_of_isDigit (h.digits _ (hdigits ▸ List.mem_cons_self))
  have hne : ref.letters.isEmpty = false := List.isEmpty_eq_false_iff.2 h.ne_nil
  rw [read?, text, takeWhile_run h.letters hletter, dropWhile_run h.letters hletter, takeWhile_run h.digits hdigit,
    dropWhile_run h.digits hdigit, hne]
  cases feed <;> rfl

/-- **The references of the reader** are letters, digits and at most one line feed. -/
theorem read?_eq_some_iff : read? cs = some ref ↔ ref.IsWellFormed ∧ ∃ feed, cs = ref.text feed := by
  constructor
  · exact eq_text_of_read?
  · rintro ⟨href, feed, rfl⟩
    exact read?_text href feed

/-- No mark of a range stands in a reference. -/
theorem not_mem_text (h : ref.IsWellFormed) (hletter : isAsciiLetter mark = false)
    (hdigit : isDigit mark = false) (hfeed : feed = true → mark ≠ '\n') : mark ∉ ref.text feed := by
  simp only [text, List.mem_append, not_or]
  refine ⟨?_, ?_, ?_⟩
  · intro hmem
    rw [h.letters mark hmem] at hletter
    cases hletter
  · intro hmem
    rw [h.digits mark hmem] at hdigit
    cases hdigit
  · intro hmem
    cases feed with
    | false => cases hmem
    | true => exact hfeed rfl (List.mem_singleton.1 hmem)

theorem lineFeed_mem_text_iff (h : ref.IsWellFormed) : '\n' ∈ ref.text feed ↔ feed = true := by
  cases feed with
  | false =>
    have hdigits : '\n' ∉ ref.digits := fun hmem => absurd (h.digits _ hmem) (by decide)
    have hletters : '\n' ∉ ref.letters := fun hmem => absurd (h.letters _ hmem) (by decide)
    simp [text, hletters, hdigits]
  | true => simp [text]

/-! ## Columns and rows -/

theorem column_nonneg (h : ref.IsWellFormed) : 0 ≤ ref.column := by
  have hpos := lettersValue_pos h.ne_nil h.letters
  rw [column]
  omega

/-- A row is that of the digits, if there are any. -/
theorem row?_of_le (h : ref.digits.length ≤ maxIntDigits) :
    ref.row? = .ok (if ref.digits = [] then none else some (natOfDigits ref.digits : Int)) := by
  rw [row?]
  by_cases hdigits : ref.digits = []
  · rw [hdigits]
    rfl
  · rw [if_neg (by simpa using hdigits), if_neg (Nat.not_lt.2 h), if_neg hdigits]

theorem row?_of_lt (h : maxIntDigits < ref.digits.length) :
    ref.row? = .error (.tooManyDigits ref.digits.length) := by
  have hdigits : ref.digits.isEmpty = false := by
    rw [List.isEmpty_eq_false_iff, ← List.length_pos_iff]
    exact Nat.zero_lt_of_lt h
  rw [row?, hdigits, if_neg (by decide), if_pos h]

theorem row?_eq_ok {row : Option Int} (h : ref.row? = .ok row) :
    row = if ref.digits = [] then none else some (natOfDigits ref.digits : Int) := by
  rcases Nat.lt_or_ge maxIntDigits ref.digits.length with hlt | hle
  · rw [row?_of_lt hlt] at h
    cases h
  · rw [row?_of_le hle] at h
    exact (Except.ok.inj h).symm

end CellRef

end WorkspaceTools
