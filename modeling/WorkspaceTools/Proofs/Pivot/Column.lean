import WorkspaceTools.Proofs.Check.Numeral
import WorkspaceTools.Proofs.Grid.Reference
import WorkspaceTools.Proofs.Grid.Resolution
import WorkspaceTools.Proofs.Pivot.Checked

/-!
# The columns that checks take

A check takes a reference to a column as it is. It takes documents of other kinds for an index as well: truth
values, whole numbers with a point, and numerals in texts. None of them leads to a column by itself.

* `StandsForIndex`: these documents, and the index that each of them is taken for
  (`StandsForIndex.exists_error`: none is resolved).
* `checkColumn_eq_ok_iff`: what a check takes for a column, and for which one.
* `checks_keepColumn_iff`: groupings, values and filters keep a column that is given to them exactly if it is
  not a document of these kinds.
-/

namespace WorkspaceTools

open Number Text

/-! ## Documents that stand for an index -/

/-- A document that is taken for an index, although it is none. Whole numbers with a point are taken if they fit
into 64 bits. -/
inductive StandsForIndex : Json → Int → Prop
  | truthValue (b : Bool) : StandsForIndex (.bool b) (if b then 1 else 0)
  | wholeNumber {x : Binary64} {i : Int} (hx : x.toInt? = some i) (hi : 0 ≤ i) (hbound : i < wordBound) :
    StandsForIndex (.float x) i
  | numeral {s : String} {i : Int} (hs : intOfNumeral s.toList = .ok i) (hi : 0 ≤ i) : StandsForIndex (.str s) i

namespace StandsForIndex

variable {v : Json} {i j : Int}

theorem unique (hi : StandsForIndex v i) (hj : StandsForIndex v j) : i = j := by
  cases hi with
  | truthValue b =>
    cases hj
    rfl
  | wholeNumber hx =>
    cases hj with
    | wholeNumber hx' => exact Option.some.inj (hx.symm.trans hx')
  | numeral hs =>
    cases hj with
    | numeral hs' => exact Except.ok.inj (hs.symm.trans hs')

/-- The digit of a numeral is neither a letter nor a line feed. -/
theorem not_resolves (h : StandsForIndex v i) : ¬(IsColumn v ∨ HasLineFeed v) := by
  cases h with
  | truthValue b =>
    rintro (hcolumn | ⟨s, -, hs⟩)
    · exact hcolumn
    · cases hs
  | wholeNumber =>
    rintro (hcolumn | ⟨s, -, hs⟩)
    · exact hcolumn
    · cases hs
  | numeral hs =>
    obtain ⟨c, hc, hdigit⟩ := exists_isAsciiDigit_of_intOfNumeral hs
    have hletter := not_isAsciiLetter_of_isDigit (isDigit_of_isAsciiDigit hdigit)
    rintro (⟨-, hletters⟩ | ⟨t, ⟨-, hletters⟩, ht⟩)
    · rw [hletters c hc] at hletter
      cases hletter
    · obtain rfl := Json.str.inj ht
      rw [String.toList_append, List.mem_append] at hc
      rcases hc with hc | hc
      · rw [hletters c hc] at hletter
        cases hletter
      · obtain rfl : c = '\n' := List.mem_singleton.1 hc
        cases hdigit

/-- Such a document does not lead to a column, and the error carries it. -/
theorem exists_error (h : StandsForIndex v i) : ∃ fault, resolveColumn v = .error fault ∧ fault.value = v := by
  cases hv : resolveColumn v with
  | ok index => exact absurd (exists_resolveColumn_eq_ok_iff.1 ⟨index, hv⟩) h.not_resolves
  | error fault => exact ⟨fault, rfl, GridError.value_of_resolveColumn hv⟩

end StandsForIndex

/-! ## What is taken -/

variable {v w : Json}

/-- An index is given as one, or by a document that stands for it. -/
theorem checkIntFrom_zero_eq_ok {i : Int} :
    checkIntFrom 0 v = .ok i ↔ (v = .int i ∧ 0 ≤ i) ∨ StandsForIndex v i := by
  rw [checkIntFrom, ensure_eq_ok, decide_eq_true_eq]
  constructor
  · rintro ⟨hv, hi⟩
    cases v with
    | int j =>
      obtain rfl := Except.ok.inj hv
      exact .inl ⟨rfl, hi⟩
    | bool b =>
      obtain rfl := Except.ok.inj hv
      exact .inr (.truthValue b)
    | float x =>
      simp only [checkInt] at hv
      split at hv
      · cases hv
      · split at hv
        · cases hv
        · rename_i hx
          split at hv
          · rename_i hbound
            obtain rfl := Except.ok.inj hv
            exact .inr (.wholeNumber hx hi hbound.2)
          · cases hv
    | str s =>
      simp only [checkInt] at hv
      split at hv
      · rename_i hs
        obtain rfl := Except.ok.inj hv
        exact .inr (.numeral hs hi)
      · cases hv
    | null => cases hv
    | arr items => cases hv
    | obj ms => cases hv
  · rintro (⟨rfl, hi⟩ | hstands)
    · exact ⟨rfl, hi⟩
    · cases hstands with
      | truthValue b => cases b <;> exact ⟨rfl, by decide⟩
      | @wholeNumber x _ hx hi hbound =>
        have hfinite : x.isFinite = true := by
          cases x with
          | finite => rfl
          | infinite => cases hx
          | nan => cases hx
        have hlower : -(wordBound : Int) < i := by
          have hpos : (0 : Int) < wordBound := by decide
          omega
        refine ⟨?_, hi⟩
        simp only [checkInt, hfinite, hx, Bool.not_true, Bool.false_eq_true, if_false, hlower, hbound, and_self,
          if_true]
      | numeral hs hi => exact ⟨by simp only [checkInt, hs], hi⟩

theorem checkColumnLetters_eq_ok {s : String} :
    checkColumnLetters v = .ok s ↔ v = .str s ∧ IsColumn (.str s) := by
  rw [checkColumnLetters, ensure_eq_ok, Bool.and_eq_true, bne_iff_ne, List.all_eq_true]
  cases v <;> simp [checkText, issueHere, IsColumn]

/-- What one of the two alternatives takes: an index, or letters. -/
theorem mem_alternatives_iff :
    Except.ok w ∈ [Checked.under (.member "constrained-int") ((checkIntFrom 0 v).map Json.int),
        Checked.under (.member "constrained-str") ((checkColumnLetters v).map Json.str)] ↔
      (IsColumn v ∧ w = v) ∨ ∃ i, StandsForIndex v i ∧ w = .int i := by
  rw [List.mem_cons, List.mem_singleton, eq_comm, under_eq_ok, eq_comm (a := Except.ok w), under_eq_ok, map_eq_ok,
    map_eq_ok]
  simp only [checkIntFrom_zero_eq_ok, checkColumnLetters_eq_ok]
  constructor
  · rintro (⟨i, ⟨rfl, hi⟩ | hstands, rfl⟩ | ⟨s, ⟨rfl, hs⟩, rfl⟩)
    · exact .inl ⟨hi, rfl⟩
    · exact .inr ⟨i, hstands, rfl⟩
    · exact .inl ⟨hs, rfl⟩
  · rintro (⟨hv, rfl⟩ | ⟨i, hstands, rfl⟩)
    · match w, hv with
      | .int i, hi => exact .inl ⟨i, .inl ⟨rfl, hi⟩, rfl⟩
      | .str s, hs => exact .inr ⟨s, ⟨rfl, hs⟩, rfl⟩
    · exact .inl ⟨i, .inr hstands, rfl⟩

/-- **What a check takes for a column**: a reference, as it is, or a document that stands for an index. -/
theorem checkColumn_eq_ok_iff :
    checkColumn v = .ok w ↔ (IsColumn v ∧ w = v) ∨ ∃ i, StandsForIndex v i ∧ w = .int i := by
  constructor
  · intro h
    exact mem_alternatives_iff.1 (mem_of_firstOf h)
  · intro h
    obtain ⟨w', hw'⟩ := exists_firstOf_of_mem (mem_alternatives_iff.2 h)
    have h' := mem_alternatives_iff.1 (mem_of_firstOf hw')
    -- no document is taken in two ways
    obtain rfl : w' = w := by
      rcases h with ⟨hv, rfl⟩ | ⟨i, hi, rfl⟩
      · rcases h' with ⟨-, rfl⟩ | ⟨j, hj, -⟩
        · rfl
        · exact absurd (.inl hv) hj.not_resolves
      · rcases h' with ⟨hv, -⟩ | ⟨j, hj, rfl⟩
        · exact absurd (.inl hv) hi.not_resolves
        · rw [hi.unique hj]
    exact hw'

/-! ## Models -/

section

variable {α : Type} (check : Json → Checked α) (column : α → Option Json)

/-- Wherever the column is accepted, it leads to an index, and the column that is taken for it to the same one. -/
def KeepsColumn (v : Json) : Prop :=
  ∀ (ms : Members) (a : α), ms.find? "source_column" = some v → check (.obj ms) = .ok a →
    ∃ w index, column a = some w ∧ resolveColumn v = .ok index ∧ resolveColumn w = .ok index

/-- A model has the column that the check takes for the given one, and there is one for every column that is
taken. -/
structure ReadsColumn (v : Json) : Prop where
  taken : ∀ (ms : Members) (a : α), ms.find? "source_column" = some v → check (.obj ms) = .ok a →
    ∃ w, column a = some w ∧ checkColumn v = .ok w
  takes : ∀ w, checkColumn v = .ok w →
    ∃ (ms : Members) (a : α), ms.find? "source_column" = some v ∧ check (.obj ms) = .ok a ∧ column a = some w

end

theorem PivotGroup.readsColumn (v : Json) : ReadsColumn check (fun g => some g.sourceColumn) v := by
  constructor
  · intro ms g hv h
    simp only [check, checkObject] at h
    split at h
    · rename_i hcolumn _ _ _ _ _ _
      cases h
      exact ⟨_, rfl, check_of_required hv hcolumn⟩
    · cases h
  · intro w hw
    refine ⟨[("source_column", v)], { sourceColumn := w }, rfl, ?_, rfl⟩
    simp [check, checkObject, required, optional, Members.find?, hw, Checked.under]

theorem PivotFilter.readsColumn (v : Json) : ReadsColumn check (fun f => some f.sourceColumn) v := by
  constructor
  · intro ms f hv h
    simp only [check, checkObject] at h
    split at h
    · rename_i hcolumn _ _
      cases h
      exact ⟨_, rfl, check_of_required hv hcolumn⟩
    · cases h
  · intro w hw
    refine ⟨[("source_column", v)], { sourceColumn := w }, rfl, ?_, rfl⟩
    simp [check, checkObject, required, optional, Members.find?, hw, Checked.under]

/-- Null is no column of a value, but stands for none. -/
theorem PivotValue.readsColumn {v : Json} (hnull : v ≠ .null) : ReadsColumn check sourceColumn v := by
  constructor
  · intro ms a hv h
    simp only [check, checkObject] at h
    split at h
    · rename_i hcolumn _ _ _ _
      split at h
      · cases h
      · cases h
        rcases optional_eq_ok.1 hcolumn with ⟨hnone, -⟩ | ⟨v', hv', hcolumn⟩
        · rw [hv] at hnone
          cases hnone
        · obtain rfl := Option.some.inj (hv.symm.trans hv')
          rcases checkNullable_eq_ok.1 hcolumn with ⟨hv, -⟩ | ⟨-, w, rfl, hw⟩
          · exact absurd hv hnull
          · exact ⟨w, rfl, hw⟩
    · cases h
  · intro w hw
    refine ⟨[("source_column", v), ("summarize_function", .str "SUM")],
      { sourceColumn := some w, aggregation := .sum }, rfl, ?_, rfl⟩
    have hcolumn : checkNullable checkColumn v = .ok (some w) := by
      rw [checkNullable_of_ne_null hnull, hw, map_ok]
    have hsum : checkName Aggregation.all Aggregation.name (.str "SUM") = .ok .sum := rfl
    simp [check, checkObject, required, optional, Members.find?, hcolumn, hsum, Checked.under, sourceFault?]

/-- A model keeps the column that it is given unless that is a document which stands for an index. -/
theorem ReadsColumn.keepsColumn_iff {α : Type} {check : Json → Checked α} {column : α → Option Json} {v : Json}
    (h : ReadsColumn check column v) : KeepsColumn check column v ↔ ¬∃ i, StandsForIndex v i := by
  constructor
  · rintro hkeeps ⟨i, hi⟩
    obtain ⟨ms, a, hv, ha, -⟩ := h.takes (.int i) (checkColumn_eq_ok_iff.2 (.inr ⟨i, hi, rfl⟩))
    obtain ⟨-, index, -, hindex, -⟩ := hkeeps ms a hv ha
    exact hi.not_resolves (exists_resolveColumn_eq_ok_iff.1 ⟨index, hindex⟩)
  · intro hstands ms a hv ha
    obtain ⟨w, hw, htaken⟩ := h.taken ms a hv ha
    rcases checkColumn_eq_ok_iff.1 htaken with ⟨hcolumn, rfl⟩ | ⟨i, hi, -⟩
    · obtain ⟨index, hindex⟩ := resolveColumn_of_isColumn hcolumn
      exact ⟨w, index, hw, hindex, hindex⟩
    · exact absurd ⟨i, hi⟩ hstands

/-- **The columns that are kept.** Groupings, values and filters accept a column only if it leads to an index,
and take one that leads to the same, exactly if what they are given is no document that stands for an index. Such
a document is taken for that index, although it is an error to resolve it. -/
theorem checks_keepColumn_iff (v : Json) :
    (KeepsColumn PivotGroup.check (fun g => some g.sourceColumn) v ↔ ¬∃ i, StandsForIndex v i) ∧
      (v ≠ .null → (KeepsColumn PivotValue.check PivotValue.sourceColumn v ↔ ¬∃ i, StandsForIndex v i)) ∧
      (KeepsColumn PivotFilter.check (fun f => some f.sourceColumn) v ↔ ¬∃ i, StandsForIndex v i) ∧
      ((∃ w, checkColumn v = .ok w) ↔ IsColumn v ∨ ∃ i, StandsForIndex v i) ∧
      ∀ i, StandsForIndex v i →
        checkColumn v = .ok (.int i) ∧ ∃ fault, resolveColumn v = .error fault ∧ fault.value = v := by
  refine ⟨(PivotGroup.readsColumn v).keepsColumn_iff, fun hnull => (PivotValue.readsColumn hnull).keepsColumn_iff,
    (PivotFilter.readsColumn v).keepsColumn_iff, ?_, ?_⟩
  · simp only [checkColumn_eq_ok_iff]
    constructor
    · rintro ⟨w, ⟨hv, -⟩ | ⟨i, hi, -⟩⟩
      · exact .inl hv
      · exact .inr ⟨i, hi⟩
    · rintro (hv | ⟨i, hi⟩)
      · exact ⟨v, .inl ⟨hv, rfl⟩⟩
      · exact ⟨.int i, .inr ⟨i, hi, rfl⟩⟩
  · intro i hi
    exact ⟨checkColumn_eq_ok_iff.2 (.inr ⟨i, hi, rfl⟩), hi.exists_error⟩

/-- A truth value is taken for the second column by a value, and is no reference to a column. -/
theorem checks_keepColumn_iff_true :
    (.bool true : Json) ≠ .null ∧ StandsForIndex (.bool true) 1 ∧
      ¬KeepsColumn PivotValue.check PivotValue.sourceColumn (.bool true) ∧
      checkColumn (.bool true) = .ok (.int 1) ∧ resolveColumn (.bool true) = .error (.badReference (.bool true)) := by
  have hnull : (.bool true : Json) ≠ .null := by rintro ⟨⟩
  have htrue : StandsForIndex (.bool true) 1 := .truthValue true
  obtain ⟨-, hvalue, -, -, htaken⟩ := checks_keepColumn_iff (.bool true)
  exact ⟨hnull, htrue, fun hkeeps => (hvalue hnull).1 hkeeps ⟨1, htrue⟩, (htaken 1 htrue).1, rfl⟩

end WorkspaceTools
