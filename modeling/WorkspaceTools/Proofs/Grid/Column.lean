import WorkspaceTools.Grid.Column

/-!
# Columns that are named by letters

Letters are digits from 1 to 26 (`letterValue_bounds`), so letters name a column that is not negative
(`columnIndex?_of_letters`). `IsColumn` is a reference that is either such letters or an index, and
`resolveColumn_of_isColumn` finds its column. The letters of an index read back
(`lettersValue_columnLetters`).
-/

namespace WorkspaceTools

open Text

theorem letterValue_bounds {c : Char} (h : isAsciiLetter c = true) :
    1 ≤ letterValue c ∧ letterValue c ≤ 26 := by
  simp only [isAsciiLetter, Bool.or_eq_true, Bool.and_eq_true, decide_eq_true_eq, Char.le_def,
    UInt32.le_iff_toNat_le] at h
  simp only [letterValue, Bool.and_eq_true, decide_eq_true_eq, Char.le_def, UInt32.le_iff_toNat_le,
    Char.toNat]
  have hA : 'A'.val.toNat = 65 := rfl
  have hZ : 'Z'.val.toNat = 90 := rfl
  have ha : 'a'.val.toNat = 97 := rfl
  have hz : 'z'.val.toNat = 122 := rfl
  split <;> omega

/-- More letters make no number smaller. -/
theorem le_foldl_letterValue {cs : List Char} (h : ∀ c ∈ cs, isAsciiLetter c = true) {n : Int}
    (hn : 0 ≤ n) : n ≤ cs.foldl (fun n c => n * 26 + letterValue c) n := by
  induction cs generalizing n with
  | nil => exact Int.le_refl n
  | cons c cs ih =>
    have hc := letterValue_bounds (h c (by simp))
    have hnext : n ≤ n * 26 + letterValue c := by omega
    rw [List.foldl_cons]
    exact Int.le_trans hnext (ih (fun d hd => h d (by simp [hd])) (Int.le_trans hn hnext))

theorem lettersValue_pos {cs : List Char} (hne : cs ≠ []) (h : ∀ c ∈ cs, isAsciiLetter c = true) :
    1 ≤ lettersValue cs := by
  obtain ⟨c, rest, rfl⟩ := List.exists_cons_of_ne_nil hne
  have hc := letterValue_bounds (h c (by simp))
  have hrest : ∀ d ∈ rest, isAsciiLetter d = true := fun d hd => h d (by simp [hd])
  have hfirst : 1 ≤ 0 * 26 + letterValue c := by omega
  rw [lettersValue, List.foldl_cons]
  exact Int.le_trans hfirst (le_foldl_letterValue hrest (by omega))

/-- Letters and nothing else are no line feed. -/
theorem dropLineFeed_of_letters {cs : List Char} (h : ∀ c ∈ cs, isAsciiLetter c = true) :
    dropLineFeed cs = cs := by
  rw [dropLineFeed, if_neg]
  rw [beq_iff_eq]
  intro hlast
  have hfeed := h '\n' (List.mem_of_getLast? hlast)
  exact absurd hfeed (by decide)

/-- The index of letters is the number that they denote, counted from zero. -/
theorem columnIndex?_eq_lettersValue {s : String} (hs : s ≠ "")
    (h : ∀ c ∈ s.toList, isAsciiLetter c = true) :
    columnIndex? (.str s) = .ok (lettersValue s.toList - 1) := by
  have htext : isColumnText s.toList = true := by
    rw [isColumnText, dropLineFeed_of_letters h, Bool.and_eq_true]
    exact ⟨by simpa using hs, List.all_eq_true.2 h⟩
  simp only [columnIndex?, htext, if_true]

theorem columnIndex?_of_letters {s : String} (hs : s ≠ "")
    (h : ∀ c ∈ s.toList, isAsciiLetter c = true) :
    ∃ n : Nat, columnIndex? (.str s) = .ok n := by
  have hne : s.toList ≠ [] := fun hnil => hs (String.toList_eq_nil_iff.1 hnil)
  have hpos := lettersValue_pos hne h
  refine ⟨(lettersValue s.toList - 1).toNat, ?_⟩
  rw [columnIndex?_eq_lettersValue hs h, Int.toNat_of_nonneg (by omega)]

/-- A reference to a column: an index that is not negative, or letters. -/
def IsColumn : Json → Prop
  | .int i => 0 ≤ i
  | .str s => s ≠ "" ∧ ∀ c ∈ s.toList, isAsciiLetter c = true
  | _ => False

/-- A reference leads to a column. -/
theorem resolveColumn_of_isColumn {v : Json} (h : IsColumn v) :
    ∃ n : Nat, resolveColumn v = .ok n := by
  match v, h with
  | .int i, h =>
    refine ⟨i.toNat, ?_⟩
    rw [resolveColumn, if_neg (Int.not_lt.2 h), Int.toNat_of_nonneg h]
  | .str s, h => exact columnIndex?_of_letters h.1 h.2

/-! ## The letters of an index -/

theorem columnLettersOnto_eq_append (index : Nat) (rest : List Char) :
    columnLettersOnto index rest = columnLetters index ++ rest := by
  induction index using Nat.strongRecOn generalizing rest with
  | _ index ih =>
    rw [columnLetters]
    unfold columnLettersOnto
    by_cases h : index < 26
    · rw [if_pos h, if_pos h]
      rfl
    · have hlt : index / 26 - 1 < index := by omega
      rw [if_neg h, if_neg h, ih _ hlt, ih _ hlt, List.append_assoc]
      rfl

theorem columnLetters_of_lt {index : Nat} (h : index < 26) :
    columnLetters index = [Char.ofNat ('A'.toNat + index % 26)] := by
  rw [columnLetters, columnLettersOnto, if_pos h]

/-- The last letter is the remainder. No digit is zero, so that one less is left for the letters in
front. -/
theorem columnLetters_of_ge {index : Nat} (h : 26 ≤ index) :
    columnLetters index = columnLetters (index / 26 - 1) ++ [Char.ofNat ('A'.toNat + index % 26)] := by
  rw [columnLetters, columnLettersOnto, if_neg (Nat.not_lt.2 h), columnLettersOnto_eq_append]

theorem isAsciiLetter_ofRemainder (n : Nat) : isAsciiLetter (Char.ofNat ('A'.toNat + n % 26)) = true := by
  have h : ∀ m : Fin 26, isAsciiLetter (Char.ofNat ('A'.toNat + m.val)) = true := by decide
  exact h ⟨n % 26, Nat.mod_lt _ (by decide)⟩

theorem letterValue_ofRemainder (n : Nat) :
    letterValue (Char.ofNat ('A'.toNat + n % 26)) = (n % 26 : Nat) + 1 := by
  have h : ∀ m : Fin 26, letterValue (Char.ofNat ('A'.toNat + m.val)) = (m.val : Int) + 1 := by decide
  exact h ⟨n % 26, Nat.mod_lt _ (by decide)⟩

theorem columnLetters_ne_nil (index : Nat) : columnLetters index ≠ [] := by
  by_cases h : index < 26
  · rw [columnLetters_of_lt h]
    exact List.cons_ne_nil _ _
  · rw [columnLetters_of_ge (by omega)]
    exact List.append_ne_nil_of_right_ne_nil _ (List.cons_ne_nil _ _)

/-- Every letter of an index is that of a remainder. -/
theorem exists_remainder_of_mem_columnLetters {index : Nat} {c : Char} (h : c ∈ columnLetters index) :
    ∃ n, c = Char.ofNat ('A'.toNat + n % 26) := by
  induction index using Nat.strongRecOn with
  | _ index ih =>
    by_cases hlt : index < 26
    · rw [columnLetters_of_lt hlt, List.mem_singleton] at h
      exact ⟨index, h⟩
    · rw [columnLetters_of_ge (by omega), List.mem_append, List.mem_singleton] at h
      rcases h with h | rfl
      · exact ih (index / 26 - 1) (by omega) h
      · exact ⟨index, rfl⟩

theorem isAsciiLetter_of_mem_columnLetters {index : Nat} {c : Char} (h : c ∈ columnLetters index) :
    isAsciiLetter c = true := by
  obtain ⟨n, rfl⟩ := exists_remainder_of_mem_columnLetters h
  exact isAsciiLetter_ofRemainder n

theorem lettersValue_concat (cs : List Char) (c : Char) :
    lettersValue (cs ++ [c]) = lettersValue cs * 26 + letterValue c := by
  rw [lettersValue, List.foldl_append]
  rfl

/-- **The letters of an index read back.** -/
theorem lettersValue_columnLetters (index : Nat) : lettersValue (columnLetters index) = index + 1 := by
  induction index using Nat.strongRecOn with
  | _ index ih =>
    have hletter := letterValue_ofRemainder index
    by_cases h : index < 26
    · have hvalue := lettersValue_concat [] (Char.ofNat ('A'.toNat + index % 26))
      have hnone : lettersValue [] = 0 := rfl
      rw [columnLetters_of_lt h]
      rw [List.nil_append, hnone, hletter] at hvalue
      omega
    · have hfront := ih (index / 26 - 1) (by omega)
      rw [columnLetters_of_ge (by omega), lettersValue_concat, hfront, hletter]
      omega

end WorkspaceTools
