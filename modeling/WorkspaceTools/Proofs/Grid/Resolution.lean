import WorkspaceTools.Proofs.Grid.Column

/-!
# The references that lead to a column

The pattern of column letters takes a line feed behind the letters, too, and such a line feed is counted as one
more digit.

* `isColumnText_iff`: the texts of column letters, which are letters or letters and a line feed.
* `GridError.value_of_columnIndex?`, `GridError.value_of_resolveColumn`: an error carries the reference.
* `resolvesAsDocumented_iff`: a reference is resolved as documented exactly if it is not one of letters and a
  line feed, and what the others lead to.
-/

namespace WorkspaceTools

open Text

/-! ## Texts of letters -/

theorem dropLineFeed_concat (cs : List Char) : dropLineFeed (cs ++ ['\n']) = cs := by
  rw [dropLineFeed, List.getLast?_concat, if_pos (beq_self_eq_true _), List.dropLast_concat]

/-- A text is what is left without a line feed at its end, or that and the line feed. -/
theorem eq_dropLineFeed (cs : List Char) : cs = dropLineFeed cs ∨ cs = dropLineFeed cs ++ ['\n'] := by
  by_cases hfeed : cs.getLast? = some '\n'
  · obtain ⟨before, rfl⟩ := List.getLast?_eq_some_iff.1 hfeed
    exact .inr (by rw [dropLineFeed_concat])
  · refine .inl ?_
    rw [dropLineFeed, if_neg]
    rwa [beq_iff_eq]

theorem isColumnText_iff {cs : List Char} :
    isColumnText cs = true ↔ ∃ letters, (letters ≠ [] ∧ ∀ c ∈ letters, isAsciiLetter c = true) ∧
      (cs = letters ∨ cs = letters ++ ['\n']) := by
  rw [isColumnText, Bool.and_eq_true, Bool.not_eq_true', List.isEmpty_eq_false_iff, List.all_eq_true]
  constructor
  · intro hletters
    exact ⟨dropLineFeed cs, hletters, eq_dropLineFeed cs⟩
  · rintro ⟨letters, hletters, rfl | rfl⟩
    · rwa [dropLineFeed_of_letters hletters.2]
    · rwa [dropLineFeed_concat]

/-! ## References with a line feed -/

/-- Letters with a line feed behind them. -/
def HasLineFeed (v : Json) : Prop := ∃ s, IsColumn (.str s) ∧ v = .str (s ++ "\n")

theorem not_isColumn_of_hasLineFeed {v : Json} (h : HasLineFeed v) : ¬IsColumn v := by
  obtain ⟨s, -, rfl⟩ := h
  rintro ⟨-, hletters⟩
  have hfeed := hletters '\n' (by simp)
  exact absurd hfeed (by decide)

/-- The line feed counts as a digit of the value -54. -/
theorem columnIndex?_lineFeed {s : String} (h : IsColumn (.str s)) :
    ∃ n : Nat, columnIndex? (.str s) = .ok n ∧ columnIndex? (.str (s ++ "\n")) = .ok (26 * n - 29) := by
  obtain ⟨n, hn⟩ := columnIndex?_of_letters h.1 h.2
  have hvalue : lettersValue s.toList - 1 = n :=
    Except.ok.inj ((columnIndex?_eq_lettersValue h.1 h.2).symm.trans hn)
  have hlist : (s ++ "\n").toList = s.toList ++ ['\n'] := String.toList_append
  have hne : s.toList ≠ [] := fun hnil => h.1 (String.toList_eq_nil_iff.1 hnil)
  have htext : isColumnText (s.toList ++ ['\n']) = true :=
    isColumnText_iff.2 ⟨s.toList, ⟨hne, h.2⟩, .inr rfl⟩
  have hfeed : letterValue '\n' = -54 := rfl
  refine ⟨n, hn, ?_⟩
  rw [columnIndex?, hlist, if_pos htext, lettersValue_concat, hfeed]
  congr 1
  omega

/-- A text of column letters is letters, or letters and a line feed. -/
theorem isColumn_or_hasLineFeed {s : String} (h : isColumnText s.toList = true) :
    IsColumn (.str s) ∨ HasLineFeed (.str s) := by
  obtain ⟨letters, ⟨hne, hletters⟩, hs⟩ := isColumnText_iff.1 h
  have hlist : (String.ofList letters).toList = letters := String.toList_ofList
  have hcolumn : IsColumn (.str (String.ofList letters)) := by
    refine ⟨?_, hlist.symm ▸ hletters⟩
    intro hempty
    rw [← String.toList_eq_nil_iff, hlist] at hempty
    exact hne hempty
  rcases hs with hs | hs
  · obtain rfl : s = String.ofList letters := String.toList_injective (hs.trans hlist.symm)
    exact .inl hcolumn
  · have hfed : s = String.ofList letters ++ "\n" := by
      apply String.toList_injective
      rw [hs, String.toList_append, hlist]
      rfl
    exact .inr ⟨_, hcolumn, congrArg Json.str hfed⟩

theorem columnIndex?_str (s : String) :
    columnIndex? (.str s) =
      if isColumnText s.toList = true then .ok (lettersValue s.toList - 1) else .error (.badLetters (.str s)) :=
  rfl

theorem exists_columnIndex?_eq_ok_iff {v : Json} :
    (∃ index, columnIndex? v = .ok index) ↔ (IsColumn v ∧ ∃ s, v = .str s) ∨ HasLineFeed v := by
  constructor
  · rintro ⟨index, hindex⟩
    cases v with
    | str s =>
      rw [columnIndex?_str] at hindex
      split at hindex
      · rename_i htext
        exact (isColumn_or_hasLineFeed htext).imp_left fun hcolumn => ⟨hcolumn, s, rfl⟩
      · cases hindex
    | _ => cases hindex
  · rintro (⟨hcolumn, s, rfl⟩ | ⟨s, hcolumn, rfl⟩)
    · obtain ⟨n, hn⟩ := columnIndex?_of_letters hcolumn.1 hcolumn.2
      exact ⟨n, hn⟩
    · obtain ⟨n, -, hn⟩ := columnIndex?_lineFeed hcolumn
      exact ⟨_, hn⟩

/-! ## Errors -/

theorem GridError.value_of_columnIndex? {v : Json} {fault : GridError} (h : columnIndex? v = .error fault) :
    fault.value = v := by
  cases v with
  | str s =>
    rw [columnIndex?_str] at h
    split at h <;> cases h
    rfl
  | _ =>
    cases h
    rfl

theorem GridError.value_of_resolveColumn {v : Json} {fault : GridError} (h : resolveColumn v = .error fault) :
    fault.value = v := by
  unfold resolveColumn at h
  split at h
  · cases h
    rfl
  · split at h <;> cases h
    rfl
  · exact GridError.value_of_columnIndex? h

/-! ## Resolution -/

/-- References that are neither a truth value nor a number are read as letters. -/
theorem resolveColumn_hasLineFeed {v : Json} (h : HasLineFeed v) : resolveColumn v = columnIndex? v := by
  obtain ⟨s, -, rfl⟩ := h
  rfl

theorem exists_resolveColumn_eq_ok_iff {v : Json} :
    (∃ index, resolveColumn v = .ok index) ↔ IsColumn v ∨ HasLineFeed v := by
  constructor
  · rintro ⟨index, hindex⟩
    unfold resolveColumn at hindex
    split at hindex
    · cases hindex
    · split at hindex
      · cases hindex
      · rename_i hneg
        exact .inl (Int.not_lt.1 hneg)
    · rcases exists_columnIndex?_eq_ok_iff.1 ⟨index, hindex⟩ with ⟨hcolumn, -⟩ | hfeed
      · exact .inl hcolumn
      · exact .inr hfeed
  · rintro (hcolumn | hfeed)
    · obtain ⟨n, hn⟩ := resolveColumn_of_isColumn hcolumn
      exact ⟨n, hn⟩
    · rw [resolveColumn_hasLineFeed hfeed]
      exact exists_columnIndex?_eq_ok_iff.2 (.inr hfeed)

/-- What is documented of a reference: it leads to an index that is not negative, an index to itself, if it is
such an index or letters, and else to an error that carries it. Letters are read exactly if they are letters. -/
structure ResolvesAsDocumented (v : Json) : Prop where
  resolves_iff : (∃ index, resolveColumn v = .ok index) ↔ IsColumn v
  nonneg : ∀ index, resolveColumn v = .ok index → 0 ≤ index
  ofIndex : ∀ index i, resolveColumn v = .ok index → v = .int i → index = i
  value : ∀ fault, resolveColumn v = .error fault → fault.value = v
  reads_iff : (∃ index, columnIndex? v = .ok index) ↔ IsColumn v ∧ ∃ s, v = .str s

theorem not_resolvesAsDocumented_of_hasLineFeed {v : Json} (h : HasLineFeed v) : ¬ResolvesAsDocumented v := by
  intro hdocumented
  have hresolves := exists_resolveColumn_eq_ok_iff.2 (.inr h)
  exact not_isColumn_of_hasLineFeed h (hdocumented.resolves_iff.1 hresolves)

theorem resolvesAsDocumented_of_not_hasLineFeed {v : Json} (h : ¬HasLineFeed v) : ResolvesAsDocumented v := by
  have hresolves : (∃ index, resolveColumn v = .ok index) ↔ IsColumn v := by
    rw [exists_resolveColumn_eq_ok_iff, or_iff_left h]
  refine ⟨hresolves, ?_, ?_, ?_, ?_⟩
  · intro index hindex
    obtain ⟨n, hn⟩ := resolveColumn_of_isColumn (hresolves.1 ⟨index, hindex⟩)
    obtain rfl : index = n := Except.ok.inj (hindex.symm.trans hn)
    exact Int.natCast_nonneg n
  · rintro index i hindex rfl
    have hself : resolveColumn (.int i) = .ok i := if_neg (Int.not_lt.2 (hresolves.1 ⟨index, hindex⟩))
    exact Except.ok.inj (hindex.symm.trans hself)
  · intro fault
    exact GridError.value_of_resolveColumn
  · rw [exists_columnIndex?_eq_ok_iff, or_iff_left h]

/-- **A reference is resolved as documented exactly if it is not letters and a line feed.** With a line feed
behind them, letters of the index `n` lead to `26 * n - 29`, which is negative for the first two letters. -/
theorem resolvesAsDocumented_iff (v : Json) :
    (ResolvesAsDocumented v ↔ ¬HasLineFeed v) ∧
      ∀ s, IsColumn (.str s) → v = .str (s ++ "\n") → ∃ n : Nat, columnIndex? (.str s) = .ok n ∧
        columnIndex? v = .ok (26 * n - 29) ∧ resolveColumn v = .ok (26 * n - 29) := by
  refine ⟨⟨?_, resolvesAsDocumented_of_not_hasLineFeed⟩, ?_⟩
  · intro hdocumented hfeed
    exact not_resolvesAsDocumented_of_hasLineFeed hfeed hdocumented
  · rintro s hs rfl
    obtain ⟨n, hn, hfed⟩ := columnIndex?_lineFeed hs
    exact ⟨n, hn, hfed, hfed⟩

/-- The first letter and a line feed lead to a negative index. -/
theorem resolvesAsDocumented_iff_lineFeed :
    IsColumn (.str "A") ∧ HasLineFeed (.str "A\n") ∧ ¬ResolvesAsDocumented (.str "A\n") ∧
      resolveColumn (.str "A\n") = .ok (-29) := by
  have hlist : "A".toList = ['A'] := by decide
  have hletter : IsColumn (.str "A") := ⟨by decide, hlist ▸ List.forall_mem_singleton.2 rfl⟩
  have hfeed : HasLineFeed (.str "A\n") := ⟨"A", hletter, rfl⟩
  obtain ⟨hdocumented, hfed⟩ := resolvesAsDocumented_iff (.str "A\n")
  obtain ⟨n, hn, -, hresolves⟩ := hfed "A" hletter rfl
  have hzero : (0 : Int) = n := Except.ok.inj hn
  rw [← hzero] at hresolves
  exact ⟨hletter, hfeed, fun h => hdocumented.1 h hfeed, hresolves⟩

end WorkspaceTools
