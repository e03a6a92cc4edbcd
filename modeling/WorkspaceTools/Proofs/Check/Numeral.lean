import Mathlib.Data.List.TakeWhile
import WorkspaceTools.Proofs.Check.Field

/-!
# Numerals in texts

A numeral that is not in the narrowest form is brought into it before it is read, by leaving characters out:
blanks around it, a plus sign, zeros at its head, a fraction of zeros, and underscores.

* `narrowNumeral?_subset`: narrowing a numeral brings no new characters in.
* `exists_isAsciiDigit_of_intOfNumeral`: so what is read as an integer has a digit of its own.
-/

namespace WorkspaceTools

open Text

variable {cs narrow : List Char}

/-! ## Narrowing -/

theorem trimBy_subset (p : Char → Bool) (cs : List Char) : trimBy p cs ⊆ cs := by
  intro c hc
  rw [trimBy, trimEndBy, List.mem_reverse] at hc
  have hfront : c ∈ (cs.dropWhile p).reverse := (List.dropWhile_sublist _).subset hc
  exact (List.dropWhile_sublist _).subset (List.mem_reverse.1 hfront)

/-- The zero that was seen last may stay. -/
theorem afterZeros?_subset {last : Char} (h : afterZeros? last cs = some narrow) : narrow ⊆ last :: cs := by
  induction cs generalizing last with
  | nil =>
    obtain rfl := Option.some.inj h
    exact List.Subset.refl _
  | cons c rest ih =>
    rw [afterZeros?] at h
    split at h
    · exact List.subset_cons_of_subset _ (ih h)
    · split at h
      · obtain rfl := Option.some.inj h
        exact List.subset_cons_self _ _
      · split at h
        · obtain rfl := Option.some.inj h
          exact List.Subset.refl _
        · cases h

theorem dropZeros?_subset (h : dropZeros? cs = some narrow) : narrow ⊆ cs := by
  unfold dropZeros? at h
  split at h
  · exact afterZeros?_subset h
  · split at h
    · obtain rfl := Option.some.inj h
      exact List.Subset.refl _
    · cases h
  · cases h

theorem dropZeroFraction_subset (cs : List Char) : dropZeroFraction cs ⊆ cs := by
  rw [dropZeroFraction]
  split
  · exact (List.takeWhile_sublist _).subset
  · exact List.Subset.refl _

theorem getD_dropUnderscores?_subset (cs : List Char) : (dropUnderscores? cs).getD cs ⊆ cs := by
  rw [dropUnderscores?]
  split
  · exact List.Subset.refl _
  · exact List.filter_sublist.subset

/-- **Narrowing a numeral only leaves characters out.** -/
theorem narrowNumeral?_subset (h : narrowNumeral? cs = some narrow) : narrow ⊆ cs := by
  -- what is done to a numeral once its plus sign is gone
  have hunsigned : ∀ unsigned : List Char, unsigned ⊆ trimBy isSpace cs →
      ((dropZeros? unsigned).bind fun zeroless =>
        some ((dropUnderscores? (dropZeroFraction zeroless)).getD (dropZeroFraction zeroless))) = some narrow →
      narrow ⊆ cs := by
    intro unsigned htrim h
    obtain ⟨zeroless, hzeroless, h⟩ := Option.bind_eq_some_iff.1 h
    obtain rfl := Option.some.inj h
    have hfraction : dropZeroFraction zeroless ⊆ unsigned :=
      List.Subset.trans (dropZeroFraction_subset zeroless) (dropZeros?_subset hzeroless)
    have hplain : unsigned ⊆ cs := List.Subset.trans htrim (trimBy_subset isSpace cs)
    exact List.Subset.trans (getD_dropUnderscores?_subset _) (List.Subset.trans hfraction hplain)
  simp only [narrowNumeral?, Option.bind_eq_bind] at h
  split at h
  · cases h
  · rename_i rest _ htrim
    refine hunsigned rest ?_ h
    rw [htrim]
    exact List.subset_cons_self _ _
  · exact hunsigned _ (List.Subset.refl _) h

/-! ## Digits -/

theorem exists_isAsciiDigit_of_plainInt {i : Int} (h : plainInt cs = .ok i) :
    ∃ c ∈ cs, isAsciiDigit c = true := by
  unfold plainInt at h
  split at h
  rename_i negative digits hsign
  have hdigits : digits ⊆ cs := by
    split at hsign
    · cases hsign
      exact List.subset_cons_self _ _
    · cases hsign
      exact List.Subset.refl _
  have hrun : digits.takeWhile isAsciiDigit ≠ [] := by
    intro hrun
    rw [hrun] at h
    cases h
  obtain ⟨c, hc⟩ := List.exists_mem_of_ne_nil _ hrun
  exact ⟨c, hdigits ((List.takeWhile_sublist _).subset hc), List.mem_takeWhile_imp hc⟩

/-- **What is read as an integer has a digit.** -/
theorem exists_isAsciiDigit_of_intOfNumeral {i : Int} (h : intOfNumeral cs = .ok i) :
    ∃ c ∈ cs, isAsciiDigit c = true := by
  unfold intOfNumeral at h
  split at h
  · split at h
    · rename_i narrow hnarrow
      obtain ⟨c, hc, hdigit⟩ := exists_isAsciiDigit_of_plainInt h
      exact ⟨c, narrowNumeral?_subset hnarrow hc, hdigit⟩
    · cases h
  · exact exists_isAsciiDigit_of_plainInt h

end WorkspaceTools
