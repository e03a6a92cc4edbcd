import WorkspaceTools.Number.Decimal
import WorkspaceTools.Number.Power
import WorkspaceTools.Text.Digit
import WorkspaceTools.Time.IsoText

/-!
# Digits that read back

* `natOfDigits_append` says what a numeral denotes that is cut into two parts.
* `isAsciiDigit_of_mem_natDigits`, `length_natDigits_le` and `head_natDigits` say what the digits of a number
  look like, and `takeWhile_digits` that a reader takes all of them.
* `takeNumber?_padded`: a number with leading zeros reads back from as many digits as it was given.
-/

namespace WorkspaceTools.Number

open Text Time

/-! ## What digits denote -/

theorem foldl_digits (n : Nat) (ds : List Char) :
    ds.foldl (fun n c => 10 * n + (digitValue? c).getD 0) n = n * tenTo ds.length + natOfDigits ds := by
  induction ds generalizing n with
  | nil => simp [natOfDigits]
  | cons c ds ih =>
    simp only [natOfDigits, List.foldl_cons, List.length_cons, tenTo_succ]
    rw [ih, ih (10 * 0 + _)]
    simp only [Nat.mul_zero, Nat.zero_add, Nat.add_mul]
    rw [Nat.add_assoc, Nat.mul_comm 10, Nat.mul_assoc, Nat.mul_comm 10]

theorem natOfDigits_append (ds es : List Char) :
    natOfDigits (ds ++ es) = natOfDigits ds * tenTo es.length + natOfDigits es := by
  rw [natOfDigits, List.foldl_append, foldl_digits]
  rfl

@[simp] theorem natOfDigits_nil : natOfDigits [] = 0 := rfl

theorem natOfDigits_replicate_zero (k : Nat) : natOfDigits (List.replicate k '0') = 0 := by
  induction k with
  | zero => rfl
  | succ k ih =>
    rw [List.replicate_succ', natOfDigits_append, ih]
    rfl

/-- Zeros in front change nothing. -/
theorem natOfDigits_zeros_append (k : Nat) (ds : List Char) :
    natOfDigits (List.replicate k '0' ++ ds) = natOfDigits ds := by
  rw [natOfDigits_append, natOfDigits_replicate_zero, Nat.zero_mul, Nat.zero_add]

/-- Zeros at the end are powers of ten. -/
theorem natOfDigits_append_zeros (ds : List Char) (k : Nat) :
    natOfDigits (ds ++ List.replicate k '0') = natOfDigits ds * tenTo k := by
  rw [natOfDigits_append, natOfDigits_replicate_zero, List.length_replicate, Nat.add_zero]

theorem digitValue?_lt {c : Char} {n : Nat} (h : digitValue? c = some n) : n < 10 := by
  obtain ⟨z, hz, rfl⟩ := Option.map_eq_some_iff.1 h
  have := List.find?_some hz
  simp only [Bool.and_eq_true, decide_eq_true_eq] at this
  omega

theorem natOfDigits_lt (ds : List Char) : natOfDigits ds < tenTo ds.length := by
  induction ds with
  | nil => exact tenTo_pos 0
  | cons c ds ih =>
    have hc : (digitValue? c).getD 0 < 10 := by
      cases h : digitValue? c with
      | none => decide
      | some n => exact digitValue?_lt h
    have hfold := foldl_digits (10 * 0 + (digitValue? c).getD 0) ds
    rw [natOfDigits, List.foldl_cons, hfold, List.length_cons, tenTo_succ, Nat.mul_comm _ 10]
    have hmul : (10 * 0 + (digitValue? c).getD 0) * tenTo ds.length ≤ 9 * tenTo ds.length :=
      Nat.mul_le_mul_right _ (by omega)
    omega

/-- Digits denote zero exactly if each of them does. -/
theorem natOfDigits_eq_zero_iff {ds : List Char} (h : ∀ c ∈ ds, isDigit c = true) :
    natOfDigits ds = 0 ↔ ∀ c ∈ ds, digitValue? c = some 0 := by
  induction ds with
  | nil => simp
  | cons c ds ih =>
    have hdigit := h c List.mem_cons_self
    obtain ⟨n, hn⟩ := Option.isSome_iff_exists.1 hdigit
    have hone : natOfDigits [c] = n := by simp [natOfDigits, hn]
    have hpos := tenTo_pos ds.length
    rw [← List.singleton_append, natOfDigits_append, hone, List.singleton_append, List.forall_mem_cons, hn,
      ← ih fun d hd => h d (List.mem_cons_of_mem c hd), Nat.add_eq_zero_iff, Nat.mul_eq_zero,
      Option.some.injEq]
    omega

/-! ## What digits look like -/

theorem isAsciiDigit_digitChar (n : Nat) : isAsciiDigit (digitChar n) = true := by
  have h : ∀ m : Fin 10, isAsciiDigit (digitChar m.val) = true := by decide +kernel
  rw [← digitChar_mod]
  exact h ⟨n % 10, Nat.mod_lt _ (by decide)⟩

theorem isAsciiDigit_of_mem_natDigits {n : Nat} {c : Char} (h : c ∈ natDigits n) :
    isAsciiDigit c = true := by
  induction n using Nat.strongRecOn with
  | _ n ih =>
    by_cases hn : n < 10
    · rw [natDigits_of_lt hn, List.mem_singleton] at h
      rw [h]
      exact isAsciiDigit_digitChar n
    · rw [natDigits_of_ge (by omega), List.mem_append, List.mem_singleton] at h
      rcases h with h | h
      · exact ih (n / 10) (by omega) h
      · rw [h]
        exact isAsciiDigit_digitChar n

theorem natDigits_ne_nil (n : Nat) : natDigits n ≠ [] := by
  by_cases h : n < 10
  · simp [natDigits_of_lt h]
  · simp [natDigits_of_ge (show 10 ≤ n by omega)]

/-- A number below a power of ten has no more digits than the power has zeros. -/
theorem length_natDigits_le {width n : Nat} (hw : 0 < width) (h : n < tenTo width) :
    (natDigits n).length ≤ width := by
  induction width generalizing n with
  | zero => omega
  | succ width ih =>
    by_cases hn : n < 10
    · simp [natDigits_of_lt hn]
    · rw [natDigits_of_ge (by omega), List.length_append, List.length_singleton]
      rw [tenTo_succ] at h
      have hpos : 0 < width := by
        rcases Nat.eq_zero_or_pos width with rfl | hpos
        · simp at h
          omega
        · exact hpos
      have := ih hpos (show n / 10 < tenTo width by omega)
      omega

/-- Only zero has a zero in front. -/
theorem head_natDigits {n : Nat} (h : 0 < n) : (natDigits n).head? ≠ some '0' := by
  induction n using Nat.strongRecOn with
  | _ n ih =>
    by_cases hn : n < 10
    · have hd : ∀ m : Fin 10, 0 < m.val → digitChar m.val ≠ '0' := by decide +kernel
      rw [natDigits_of_lt hn, List.head?_cons]
      exact fun he => hd ⟨n, hn⟩ h (Option.some.inj he)
    · have := ih (n / 10) (by omega) (by omega)
      rw [natDigits_of_ge (by omega), List.head?_append]
      cases hd : (natDigits (n / 10)).head? with
      | none => exact absurd (List.head?_eq_none_iff.1 hd) (natDigits_ne_nil _)
      | some c => rwa [hd] at this

/-! ## Readers of digits -/

section

variable {p : Char → Bool} {run rest : List Char} (hrun : ∀ c ∈ run, p c = true)
  (hrest : ∀ c ∈ rest.head?, p c = false)

include hrun hrest

/-- A run of characters of one class is taken up to the first one that is of no such class. -/
theorem takeWhile_run : (run ++ rest).takeWhile p = run := by
  rw [List.takeWhile_append_of_pos hrun]
  cases rest with
  | nil => simp
  | cons c rest => simp [hrest c rfl]

theorem dropWhile_run : (run ++ rest).dropWhile p = rest := by
  rw [List.dropWhile_append_of_pos hrun]
  cases rest with
  | nil => simp
  | cons c rest => simp [hrest c rfl]

end

/-- No digit stands in front. -/
def NoDigit (cs : List Char) : Prop := ∀ c ∈ cs.head?, isAsciiDigit c = false

theorem takeWhile_digits {ds rest : List Char} (hd : ∀ c ∈ ds, isAsciiDigit c = true)
    (hr : NoDigit rest) : (ds ++ rest).takeWhile isAsciiDigit = ds :=
  takeWhile_run hd hr

theorem dropWhile_digits {ds rest : List Char} (hd : ∀ c ∈ ds, isAsciiDigit c = true)
    (hr : NoDigit rest) : (ds ++ rest).dropWhile isAsciiDigit = rest :=
  dropWhile_run hd hr

/-! ## Leading zeros -/

theorem toList_paddedText (width n : Nat) :
    (paddedText width n).toList =
      List.replicate (width - (natDigits n).length) '0' ++ natDigits n := by
  simp [paddedText]

theorem length_paddedText {width n : Nat} (hw : 0 < width) (h : n < tenTo width) :
    (paddedText width n).toList.length = width := by
  have := length_natDigits_le hw h
  rw [toList_paddedText, List.length_append, List.length_replicate]
  omega

theorem isAsciiDigit_of_mem_paddedText {width n : Nat} {c : Char}
    (h : c ∈ (paddedText width n).toList) : isAsciiDigit c = true := by
  rw [toList_paddedText, List.mem_append] at h
  rcases h with h | h
  · rw [List.eq_of_mem_replicate h]
    rfl
  · exact isAsciiDigit_of_mem_natDigits h

theorem natOfDigits_paddedText (width n : Nat) : natOfDigits (paddedText width n).toList = n := by
  rw [toList_paddedText, natOfDigits_zeros_append, natOfDigits_natDigits]

/-- A number with leading zeros reads back. -/
theorem takeNumber?_padded {width n : Nat} (hw : 0 < width) (h : n < tenTo width)
    (rest : List Char) : takeNumber? width ((paddedText width n).toList ++ rest) = some (n, rest) := by
  have hlen := length_paddedText hw h
  have hall : (paddedText width n).toList.all isAsciiDigit = true :=
    List.all_eq_true.2 fun _ hc => isAsciiDigit_of_mem_paddedText hc
  have htake : ((paddedText width n).toList ++ rest).take width = (paddedText width n).toList :=
    List.take_left' hlen
  have hdrop : ((paddedText width n).toList ++ rest).drop width = rest := List.drop_left' hlen
  rw [takeNumber?, htake, hdrop]
  simp only [hlen, hall, natOfDigits_paddedText, and_self, if_true]

end WorkspaceTools.Number
