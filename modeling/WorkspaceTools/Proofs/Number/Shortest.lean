import WorkspaceTools.Proofs.Number.Rounding

/-!
# The shortest decimal reads back

* `ten_zpow_leadingPlace_le`: the leading place of m · 2^e is not too high.
* `nearestOnGrid_isSome`: on a grid fine enough one of the two neighbours of m · 2^e rounds to it.
* `roundsTo_shortest`: the shortest decimal rounds to the number that it is made from.
-/

namespace WorkspaceTools.Number

/-! ## The leading place -/

/-- A power of ten below a power of two: 59 decimal places are less than 196 binary ones. -/
theorem ten_zpow_le_of_nonneg {j n : Int} (hj : 0 ≤ j) (h : 196 * j ≤ 59 * n) :
    (10 : ℚ) ^ j ≤ 2 ^ n := by
  have hbase : (10 : ℚ) ^ 59 ≤ 2 ^ 196 := by norm_num
  obtain ⟨k, rfl⟩ := Int.eq_ofNat_of_zero_le hj
  have hpow : ((10 : ℚ) ^ (k : Int)) ^ 59 ≤ ((2 : ℚ) ^ n) ^ 59 := by
    calc ((10 : ℚ) ^ (k : Int)) ^ 59 = (10 ^ 59) ^ k := by
          rw [zpow_natCast, ← pow_mul, ← pow_mul, mul_comm]
      _ ≤ (2 ^ 196) ^ k := pow_le_pow_left₀ (by norm_num) hbase k
      _ = 2 ^ (196 * (k : Int)) := by rw [← pow_mul, ← zpow_natCast]; norm_num
      _ ≤ 2 ^ (59 * n) := zpow_le_zpow_right₀ (by norm_num) h
      _ = ((2 : ℚ) ^ n) ^ 59 := by rw [mul_comm, zpow_mul]; norm_cast
  exact (pow_le_pow_iff_left₀ (by positivity) (by positivity) (by norm_num)).1 hpow

/-- And below a fraction: 93 binary places are less than 28 decimal ones. -/
theorem ten_zpow_le_of_nonpos {j n : Int} (hj : j ≤ 0) (h : 93 * j ≤ 28 * n) :
    (10 : ℚ) ^ j ≤ 2 ^ n := by
  have hbase : (2 : ℚ) ^ 93 ≤ 10 ^ 28 := by norm_num
  obtain ⟨k, hk⟩ := Int.eq_ofNat_of_zero_le (neg_nonneg.2 hj)
  obtain rfl : j = -k := by omega
  have hpow : ((10 : ℚ) ^ (-k : Int)) ^ 28 ≤ ((2 : ℚ) ^ n) ^ 28 := by
    calc ((10 : ℚ) ^ (-k : Int)) ^ 28 = ((10 ^ 28) ^ k)⁻¹ := by
          rw [zpow_neg, zpow_natCast, inv_pow, ← pow_mul, ← pow_mul, mul_comm]
      _ ≤ ((2 ^ 93) ^ k)⁻¹ := inv_anti₀ (by positivity) (pow_le_pow_left₀ (by norm_num) hbase k)
      _ = 2 ^ (93 * -(k : Int)) := by rw [← pow_mul, ← zpow_natCast, ← zpow_neg]; norm_num
      _ ≤ 2 ^ (28 * n) := zpow_le_zpow_right₀ (by norm_num) h
      _ = ((2 : ℚ) ^ n) ^ 28 := by rw [mul_comm, zpow_mul]; norm_cast
  exact (pow_le_pow_iff_left₀ (by positivity) (by positivity) (by norm_num)).1 hpow

/-- One below the estimate of the leading place is not too high. -/
theorem ten_zpow_estimate_le {n : Int} (hl : -1074 ≤ n) (hh : n ≤ 1023) :
    (10 : ℚ) ^ (n * 30103 / 100000 - 1) ≤ 2 ^ n := by
  rcases le_total 0 (n * 30103 / 100000 - 1) with h | h
  · exact ten_zpow_le_of_nonneg h (by omega)
  · exact ten_zpow_le_of_nonpos h (by omega)

theorem two_zpow_log2_le {m : Nat} (hm : 0 < m) (e : Int) :
    (2 : ℚ) ^ ((m.log2 : Int) + e) ≤ binaryValue m e := by
  rw [zpow_add₀ (by norm_num), binaryValue]
  exact mul_le_mul_of_nonneg_right (log2_bounds (by omega)).1 (by positivity)

theorem decimalValue_one (g : Int) : decimalValue 1 g = 10 ^ g := by
  rw [decimalValue, Nat.cast_one, one_mul]

/-- The leading place of a number is not too high. -/
theorem ten_zpow_leadingPlace_le {m : Nat} {e : Int} (hm : 0 < m) (hm' : m < twoTo 53)
    (hl : Binary64.minExponent ≤ e) (hh : e ≤ Binary64.maxExponent) :
    (10 : ℚ) ^ leadingPlace m e ≤ binaryValue m e := by
  have hlog : m.log2 < 53 := (Nat.log2_lt (by omega)).2 hm'
  simp only [Binary64.minExponent] at hl
  simp only [Binary64.maxExponent] at hh
  unfold leadingPlace
  simp only
  split
  · exact le_trans (ten_zpow_estimate_le (by omega) (by omega)) (two_zpow_log2_le hm e)
  · rename_i hnot
    split
    · rename_i habove
      rw [bne_iff_ne, Ne, compareScaled_eq_gt_iff, not_lt, decimalValue_one] at habove
      exact habove
    · rw [beq_iff_eq, compareScaled_eq_gt_iff, not_lt, decimalValue_one] at hnot
      exact hnot

/-! ## Grids that are fine enough -/

theorem two_zpow_eq_quarters (e : Int) : (2 : ℚ) ^ e = 4 * 2 ^ (e - 2) := by
  rw [zpow_sub₀ (by norm_num)]
  norm_num
  ring

theorem binaryValue_lower {m : Nat} (hm : 0 < m) (e : Int) :
    binaryValue (4 * m - lowerGap m e) (e - 2) = binaryValue m e - lowerGap m e * 2 ^ (e - 2) := by
  have hgap : lowerGap m e ≤ 4 * m := by
    rcases lowerGap_cases m e with ⟨hg, -⟩ | ⟨hg, -⟩ <;> omega
  rw [binaryValue, binaryValue, Nat.cast_sub hgap, two_zpow_eq_quarters e]
  push_cast
  ring

theorem binaryValue_upper (m : Nat) (e : Int) :
    binaryValue (4 * m + 2) (e - 2) = binaryValue m e + 2 * 2 ^ (e - 2) := by
  rw [binaryValue, binaryValue, two_zpow_eq_quarters e]
  push_cast
  ring

/-- Numbers between the two midpoints round to the number between them. -/
theorem roundsTo_of_between {m : Nat} {e : Int} {x : ℚ} (hm : 0 < m)
    (hl : binaryValue m e - lowerGap m e * 2 ^ (e - 2) < x)
    (hh : x < binaryValue m e + 2 * 2 ^ (e - 2)) : RoundsTo m e x := by
  rw [← binaryValue_lower hm] at hl
  rw [← binaryValue_upper] at hh
  exact ⟨hl.le, hh.le, fun _ => ⟨hl, hh⟩⟩

/-- A grid is fine enough for a number if its points are closer than the two midpoints around it. -/
def IsFine (m : Nat) (e g : Int) : Prop := (10 : ℚ) ^ g < (lowerGap m e + 2) * 2 ^ (e - 2)

/-- The points of a grid around a number. -/
theorem decimalValue_succ (c : Nat) (g : Int) : decimalValue (c + 1) g = decimalValue c g + 10 ^ g := by
  rw [decimalValue, decimalValue]
  push_cast
  ring

theorem nearestOnGrid_isSome {m : Nat} {e g : Int} (hm : 0 < m) (h : IsFine m e g) :
    (nearestOnGrid m e g).isSome = true := by
  have hlow := floorOnGrid_le m e g
  have hhigh := lt_floorOnGrid m e g
  rw [decimalValue_succ] at hhigh
  have hquarter : (0 : ℚ) < 2 ^ (e - 2) := by positivity
  have hgap : (0 : ℚ) < lowerGap m e := by
    rcases lowerGap_cases m e with ⟨hg, -⟩ | ⟨hg, -⟩ <;> rw [hg] <;> norm_num
  have hread : readsBack m e (floorOnGrid m e g) g = true ∨
      readsBack m e (floorOnGrid m e g + 1) g = true := by
    rw [readsBack_iff, readsBack_iff, decimalValue_succ]
    by_cases hside : binaryValue m e - lowerGap m e * 2 ^ (e - 2) < decimalValue (floorOnGrid m e g) g
    · exact .inl (roundsTo_of_between hm hside (by linarith))
    · refine .inr (roundsTo_of_between hm ?_ ?_)
      · have := mul_pos hgap hquarter
        linarith
      · have := h
        rw [IsFine, add_mul] at this
        linarith
  unfold nearestOnGrid
  simp only
  rcases hread with hr | hr
  · rw [hr]
    cases readsBack m e (floorOnGrid m e g + 1) g with
    | false => rfl
    | true => cases compareScaled (2 * floorOnGrid m e g + 1) g (2 * m) e <;> rfl
  · rw [hr]
    cases readsBack m e (floorOnGrid m e g) g with
    | false => rfl
    | true => cases compareScaled (2 * floorOnGrid m e g + 1) g (2 * m) e <;> rfl

theorem readsBack_nearestOnGrid {m : Nat} {e g : Int} {c : Nat} (h : nearestOnGrid m e g = some c) :
    readsBack m e c g = true := by
  unfold nearestOnGrid at h
  simp only at h
  split at h
  · rename_i hl hh
    split at h
    · cases h; exact hl
    · cases h; exact hh
    · cases h
      split
      · exact hl
      · exact hh
  · cases h; assumption
  · cases h; assumption
  · cases h

/-- Seventeen digits are enough. -/
theorem isFine_leadingPlace {m : Nat} {e : Int} (hm : 0 < m) (hm' : m < twoTo 53)
    (hl : Binary64.minExponent ≤ e) (hh : e ≤ Binary64.maxExponent) :
    IsFine m e (leadingPlace m e - 16) := by
  have hplace := ten_zpow_leadingPlace_le hm hm' hl hh
  have hquarter : (0 : ℚ) < 2 ^ (e - 2) := by positivity
  have hbound : (m : ℚ) * 4 < (lowerGap m e + 2) * 10 ^ (16 : Int) := by
    rcases lowerGap_cases m e with ⟨hg, -⟩ | ⟨hg, rfl, -⟩
    · have hm'' : (m : ℚ) < 2 ^ 53 := by
        rw [← cast_twoTo]
        exact_mod_cast hm'
      have h53 : (2 : ℚ) ^ 53 < 10 ^ (16 : Int) := by norm_num
      rw [hg, Nat.cast_two]
      linarith
    · rw [hg, cast_twoTo]
      norm_num
  rw [IsFine, zpow_sub₀ (by norm_num), div_lt_iff₀ (by positivity)]
  calc (10 : ℚ) ^ leadingPlace m e ≤ binaryValue m e := hplace
    _ = m * 4 * 2 ^ (e - 2) := by rw [binaryValue, two_zpow_eq_quarters e]; ring
    _ < (lowerGap m e + 2) * 10 ^ (16 : Int) * 2 ^ (e - 2) := mul_lt_mul_of_pos_right hbound hquarter
    _ = (lowerGap m e + 2) * 2 ^ (e - 2) * 10 ^ (16 : Int) := by ring

/-! ## The search -/

/-- The search ends on a grid that is fine enough, if not before. -/
theorem readsBack_shortestFrom {m : Nat} {e place : Int} (hm : 0 < m) (more used : Nat)
    (h : ∃ j < more, IsFine m e (place - (used + j : Nat))) :
    readsBack m e (shortestFrom m e place more used).coefficient
      (shortestFrom m e place more used).exponent = true := by
  induction more generalizing used with
  | zero =>
    obtain ⟨j, hj, -⟩ := h
    omega
  | succ more ih =>
    unfold shortestFrom
    simp only
    split
    · rename_i c hc
      exact readsBack_nearestOnGrid hc
    · rename_i hnone
      refine ih (used + 1) ?_
      obtain ⟨j, hj, hfine⟩ := h
      cases j with
      | zero =>
        rw [Nat.add_zero] at hfine
        have := nearestOnGrid_isSome hm hfine
        rw [hnone] at this
        cases this
      | succ j => exact ⟨j, by omega, by rwa [Nat.add_assoc, Nat.add_comm 1]⟩

/-- **The shortest decimal** of a number rounds to it. -/
theorem roundsTo_shortest {negative : Bool} {m : Nat} {e : Int} (hm : 0 < m)
    (hc : (Binary64.finite negative m e).IsCanonical) :
    RoundsTo m e (decimalValue (shortest m e).coefficient (shortest m e).exponent) :=
  readsBack_iff.1 <| readsBack_shortestFrom hm 17 0
    ⟨16, by decide, isFine_leadingPlace hm hc.1 hc.2.1 hc.2.2.1⟩

end WorkspaceTools.Number
