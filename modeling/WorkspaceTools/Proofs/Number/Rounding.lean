import WorkspaceTools.Proofs.Number.Scale

/-!
# Rounding to double precision

* `Binary64.IsCanonical` says that a number is written in its one way; `isCanonical_ofDecimal` that
  rounding gives such numbers.
* `IsExponent x e` says that a number in the range of x is written with the exponent e, and
  `RoundsTo m e x` that m · 2^e is the nearest number to x, a half going to the even mantissa.
* `ofDecimal_of_roundsTo`: a decimal becomes the number that it rounds to.
-/

namespace WorkspaceTools.Number

/-! ## Whole numbers -/

/-- A whole number within one half of a ratio is its whole part or the next one. -/
theorem near_quotient {den m q r : Nat} (hr : r < den) (hl : 2 * m * den ≤ 2 * (den * q + r) + den)
    (hh : 2 * (den * q + r) ≤ 2 * m * den + den) : m = q ∨ m = q + 1 := by
  have hlow : q ≤ m := by
    by_contra hlt
    have : (m + 1) * den ≤ q * den := Nat.mul_le_mul_right _ (by omega)
    nlinarith
  have hhigh : m ≤ q + 1 := by
    by_contra hlt
    have : (q + 2) * den ≤ m * den := Nat.mul_le_mul_right _ (by omega)
    nlinarith
  omega

/-- The whole number that is nearest to a ratio; at half-way only an even one is. -/
theorem roundHalfEven_eq {num den m : Nat} (hd : 0 < den) (hl : 2 * m * den ≤ 2 * num + den)
    (hh : 2 * num ≤ 2 * m * den + den)
    (hodd : m % 2 = 1 → 2 * m * den < 2 * num + den ∧ 2 * num < 2 * m * den + den) :
    roundHalfEven num den = m := by
  have hdiv := Nat.div_add_mod num den
  have hmod := Nat.mod_lt num hd
  unfold roundHalfEven
  simp only
  generalize num / den = q at hdiv ⊢
  generalize num % den = r at hdiv hmod ⊢
  subst hdiv
  rcases near_quotient hmod hl hh with rfl | rfl
  · have hr : 2 * r ≤ den := by nlinarith
    rcases Nat.lt_or_eq_of_le hr with hlt | heq
    · rw [if_pos hlt]
    · have heven : m % 2 ≠ 1 := fun h => by
        have := (hodd h).2
        nlinarith
      rw [if_neg (by omega), if_neg (by omega)]
      omega
  · have hr : den ≤ 2 * r := by nlinarith
    rcases Nat.lt_or_eq_of_le hr with hlt | heq
    · rw [if_neg (by omega), if_pos hlt]
    · have heven : (q + 1) % 2 ≠ 1 := fun h => by
        have := (hodd h).1
        nlinarith
      rw [if_neg (by omega), if_neg (by omega)]
      omega

/-- The nearest whole number lies between the same whole numbers as the ratio. -/
theorem roundHalfEven_bounds {num den low high : Nat} (hd : 0 < den) (hl : low * den ≤ num)
    (hh : num < high * den) : low ≤ roundHalfEven num den ∧ roundHalfEven num den ≤ high := by
  have hlow : low ≤ num / den := (Nat.le_div_iff_mul_le hd).2 hl
  have hhigh : num / den < high := (Nat.div_lt_iff_lt_mul hd).2 hh
  unfold roundHalfEven
  simp only
  split
  · omega
  · split <;> omega

/-! ## Exponents -/

/-- Numbers in the range of `x` are written with the exponent `e`. -/
structure IsExponent (x : ℚ) (e : Int) : Prop where
  least : Binary64.minExponent ≤ e
  below : x < 2 ^ (e + 53)
  above : 2 ^ (e + 52) ≤ x ∨ e = Binary64.minExponent

theorem IsExponent.le {x : ℚ} {e e' : Int} (h : IsExponent x e) (h' : IsExponent x e') : e' ≤ e := by
  by_contra hlt
  rcases h'.above with ha | ha
  · have hpow : (2 : ℚ) ^ (e' + 52) < 2 ^ (e + 53) := lt_of_le_of_lt ha h.below
    have := (zpow_lt_zpow_iff_right₀ (by norm_num : (1 : ℚ) < 2)).1 hpow
    omega
  · have := h.least
    omega

/-- There is one exponent. -/
theorem IsExponent.eq {x : ℚ} {e e' : Int} (h : IsExponent x e) (h' : IsExponent x e') : e = e' :=
  le_antisymm (h'.le h) (h.le h')

/-- The exponent to which a ratio is rounded. -/
def roundingExponent (num den : Nat) : Int :=
  let guess : Int := (num.log2 : Int) - (den.log2 : Int) - 52
  let atGuess := scaleRatio num den guess
  max Binary64.minExponent (if atGuess.1 / atGuess.2 < twoTo 52 then guess - 1 else guess)

/-- A number lies between the powers of two that its length tells. -/
theorem log2_bounds {n : Nat} (h : n ≠ 0) :
    (2 : ℚ) ^ (n.log2 : Int) ≤ n ∧ (n : ℚ) < 2 ^ ((n.log2 : Int) + 1) := by
  have hlt := Nat.lt_log2_self (n := n)
  rw [← Nat.cast_one, ← Nat.cast_add, zpow_natCast, zpow_natCast]
  exact ⟨by exact_mod_cast Nat.log2_self_le h, by exact_mod_cast hlt⟩

/-- The bounds that the lengths of two numbers give for their ratio. -/
theorem ratio_bounds {num den : Nat} (hn : num ≠ 0) (hd : den ≠ 0) :
    (2 : ℚ) ^ ((num.log2 : Int) - den.log2 - 52 + 51) ≤ num / den ∧
      (num / den : ℚ) < 2 ^ ((num.log2 : Int) - den.log2 - 52 + 53) := by
  have hden : (0 : ℚ) < den := by exact_mod_cast Nat.pos_of_ne_zero hd
  obtain ⟨hn₁, hn₂⟩ := log2_bounds hn
  obtain ⟨hd₁, hd₂⟩ := log2_bounds hd
  rw [le_div_iff₀ hden, div_lt_iff₀ hden]
  constructor
  · calc (2 : ℚ) ^ ((num.log2 : Int) - den.log2 - 52 + 51) * den
        ≤ 2 ^ ((num.log2 : Int) - den.log2 - 52 + 51) * 2 ^ ((den.log2 : Int) + 1) :=
          mul_le_mul_of_nonneg_left hd₂.le (by positivity)
      _ = 2 ^ (num.log2 : Int) := by
          rw [← zpow_add₀ (by norm_num)]
          congr 1
          ring
      _ ≤ num := hn₁
  · calc (num : ℚ) < 2 ^ ((num.log2 : Int) + 1) := hn₂
      _ = 2 ^ ((num.log2 : Int) - den.log2 - 52 + 53) * 2 ^ (den.log2 : Int) := by
          rw [← zpow_add₀ (by norm_num)]
          congr 1
          ring
      _ ≤ 2 ^ ((num.log2 : Int) - den.log2 - 52 + 53) * den :=
          mul_le_mul_of_nonneg_left hd₁ (by positivity)

/-- The whole part of a scaled ratio tells on which side of a power of two the ratio lies. -/
theorem scaleRatio_div_lt_iff (num : Nat) {den : Nat} (hd : 0 < den) (e : Int) :
    (scaleRatio num den e).1 / (scaleRatio num den e).2 < twoTo 52 ↔
      (num / den : ℚ) < 2 ^ (e + 52) := by
  have hpos := scaleRatio_snd_pos num hd e
  have hpos' : (0 : ℚ) < (scaleRatio num den e).2 := by exact_mod_cast hpos
  have h2 : (0 : ℚ) < 2 ^ e := by positivity
  rw [Nat.div_lt_iff_lt_mul hpos, zpow_add₀ (by norm_num), mul_comm (2 ^ e : ℚ), ← div_lt_iff₀ h2,
    ← div_scaleRatio, div_lt_iff₀ hpos', ← @Nat.cast_lt ℚ, Nat.cast_mul, cast_twoTo]
  norm_num

theorem isExponent_roundingExponent {num den : Nat} (hn : num ≠ 0) (hd : den ≠ 0) :
    IsExponent (num / den) (roundingExponent num den) := by
  obtain ⟨hl, hh⟩ := ratio_bounds hn hd
  have hside := scaleRatio_div_lt_iff num (Nat.pos_of_ne_zero hd)
    ((num.log2 : Int) - (den.log2 : Int) - 52)
  unfold roundingExponent
  simp only [hside]
  generalize (num.log2 : Int) - (den.log2 : Int) - 52 = guess at hl hh ⊢
  generalize (num / den : ℚ) = x at hl hh ⊢
  have hspec : ∀ e : Int, 2 ^ (e + 52) ≤ x → x < 2 ^ (e + 53) →
      IsExponent x (max Binary64.minExponent e) := by
    intro e hle hlt
    refine ⟨le_max_left _ _, lt_of_lt_of_le hlt ?_, ?_⟩
    · exact zpow_le_zpow_right₀ (by norm_num) (by omega)
    · rcases le_total Binary64.minExponent e with hm | hm
      · rw [max_eq_right hm]
        exact .inl hle
      · rw [max_eq_left hm]
        exact .inr rfl
  split
  · rename_i hlt
    refine hspec (guess - 1) ?_ ?_
    · rwa [show guess - 1 + 52 = guess + 51 by ring]
    · rwa [show guess - 1 + 53 = guess + 52 by ring]
  · rename_i hge
    exact hspec guess (not_lt.1 hge) hh

/-! ## Rounded ratios -/

/-- The number of a rounded mantissa; one of 53 bits and a carry has the next exponent. -/
def carried (negative : Bool) (m : Nat) (e : Int) : Binary64 :=
  let (m, e) := if m = twoTo 53 then (twoTo 52, e + 1) else (m, e)
  if Binary64.maxExponent < e then .infinite negative else .finite negative m e

/-- The mantissa to which a ratio is rounded at an exponent. -/
def mantissaAt (num den : Nat) (e : Int) : Nat :=
  roundHalfEven (scaleRatio num den e).1 (scaleRatio num den e).2

theorem ofRatio_eq_carried (negative : Bool) {num : Nat} (den : Nat) (hn : num ≠ 0) :
    Binary64.ofRatio negative num den =
      carried negative (mantissaAt num den (roundingExponent num den)) (roundingExponent num den) := by
  rw [Binary64.ofRatio, if_neg hn]
  rfl

/-- A number is written in its one way. -/
def Binary64.IsCanonical : Binary64 → Prop
  | .finite _ m e =>
    m < twoTo 53 ∧ minExponent ≤ e ∧ e ≤ maxExponent ∧ (twoTo 52 ≤ m ∨ e = minExponent)
  | _ => True

/-- A ratio in the range of an exponent has a mantissa of 53 bits there, but for a carry. -/
theorem mantissaAt_bounds {num den : Nat} (hd : 0 < den) {e : Int} (h : IsExponent (num / den) e) :
    mantissaAt num den e ≤ twoTo 53 ∧ (twoTo 52 ≤ mantissaAt num den e ∨ e = Binary64.minExponent) := by
  have hpos := scaleRatio_snd_pos num hd e
  have hpos' : (0 : ℚ) < (scaleRatio num den e).2 := by exact_mod_cast hpos
  have h2 : (0 : ℚ) < 2 ^ e := by positivity
  have hscaled := div_scaleRatio num den e
  have hhigh : (scaleRatio num den e).1 < twoTo 53 * (scaleRatio num den e).2 := by
    have := h.below
    rw [zpow_add₀ (by norm_num), mul_comm (2 ^ e : ℚ), ← div_lt_iff₀ h2, ← hscaled,
      div_lt_iff₀ hpos'] at this
    rw [← @Nat.cast_lt ℚ, Nat.cast_mul, cast_twoTo]
    exact_mod_cast this
  have hzero : 0 * (scaleRatio num den e).2 ≤ (scaleRatio num den e).1 := by simp
  refine ⟨(roundHalfEven_bounds hpos hzero hhigh).2, h.above.imp_left fun ha => ?_⟩
  have hlow : twoTo 52 * (scaleRatio num den e).2 ≤ (scaleRatio num den e).1 := by
    rw [zpow_add₀ (by norm_num), mul_comm (2 ^ e : ℚ), ← le_div_iff₀ h2, ← hscaled,
      le_div_iff₀ hpos'] at ha
    rw [← @Nat.cast_le ℚ, Nat.cast_mul, cast_twoTo]
    exact_mod_cast ha
  exact (roundHalfEven_bounds hpos hlow hhigh).1

theorem isCanonical_carried (negative : Bool) {m : Nat} {e : Int} (hm : m ≤ twoTo 53)
    (he : Binary64.minExponent ≤ e) (hc : twoTo 52 ≤ m ∨ e = Binary64.minExponent) :
    (carried negative m e).IsCanonical := by
  have hlt : twoTo 52 < twoTo 53 := by decide
  unfold carried
  split
  rename_i m' e' heq
  split at heq
  · cases heq
    split
    · trivial
    · exact ⟨hlt, by omega, by omega, .inl le_rfl⟩
  · cases heq
    split
    · trivial
    · exact ⟨by omega, he, by omega, hc⟩

theorem isCanonical_zero (negative : Bool) : (Binary64.zero negative).IsCanonical :=
  ⟨twoTo_pos _, le_rfl, by decide, .inr rfl⟩

theorem isCanonical_ofRatio (negative : Bool) (num : Nat) {den : Nat} (hd : 0 < den) :
    (Binary64.ofRatio negative num den).IsCanonical := by
  by_cases hn : num = 0
  · rw [Binary64.ofRatio, if_pos hn]
    exact isCanonical_zero negative
  · have he := isExponent_roundingExponent hn (by omega : den ≠ 0)
    have hm := mantissaAt_bounds hd he
    rw [ofRatio_eq_carried negative den hn]
    exact isCanonical_carried negative hm.1 he.least hm.2

/-- Every decimal is rounded to a number that is written in its one way. -/
theorem isCanonical_ofDecimal (negative : Bool) (digits : Nat) (exponent : Int) :
    (Binary64.ofDecimal negative digits exponent).IsCanonical := by
  unfold Binary64.ofDecimal
  split
  · exact isCanonical_zero negative
  · split
    · trivial
    · split
      · exact isCanonical_zero negative
      · split
        · exact isCanonical_ofRatio negative _ (by decide)
        · exact isCanonical_ofRatio negative _ (tenTo_pos _)

/-! ## The numbers that round to a given one -/

/-- The distance of a number from the midpoint below it, in quarters of a unit of its mantissa. Below the
least mantissa of an exponent the numbers are twice as close. -/
def lowerGap (m : Nat) (e : Int) : Nat :=
  if m = twoTo 52 ∧ Binary64.minExponent < e then 1 else 2

/-- The nearest number to `x` is m · 2^e. -/
structure RoundsTo (m : Nat) (e : Int) (x : ℚ) : Prop where
  low : binaryValue (4 * m - lowerGap m e) (e - 2) ≤ x
  high : x ≤ binaryValue (4 * m + 2) (e - 2)
  odd : m % 2 = 1 →
    binaryValue (4 * m - lowerGap m e) (e - 2) < x ∧ x < binaryValue (4 * m + 2) (e - 2)

/-- The decimals that read back are those that round to the number. -/
theorem readsBack_iff {m : Nat} {e : Int} {c : Nat} {g : Int} :
    readsBack m e c g = true ↔ RoundsTo m e (decimalValue c g) := by
  have hlow := @compareScaled_eq_lt_iff c g (4 * m - lowerGap m e) (e - 2)
  have hlow' := @compareScaled_eq_gt_iff c g (4 * m - lowerGap m e) (e - 2)
  have hhigh := @compareScaled_eq_gt_iff c g (4 * m + 2) (e - 2)
  have hhigh' := @compareScaled_eq_lt_iff c g (4 * m + 2) (e - 2)
  have hdef : readsBack m e c g =
      if m % 2 = 0 then
        compareScaled c g (4 * m - lowerGap m e) (e - 2) != .lt &&
          compareScaled c g (4 * m + 2) (e - 2) != .gt
      else
        compareScaled c g (4 * m - lowerGap m e) (e - 2) == .gt &&
          compareScaled c g (4 * m + 2) (e - 2) == .lt := rfl
  rw [hdef]
  split
  · rename_i heven
    rw [Bool.and_eq_true, bne_iff_ne, bne_iff_ne, Ne, Ne, hlow, hhigh, not_lt, not_lt]
    exact ⟨fun h => ⟨h.1, h.2, fun hodd => by omega⟩, fun h => ⟨h.low, h.high⟩⟩
  · rename_i hodd
    rw [Bool.and_eq_true, beq_iff_eq, beq_iff_eq, hlow', hhigh']
    exact ⟨fun h => ⟨h.1.le, h.2.le, fun _ => h⟩, fun h => h.odd (by omega)⟩

/-- Half units of a scale, compared with a ratio on that scale. -/
theorem half_le_iff {a t num den : ℚ} (ht : 0 < t) (hd : 0 < den) :
    a * (t / 2) ≤ num / den * t ↔ a * den ≤ 2 * num := by
  rw [show a * (t / 2) = a / 2 * t by ring, mul_le_mul_iff_left₀ ht, div_le_div_iff₀ two_pos hd,
    mul_comm num]

theorem le_half_iff {a t num den : ℚ} (ht : 0 < t) (hd : 0 < den) :
    num / den * t ≤ a * (t / 2) ↔ 2 * num ≤ a * den := by
  rw [show a * (t / 2) = a / 2 * t by ring, mul_le_mul_iff_left₀ ht, div_le_div_iff₀ hd two_pos,
    mul_comm num]

/-- The mantissa of a number within one half of a unit. -/
theorem mantissaAt_eq {num den m : Nat} {e : Int} (hd : 0 < den)
    (hl : (2 * m - 1 : ℚ) * 2 ^ (e - 1) ≤ num / den) (hh : (num / den : ℚ) ≤ (2 * m + 1) * 2 ^ (e - 1))
    (hodd : m % 2 = 1 →
      (2 * m - 1 : ℚ) * 2 ^ (e - 1) < num / den ∧ (num / den : ℚ) < (2 * m + 1) * 2 ^ (e - 1)) :
    mantissaAt num den e = m := by
  have hpos := scaleRatio_snd_pos num hd e
  have hpos' : (0 : ℚ) < (scaleRatio num den e).2 := by exact_mod_cast hpos
  have h2 : (0 : ℚ) < 2 ^ e := by positivity
  have hscaled : (num / den : ℚ) = (scaleRatio num den e).1 / (scaleRatio num den e).2 * 2 ^ e := by
    rw [div_scaleRatio, div_mul_cancel₀ _ h2.ne']
  have hhalf : (2 : ℚ) ^ (e - 1) = 2 ^ e / 2 := by rw [zpow_sub_one₀ (by norm_num), div_eq_mul_inv]
  rw [hscaled, hhalf] at hl hh hodd
  rw [half_le_iff h2 hpos'] at hl
  rw [le_half_iff h2 hpos'] at hh
  simp only [← not_le, le_half_iff h2 hpos', half_le_iff h2 hpos'] at hodd
  simp only [not_le] at hodd
  refine roundHalfEven_eq hpos ?_ ?_ fun h => ⟨?_, ?_⟩
  · rw [← @Nat.cast_le ℚ]
    push_cast
    linarith
  · rw [← @Nat.cast_le ℚ]
    push_cast
    linarith
  · have := (hodd h).1
    rw [← @Nat.cast_lt ℚ]
    push_cast
    linarith
  · have := (hodd h).2
    rw [← @Nat.cast_lt ℚ]
    push_cast
    linarith

/-- A quarter of a unit. -/
theorem binaryValue_sub_two (k : Nat) (e : Int) : binaryValue k (e - 2) = k / 2 * 2 ^ (e - 1) := by
  rw [binaryValue, show e - 2 = e - 1 - 1 by ring, zpow_sub_one₀ (by norm_num)]
  ring

theorem RoundsTo.high_half {m : Nat} {e : Int} {x : ℚ} (h : RoundsTo m e x) :
    x ≤ (2 * m + 1) * 2 ^ (e - 1) := by
  have := h.high
  rw [binaryValue_sub_two] at this
  push_cast at this
  linarith

/-- Away from the least mantissa of an exponent both midpoints are half a unit away. -/
theorem RoundsTo.low_half {m : Nat} {e : Int} {x : ℚ} (h : RoundsTo m e x) (hm : 0 < m)
    (hgap : lowerGap m e = 2) : (2 * m - 1) * 2 ^ (e - 1) ≤ x := by
  have := h.low
  rw [hgap, binaryValue_sub_two, Nat.cast_sub (by omega)] at this
  push_cast at this
  linarith

theorem RoundsTo.odd_half {m : Nat} {e : Int} {x : ℚ} (h : RoundsTo m e x)
    (hgap : lowerGap m e = 2) (hodd : m % 2 = 1) :
    (2 * m - 1) * 2 ^ (e - 1) < x ∧ x < (2 * m + 1) * 2 ^ (e - 1) := by
  obtain ⟨hl, hh⟩ := h.odd hodd
  rw [hgap, binaryValue_sub_two, Nat.cast_sub (by omega)] at hl
  rw [binaryValue_sub_two] at hh
  push_cast at hl hh
  exact ⟨by linarith, by linarith⟩

theorem lowerGap_cases (m : Nat) (e : Int) :
    lowerGap m e = 2 ∧ (m ≠ twoTo 52 ∨ e ≤ Binary64.minExponent) ∨
      lowerGap m e = 1 ∧ m = twoTo 52 ∧ Binary64.minExponent < e := by
  unfold lowerGap
  split
  · exact .inr ⟨rfl, ‹_›⟩
  · exact .inl ⟨rfl, by omega⟩

theorem RoundsTo.pos {m : Nat} {e : Int} {x : ℚ} (h : RoundsTo m e x) (hm : 0 < m) : 0 < x := by
  refine lt_of_lt_of_le ?_ h.low
  have hgap : 0 < 4 * m - lowerGap m e := by
    rcases lowerGap_cases m e with ⟨hg, -⟩ | ⟨hg, -⟩ <;> omega
  have hgap' : (0 : ℚ) < (4 * m - lowerGap m e : Nat) := by exact_mod_cast hgap
  exact mul_pos hgap' (by positivity)

theorem zpow_add_half (e : Int) (n : Nat) : (2 : ℚ) ^ (e + n) = 2 ^ (n + 1) * 2 ^ (e - 1) := by
  rw [← zpow_natCast, ← zpow_add₀ (by norm_num)]
  congr 1
  push_cast
  ring

theorem RoundsTo.below {m : Nat} {e : Int} {x : ℚ} (h : RoundsTo m e x) (hm : m < twoTo 53) :
    x < 2 ^ (e + 53) := by
  have hpos : (0 : ℚ) < 2 ^ (e - 1) := by positivity
  have hm' : (m : ℚ) + 1 ≤ 2 ^ 53 := by
    rw [← cast_twoTo]
    exact_mod_cast hm
  calc x ≤ (2 * m + 1) * 2 ^ (e - 1) := h.high_half
    _ < 2 ^ 54 * 2 ^ (e - 1) := mul_lt_mul_of_pos_right (by linarith) hpos
    _ = 2 ^ (e + 53) := (zpow_add_half e 53).symm

/-- A ratio in the range of the exponent of the number that it rounds to. -/
theorem ofRatio_of_isExponent (negative : Bool) {num den m : Nat} {e : Int} (hn : num ≠ 0)
    (hd : 0 < den) (he : IsExponent (num / den) e) (hmant : mantissaAt num den e = m)
    (hm : m < twoTo 53) (hmax : e ≤ Binary64.maxExponent) :
    Binary64.ofRatio negative num den = .finite negative m e := by
  have hexp : roundingExponent num den = e :=
    (isExponent_roundingExponent hn (by omega : den ≠ 0)).eq he
  rw [ofRatio_eq_carried negative den hn, hexp, hmant, carried]
  simp only [if_neg (Nat.ne_of_lt hm), if_neg (not_lt.2 hmax)]

/-- A ratio below the range of the exponent: the mantissa is the least one, and a carry makes it. -/
theorem ofRatio_of_carry (negative : Bool) {num den : Nat} {e : Int} (hn : num ≠ 0) (hd : 0 < den)
    (he : IsExponent (num / den) (e - 1)) (hmant : mantissaAt num den (e - 1) = twoTo 53)
    (hmax : e ≤ Binary64.maxExponent) :
    Binary64.ofRatio negative num den = .finite negative (twoTo 52) e := by
  have hexp : roundingExponent num den = e - 1 :=
    (isExponent_roundingExponent hn (by omega : den ≠ 0)).eq he
  rw [ofRatio_eq_carried negative den hn, hexp, hmant, carried]
  simp only [if_true, sub_add_cancel, if_neg (not_lt.2 hmax)]

/-- Where both midpoints are half a unit away. -/
theorem ofRatio_of_halves (negative : Bool) {num den m : Nat} {e : Int} (hn : num ≠ 0) (hd : 0 < den)
    (hm : 0 < m) (hc : (Binary64.finite negative m e).IsCanonical) (h : RoundsTo m e (num / den))
    (hgap : lowerGap m e = 2) (hne : m ≠ twoTo 52 ∨ e ≤ Binary64.minExponent) :
    Binary64.ofRatio negative num den = .finite negative m e := by
  obtain ⟨hm53, hmin, hmax, hnormal⟩ := hc
  have hlow := h.low_half hm hgap
  have habove : (2 : ℚ) ^ (e + 52) ≤ num / den ∨ e = Binary64.minExponent := by
    rcases hne with hne | hle
    · refine hnormal.imp_left fun hge => ?_
      have hm52 : (2 : ℚ) ^ 52 + 1 ≤ m := by
        rw [← cast_twoTo]
        exact_mod_cast Nat.lt_of_le_of_ne hge (Ne.symm hne)
      calc (2 : ℚ) ^ (e + 52) = 2 ^ 53 * 2 ^ (e - 1) := zpow_add_half e 52
        _ ≤ (2 * m - 1) * 2 ^ (e - 1) := mul_le_mul_of_nonneg_right (by linarith) (by positivity)
        _ ≤ num / den := hlow
    · exact .inr (le_antisymm hle hmin)
  exact ofRatio_of_isExponent negative hn hd ⟨hmin, h.below hm53, habove⟩
    (mantissaAt_eq hd hlow h.high_half (h.odd_half hgap)) hm53 hmax

/-- Where the numbers below are twice as close, and rounding up carries. -/
theorem ofRatio_of_power (negative : Bool) {num den : Nat} {e : Int} (hn : num ≠ 0) (hd : 0 < den)
    (hmax : e ≤ Binary64.maxExponent) (h : RoundsTo (twoTo 52) e (num / den))
    (hgap : lowerGap (twoTo 52) e = 1) (hlt : Binary64.minExponent < e) :
    Binary64.ofRatio negative num den = .finite negative (twoTo 52) e := by
  have hm53 : twoTo 52 < twoTo 53 := by decide
  have hpos : (0 : ℚ) < 2 ^ (e - 1) := by positivity
  have heven : ¬twoTo 52 % 2 = 1 := by decide
  have hlow := h.low
  rw [hgap, binaryValue_sub_two, Nat.cast_sub (by decide)] at hlow
  push_cast [cast_twoTo] at hlow
  by_cases hside : (2 : ℚ) ^ (e + 52) ≤ num / den
  · refine ofRatio_of_isExponent negative hn hd ⟨hlt.le, h.below hm53, .inl hside⟩ ?_ hm53 hmax
    refine mantissaAt_eq hd (le_trans ?_ hside) h.high_half fun hodd => absurd hodd heven
    rw [show (2 : ℚ) ^ (e + 52) = _ from zpow_add_half e 52, cast_twoTo]
    exact mul_le_mul_of_nonneg_right (by norm_num) hpos.le
  · rw [not_le] at hside
    have hhalf : (2 : ℚ) ^ (e - 1 - 1) = 2 ^ (e - 1) / 2 := by
      rw [zpow_sub_one₀ (by norm_num), div_eq_mul_inv]
    have htop : (2 : ℚ) ^ (e + 52) = 2 ^ 53 * 2 ^ (e - 1) := zpow_add_half e 52
    have hexp : IsExponent (num / den) (e - 1) := by
      refine ⟨by omega, ?_, .inl (le_trans ?_ hlow)⟩
      · rwa [show e - 1 + 53 = e + 52 by ring]
      · rw [zpow_add₀ (by norm_num), mul_comm]
        exact mul_le_mul_of_nonneg_right (by norm_num) hpos.le
    have hmant : mantissaAt num den (e - 1) = twoTo 53 := by
      refine mantissaAt_eq hd ?_ ?_ fun hodd => absurd hodd (by decide)
      · rw [hhalf, cast_twoTo]
        linarith
      · rw [hhalf, cast_twoTo]
        linarith
    exact ofRatio_of_carry negative hn hd hexp hmant hmax

/-- **A ratio becomes the number that it rounds to.** -/
theorem ofRatio_of_roundsTo (negative : Bool) {num den m : Nat} {e : Int} (hd : 0 < den) (hm : 0 < m)
    (hc : (Binary64.finite negative m e).IsCanonical) (h : RoundsTo m e (num / den)) :
    Binary64.ofRatio negative num den = .finite negative m e := by
  have hn : num ≠ 0 := by
    rintro rfl
    simpa using h.pos hm
  rcases lowerGap_cases m e with ⟨hgap, hne⟩ | ⟨hgap, rfl, hlt⟩
  · exact ofRatio_of_halves negative hn hd hm hc h hgap hne
  · exact ofRatio_of_power negative hn hd hc.2.2.1 h hgap hlt

/-! ## Rounded decimals -/

/-- Ten is more than three bits. -/
theorem two_zpow_le_ten_zpow (k : Nat) : (2 : ℚ) ^ (3 * k : Int) ≤ 10 ^ (k : Int) := by
  rw [zpow_mul, zpow_natCast, zpow_natCast]
  exact pow_le_pow_left₀ (by norm_num) (by norm_num) k

/-- A decimal that rounds to a finite number has an exponent within reach. -/
theorem RoundsTo.exponent_le {m : Nat} {e : Int} {digits : Nat} {exponent : Int}
    (h : RoundsTo m e (decimalValue digits exponent)) (hm : m < twoTo 53)
    (he : e ≤ Binary64.maxExponent) (hd : digits ≠ 0) : exponent ≤ 400 := by
  by_contra hlt
  have hlow : (10 : ℚ) ^ (400 : Int) ≤ decimalValue digits exponent := by
    have hd' : (1 : ℚ) ≤ digits := by exact_mod_cast Nat.one_le_iff_ne_zero.2 hd
    have hpow : (10 : ℚ) ^ (400 : Int) ≤ 10 ^ exponent :=
      zpow_le_zpow_right₀ (by norm_num) (by omega)
    exact le_trans hpow (le_mul_of_one_le_left (by positivity) hd')
  have hhigh : decimalValue digits exponent < 10 ^ (400 : Int) := by
    refine lt_of_lt_of_le (h.below hm) (le_trans ?_ (two_zpow_le_ten_zpow 400))
    exact zpow_le_zpow_right₀ (by norm_num) (by simp only [Binary64.maxExponent] at he; omega)
  exact absurd hlow (not_le.2 hhigh)

/-- A decimal is below a power of ten that the length of its digits tells. -/
theorem decimalValue_lt (digits : Nat) (exponent : Int) :
    decimalValue digits exponent < 10 ^ ((digits.log2 / 3 + 1 : Nat) + exponent) := by
  have hdigits : (digits : ℚ) < 10 ^ ((digits.log2 / 3 + 1 : Nat) : Int) := by
    refine lt_of_lt_of_le ?_ (two_zpow_le_ten_zpow _)
    have hlog : (digits : ℚ) < 2 ^ (digits.log2 + 1) := by
      exact_mod_cast Nat.lt_log2_self (n := digits)
    refine lt_of_lt_of_le hlog ?_
    rw [← zpow_natCast]
    exact zpow_le_zpow_right₀ (by norm_num) (by omega)
  rw [zpow_add₀ (by norm_num)]
  exact mul_lt_mul_of_pos_right hdigits (by positivity)

/-- Nor is it too small. -/
theorem RoundsTo.le_exponent {m : Nat} {e : Int} {digits : Nat} {exponent : Int}
    (h : RoundsTo m e (decimalValue digits exponent)) (hm : 0 < m)
    (he : Binary64.minExponent ≤ e) : -400 ≤ exponent + (digits.log2 : Int) / 3 := by
  by_contra hlt
  have hgap : 2 ≤ 4 * m - lowerGap m e := by
    rcases lowerGap_cases m e with ⟨hg, -⟩ | ⟨hg, -⟩ <;> omega
  have hlow : (10 : ℚ) ^ (-400 : Int) ≤ decimalValue digits exponent := by
    refine le_trans ?_ h.low
    have hgap' : (1 : ℚ) ≤ (4 * m - lowerGap m e : Nat) := by exact_mod_cast le_trans one_le_two hgap
    refine le_trans ?_ (le_mul_of_one_le_left (by positivity) hgap')
    have hten : (10 : ℚ) ^ (-400 : Int) ≤ 2 ^ (-1200 : Int) := by
      rw [zpow_neg, zpow_neg]
      exact inv_anti₀ (by positivity) (two_zpow_le_ten_zpow 400)
    refine le_trans hten (zpow_le_zpow_right₀ (by norm_num) ?_)
    simp only [Binary64.minExponent] at he
    omega
  have hhigh : decimalValue digits exponent < 10 ^ (-400 : Int) := by
    refine lt_of_lt_of_le (decimalValue_lt digits exponent) ?_
    exact zpow_le_zpow_right₀ (by norm_num) (by omega)
  exact absurd hlow (not_le.2 hhigh)

/-- **A decimal becomes the number that it rounds to.** -/
theorem ofDecimal_of_roundsTo (negative : Bool) {digits m : Nat} {exponent e : Int} (hm : 0 < m)
    (hc : (Binary64.finite negative m e).IsCanonical)
    (h : RoundsTo m e (decimalValue digits exponent)) :
    Binary64.ofDecimal negative digits exponent = .finite negative m e := by
  have hd : digits ≠ 0 := by
    rintro rfl
    simpa [decimalValue] using h.pos hm
  have hhigh := h.exponent_le hc.1 hc.2.2.1 hd
  have hlow := h.le_exponent hm hc.2.1
  unfold Binary64.ofDecimal
  rw [if_neg hd, if_neg (by omega), if_neg (by omega)]
  rw [decimalValue_eq_div] at h
  split
  · have hneg : (-exponent).toNat = 0 := by omega
    refine ofRatio_of_roundsTo negative (by decide) hm hc ?_
    rw [hneg, pow_zero] at h
    rwa [Nat.cast_mul, cast_tenTo, Nat.cast_one]
  · have hpos : exponent.toNat = 0 := by omega
    refine ofRatio_of_roundsTo negative (tenTo_pos _) hm hc ?_
    rw [hpos, pow_zero, mul_one] at h
    rwa [cast_tenTo]

end WorkspaceTools.Number
