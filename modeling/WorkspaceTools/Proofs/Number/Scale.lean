import Mathlib.Algebra.Order.Field.Basic
import Mathlib.Algebra.Order.Field.Power
import Mathlib.Data.Rat.Cast.Order
import Mathlib.Tactic.FieldSimp
import Mathlib.Tactic.Linarith
import Mathlib.Tactic.Positivity
import Mathlib.Tactic.Ring
import WorkspaceTools.Number.Shortest

/-!
# Scaled numbers as rationals

What the arithmetic on powers says about the rational numbers m · 2^e and c · 10^g:

* `compareScaled_eq_lt_iff` and `compareScaled_eq_gt_iff` compare them;
* `div_scaleRatio` divides a ratio by a power of two, and `binaryValue_eq_ratio` is m · 2^e itself;
* `floorOnGrid_le` and `lt_floorOnGrid` say between which points of a grid m · 2^e lies.
-/

namespace WorkspaceTools.Number

/-- The number m · 2^e. -/
def binaryValue (m : Nat) (e : Int) : ℚ := m * 2 ^ e

/-- The number c · 10^g. -/
def decimalValue (c : Nat) (g : Int) : ℚ := c * 10 ^ g

/-! ## Powers -/

@[simp] theorem cast_twoTo (n : Nat) : (twoTo n : ℚ) = 2 ^ n := by
  rw [twoTo]
  exact Nat.cast_pow 2 n

@[simp] theorem cast_tenTo (n : Nat) : (tenTo n : ℚ) = 10 ^ n := by
  rw [tenTo]
  exact Nat.cast_pow 10 n

/-- A power with an integer exponent, by the positive and the negative part of the exponent. -/
theorem zpow_eq_div (b : ℚ) (k : Int) : b ^ k = b ^ k.toNat / b ^ (-k).toNat := by
  rcases Int.le_total 0 k with h | h
  · have hn : (-k).toNat = 0 := by omega
    rw [hn, pow_zero, div_one, ← zpow_natCast, Int.toNat_of_nonneg h]
  · have hp : k.toNat = 0 := by omega
    rw [hp, pow_zero, one_div, ← zpow_natCast, Int.toNat_of_nonneg (by omega), zpow_neg, inv_inv]

theorem binaryValue_eq_div (m : Nat) (e : Int) :
    binaryValue m e = (m * 2 ^ e.toNat) / 2 ^ (-e).toNat := by
  rw [binaryValue, zpow_eq_div, mul_div_assoc]

theorem decimalValue_eq_div (c : Nat) (g : Int) :
    decimalValue c g = (c * 10 ^ g.toNat) / 10 ^ (-g).toNat := by
  rw [decimalValue, zpow_eq_div, mul_div_assoc]

/-! ## Comparisons -/

/-- One ratio is less than another if it is so multiplied by both denominators. -/
theorem cross_lt_iff {a b c d : Nat} (hb : 0 < b) (hd : 0 < d) :
    (a : ℚ) / b < c / d ↔ a * d < c * b := by
  rw [div_lt_div_iff₀ (by exact_mod_cast hb) (by exact_mod_cast hd)]
  exact_mod_cast Iff.rfl

theorem decimalValue_eq_ratio (c : Nat) (g : Int) :
    decimalValue c g = (c * tenTo g.toNat : Nat) / (tenTo (-g).toNat : Nat) := by
  rw [decimalValue_eq_div, Nat.cast_mul, cast_tenTo, cast_tenTo]

theorem binaryValue_eq_ratio (m : Nat) (e : Int) :
    binaryValue m e = (m * twoTo e.toNat : Nat) / (twoTo (-e).toNat : Nat) := by
  rw [binaryValue_eq_div, Nat.cast_mul, cast_twoTo, cast_twoTo]

theorem compareScaled_eq_lt_iff {c : Nat} {g : Int} {w : Nat} {q : Int} :
    compareScaled c g w q = .lt ↔ decimalValue c g < binaryValue w q := by
  rw [decimalValue_eq_ratio, binaryValue_eq_ratio, cross_lt_iff (tenTo_pos _) (twoTo_pos _),
    compareScaled, Nat.compare_eq_lt]

theorem compareScaled_eq_gt_iff {c : Nat} {g : Int} {w : Nat} {q : Int} :
    compareScaled c g w q = .gt ↔ binaryValue w q < decimalValue c g := by
  rw [decimalValue_eq_ratio, binaryValue_eq_ratio, cross_lt_iff (twoTo_pos _) (tenTo_pos _),
    compareScaled, Nat.compare_eq_gt]

/-! ## Ratios -/

/-- A ratio divided by a power of two. -/
theorem div_scaleRatio (num den : Nat) (e : Int) :
    ((scaleRatio num den e).1 : ℚ) / (scaleRatio num den e).2 = (num / den : ℚ) / 2 ^ e := by
  rw [zpow_eq_div]
  unfold scaleRatio
  split
  · have hn : (-e).toNat = 0 := by omega
    simp only [Nat.cast_mul, cast_twoTo, hn, pow_zero, div_one, div_div]
  · have hp : e.toNat = 0 := by omega
    simp only [Nat.cast_mul, cast_twoTo, hp, pow_zero, one_div, div_inv_eq_mul]
    ring

theorem scaleRatio_snd_pos (num : Nat) {den : Nat} (h : 0 < den) (e : Int) :
    0 < (scaleRatio num den e).2 := by
  unfold scaleRatio
  split
  · exact Nat.mul_pos h (twoTo_pos _)
  · exact h

/-! ## Grids -/

theorem div_floorOnGrid (m : Nat) (e g : Int) :
    binaryValue m e / 10 ^ g =
      ((m * twoTo e.toNat * tenTo (-g).toNat : Nat) : ℚ) / (tenTo g.toNat * twoTo (-e).toNat : Nat) := by
  rw [binaryValue_eq_div, zpow_eq_div]
  simp only [Nat.cast_mul, cast_twoTo, cast_tenTo]
  field_simp

/-- A quotient of natural numbers is the whole part of the ratio. -/
theorem cast_div_bounds (a : Nat) {b : Nat} (hb : 0 < b) :
    ((a / b : Nat) : ℚ) ≤ a / b ∧ (a : ℚ) / b < (a / b : Nat) + 1 := by
  have hb' : (0 : ℚ) < b := by exact_mod_cast hb
  rw [le_div_iff₀ hb', div_lt_iff₀ hb']
  constructor
  · exact_mod_cast Nat.div_mul_le_self a b
  · have hlt : a < (a / b + 1) * b := by
      rw [Nat.mul_comm]
      exact Nat.lt_mul_div_succ a hb
    exact_mod_cast hlt

theorem grid_den_pos (e g : Int) : 0 < tenTo g.toNat * twoTo (-e).toNat :=
  Nat.mul_pos (tenTo_pos _) (twoTo_pos _)

/-- The point of the grid below m · 2^e. -/
theorem floorOnGrid_le (m : Nat) (e g : Int) :
    decimalValue (floorOnGrid m e g) g ≤ binaryValue m e := by
  have h10 : (0 : ℚ) < 10 ^ g := by positivity
  have hfloor := (cast_div_bounds (m * twoTo e.toNat * tenTo (-g).toNat) (grid_den_pos e g)).1
  rw [← div_floorOnGrid] at hfloor
  exact (le_div_iff₀ h10).1 hfloor

/-- The point of the grid above m · 2^e. -/
theorem lt_floorOnGrid (m : Nat) (e g : Int) :
    binaryValue m e < decimalValue (floorOnGrid m e g + 1) g := by
  have h10 : (0 : ℚ) < 10 ^ g := by positivity
  have hceil := (cast_div_bounds (m * twoTo e.toNat * tenTo (-g).toNat) (grid_den_pos e g)).2
  rw [← div_floorOnGrid] at hceil
  have := (div_lt_iff₀ h10).1 hceil
  rw [decimalValue, Nat.cast_add, Nat.cast_one]
  exact this

end WorkspaceTools.Number
