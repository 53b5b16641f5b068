import Mathlib.Data.Rat.Floor
import Mathlib.Tactic.Linarith

/-!
# Rounding to the nearest integer

The roundings of `ROUND_HALF_UP` and of `round`, on rationals; where `round` takes a half depends on
the float that holds it, and is a parameter. Rounding half away from zero leaves integers alone,
moves a number by at most one half, keeps the sign, and takes numbers of one sign that are at most
one apart to integers that are at most one apart.
-/

namespace PortfolioManagement

/-- The nearest integer; a half is rounded away from zero. -/
def roundHalfUp (x : ℚ) : ℤ := if 0 ≤ x then ⌊x + 1 / 2⌋ else -⌊-x + 1 / 2⌋

/-- The nearest integer; whether a half is rounded up is given. -/
def roundNearest (tieUp : Bool) (x : ℚ) : ℤ :=
  if x - ⌊x⌋ < 1 / 2 then ⌊x⌋
  else if 1 / 2 < x - ⌊x⌋ then ⌊x⌋ + 1
  else if tieUp then ⌊x⌋ + 1 else ⌊x⌋

@[simp] theorem roundNearest_intCast (tieUp : Bool) (n : ℤ) : roundNearest tieUp n = n := by
  rw [roundNearest, Int.floor_intCast, sub_self, if_pos (by norm_num)]

section
variable {x y : ℚ}

theorem roundHalfUp_of_nonneg (h : 0 ≤ x) : roundHalfUp x = ⌊x + 1 / 2⌋ := if_pos h

theorem roundHalfUp_neg (x : ℚ) : roundHalfUp (-x) = -roundHalfUp x := by
  rcases lt_trichotomy x 0 with hx | rfl | hx
  · rw [roundHalfUp_of_nonneg (by linarith), roundHalfUp, if_neg (not_le.mpr hx), neg_neg]
  · have hhalf : ⌊(1 / 2 : ℚ)⌋ = 0 := by
      rw [Int.floor_eq_iff]
      norm_num
    rw [neg_zero, roundHalfUp_of_nonneg le_rfl, zero_add, hhalf, neg_zero]
  · rw [roundHalfUp_of_nonneg hx.le, roundHalfUp, if_neg (by linarith), neg_neg]

@[simp] theorem roundHalfUp_intCast (n : ℤ) : roundHalfUp n = n := by
  have hnonneg : ∀ m : ℤ, 0 ≤ m → roundHalfUp m = m := by
    intro m hm
    rw [roundHalfUp_of_nonneg (by exact_mod_cast hm), Int.floor_eq_iff]
    constructor <;> linarith
  rcases le_total 0 n with hn | hn
  · exact hnonneg n hn
  · have h := hnonneg (-n) (by omega)
    rw [Int.cast_neg, roundHalfUp_neg] at h
    omega

/-- Rounding moves a number by at most one half. -/
theorem abs_roundHalfUp_sub_le (x : ℚ) : |(roundHalfUp x : ℚ) - x| ≤ 1 / 2 := by
  have hnonneg : ∀ z : ℚ, 0 ≤ z → |(roundHalfUp z : ℚ) - z| ≤ 1 / 2 := by
    intro z hz
    rw [roundHalfUp_of_nonneg hz, abs_le]
    have hlow := Int.lt_floor_add_one (z + 1 / 2)
    have hhigh := Int.floor_le (z + 1 / 2)
    constructor <;> linarith
  rcases le_total 0 x with hx | hx
  · exact hnonneg x hx
  · have h := hnonneg (-x) (by linarith)
    rw [roundHalfUp_neg, Int.cast_neg, ← abs_neg] at h
    convert h using 2
    ring

theorem roundHalfUp_nonneg (h : 0 ≤ x) : 0 ≤ roundHalfUp x := by
  rw [roundHalfUp_of_nonneg h]
  exact Int.floor_nonneg.mpr (by linarith)

/-- Of two numbers of one sign, at most one apart, the roundings are at most one apart. -/
theorem abs_roundHalfUp_sub_roundHalfUp_le (hsign : 0 ≤ x * y) (h : |x - y| ≤ 1) :
    |roundHalfUp x - roundHalfUp y| ≤ 1 := by
  have hnonneg : ∀ a b : ℚ, 0 ≤ a → 0 ≤ b → |a - b| ≤ 1 →
      |roundHalfUp a - roundHalfUp b| ≤ 1 := by
    intro a b ha hb hab
    obtain ⟨hlow, hhigh⟩ := abs_le.mp hab
    rw [roundHalfUp_of_nonneg ha, roundHalfUp_of_nonneg hb, abs_le]
    have hup : ⌊a + 1 / 2⌋ ≤ ⌊b + 1 / 2⌋ + 1 := by
      rw [← Int.floor_add_one]
      exact Int.floor_le_floor (by linarith)
    have hdown : ⌊b + 1 / 2⌋ ≤ ⌊a + 1 / 2⌋ + 1 := by
      rw [← Int.floor_add_one]
      exact Int.floor_le_floor (by linarith)
    omega
  rcases lt_trichotomy x 0 with hx | rfl | hx
  · have hy : y ≤ 0 := by
      by_contra hy
      exact absurd hsign (not_le.mpr (mul_neg_of_neg_of_pos hx (not_le.mp hy)))
    have hneg := hnonneg (-x) (-y) (by linarith) (by linarith) (by
      rw [← abs_neg]
      convert h using 2
      ring)
    rw [roundHalfUp_neg, roundHalfUp_neg, ← abs_neg] at hneg
    convert hneg using 2
    ring
  · rcases le_total 0 y with hy | hy
    · exact hnonneg 0 y le_rfl hy h
    · have hneg := hnonneg 0 (-y) le_rfl (by linarith) (by
        rw [← abs_neg]
        convert h using 2
        ring)
      have hzero : roundHalfUp 0 = 0 := by exact_mod_cast roundHalfUp_intCast 0
      rw [roundHalfUp_neg, hzero, zero_sub, neg_neg] at hneg
      rw [hzero, zero_sub, abs_neg]
      exact hneg
  · have hy : 0 ≤ y := by
      by_contra hy
      exact absurd hsign (not_le.mpr (mul_neg_of_pos_of_neg hx (not_le.mp hy)))
    exact hnonneg x y hx.le hy h

end

end PortfolioManagement
